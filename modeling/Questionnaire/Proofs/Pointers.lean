import Questionnaire.Schema.Check
import Questionnaire.Path
/-!
# Pointers to answer locations

An answer is stored under the segments of its question's id (`Path.segments`), a validation
issue names a location as a JSON pointer (`Schema.pointer`), and reconciliation reads the pointer
back in dotted form (`Issue.dottedPath`). This file relates the three encodings:

* `dottedPath_pointer_cons`: the dotted form of a pointer is the escaped texts of its steps
  joined by dots;
* `dottedPath_pointer_segments`: for the segments of an id, it is the id with each bracketed
  index turned into a dotted segment and then every `~` and `/` escaped;
* `Path.Plain`: an id written without `/`, `~` or a bracketed index, for which that is the id
  itself (`dottedPath_pointer_segments_of_plain`).

The rest counts characters: escaping keeps dots and brackets, drops every `/` and adds a `0` for
every `~`; turning a bracketed index into a segment trades a `[` for a `.`, so it changes an id
only by dropping a `[`. Those counts decide when an id can be read back from the dotted pointer
of its own segments.
-/

namespace Questionnaire

open Schema

/-! ## Escaping -/

/-- The characters of a text in a pointer step. -/
def escapeText (cs : List Char) : List Char :=
  cs.flatMap pointerEscape

@[simp] theorem escapeText_nil : escapeText [] = [] := rfl

theorem escapeText_cons (c : Char) (cs : List Char) :
    escapeText (c :: cs) = pointerEscape c ++ escapeText cs := List.flatMap_cons

theorem escapeText_append (cs ds : List Char) :
    escapeText (cs ++ ds) = escapeText cs ++ escapeText ds := List.flatMap_append

/-- A character other than `~` and `/` stands for itself. -/
theorem pointerEscape_of_ne {c : Char} (h₁ : c ≠ '~') (h₂ : c ≠ '/') : pointerEscape c = [c] := by
  simp [pointerEscape, h₁, h₂]

/-- A text without `~` and `/` is its own escape. -/
theorem escapeText_of_not_mem {cs : List Char} (h₁ : '~' ∉ cs) (h₂ : '/' ∉ cs) :
    escapeText cs = cs := by
  induction cs with
  | nil => rfl
  | cons c cs ih =>
    rw [List.mem_cons, not_or] at h₁ h₂
    rw [escapeText_cons, pointerEscape_of_ne (Ne.symm h₁.1) (Ne.symm h₂.1), ih h₁.2 h₂.2]
    rfl

/-- A text whose escape holds no `~` had nothing to escape. -/
theorem escapeText_eq_self {cs : List Char} (h : '~' ∉ escapeText cs) : escapeText cs = cs := by
  induction cs with
  | nil => rfl
  | cons c cs ih =>
    rw [escapeText_cons, List.mem_append, not_or] at h
    rw [escapeText_cons, ih h.2]
    by_cases h₁ : c = '~'
    · subst h₁
      simp [pointerEscape] at h
    · by_cases h₂ : c = '/'
      · subst h₂
        simp [pointerEscape] at h
      · rw [pointerEscape_of_ne h₁ h₂]
        rfl

/-- Escaping a nonempty text leaves it nonempty. -/
theorem escapeText_ne_nil {cs : List Char} (h : cs ≠ []) : escapeText cs ≠ [] := by
  obtain ⟨c, cs, rfl⟩ := List.exists_cons_of_ne_nil h
  rw [escapeText_cons]
  unfold pointerEscape
  split
  · simp
  · split <;> simp

/-- No `/` is left after escaping. -/
theorem slash_not_mem_escapeText (cs : List Char) : '/' ∉ escapeText cs := by
  induction cs with
  | nil => simp
  | cons c cs ih =>
    rw [escapeText_cons, List.mem_append, not_or]
    refine ⟨?_, ih⟩
    unfold pointerEscape
    split
    · simp
    · split
      · simp
      · simpa [eq_comm] using ‹¬c = '/'›

/-- The count of a character other than the escape characters in one escaped character. -/
theorem count_pointerEscape_of_ne (d : Char) {c : Char} (h₁ : c ≠ '~') (h₂ : c ≠ '/')
    (h₃ : c ≠ '0') (h₄ : c ≠ '1') : (pointerEscape d).count c = if d == c then 1 else 0 := by
  by_cases hd : d = '~'
  · subst hd
    simp [pointerEscape, Ne.symm h₁, Ne.symm h₃]
  · by_cases hs : d = '/'
    · subst hs
      simp [pointerEscape, Ne.symm h₁, Ne.symm h₂, Ne.symm h₄]
    · rw [pointerEscape_of_ne hd hs, List.count_singleton]

/-- Escaping keeps every character that is not part of an escape. -/
theorem count_escapeText_of_ne (cs : List Char) {c : Char} (h₁ : c ≠ '~') (h₂ : c ≠ '/')
    (h₃ : c ≠ '0') (h₄ : c ≠ '1') : (escapeText cs).count c = cs.count c := by
  induction cs with
  | nil => rfl
  | cons d cs ih =>
    rw [escapeText_cons, List.count_append, ih, List.count_cons,
      count_pointerEscape_of_ne d h₁ h₂ h₃ h₄]
    omega

/-- Every `~` brings one `0` with it. -/
theorem count_zero_escapeText (cs : List Char) :
    (escapeText cs).count '0' = cs.count '0' + cs.count '~' := by
  induction cs with
  | nil => rfl
  | cons d cs ih =>
    rw [escapeText_cons, List.count_append, ih, List.count_cons, List.count_cons]
    unfold pointerEscape
    by_cases hd : d = '~'
    · subst hd
      simp
      omega
    · by_cases hs : d = '/'
      · subst hs
        simp
      · simp [hd, hs, List.count_cons]
        omega

/-! ## Pointers in dotted form -/

/-- The dotted form of a pointer: the escaped texts of its steps, joined by dots. -/
theorem dottedPath_pointer_cons (p : Part) (ps : List Part) :
    (Issue.dottedPath (pointer (p :: ps))).toList =
      escapeText p.text.toList ++ ps.flatMap fun p => '.' :: escapeText p.text.toList := by
  -- escaped texts hold no `/`, so only the separators become dots
  have hslash : ∀ cs : List Char,
      (cs.flatMap pointerEscape).map (fun c => if c = '/' then '.' else c) =
        cs.flatMap pointerEscape := fun cs =>
    (List.map_congr_left fun c hc =>
      if_neg fun (e : c = '/') => slash_not_mem_escapeText cs (e ▸ hc)).trans (List.map_id _)
  unfold escapeText
  simp only [Issue.dottedPath, pointer, List.flatMap_cons, String.toList_ofList, List.cons_append]
  rw [List.map_append, hslash]
  congr 1
  induction ps with
  | nil => rfl
  | cons q qs ih =>
    rw [List.flatMap_cons, List.flatMap_cons, List.map_append, List.map_cons, ih, hslash]
    rfl

/-- A pointer to a location inside another reads, dotted, as the other's dotted form followed by
the steps further in. -/
theorem dottedPath_pointer_append (p : Part) (ps ext : List Part) :
    (Issue.dottedPath (pointer (p :: ps ++ ext))).toList =
      (Issue.dottedPath (pointer (p :: ps))).toList ++
        ext.flatMap fun p => '.' :: escapeText p.text.toList := by
  rw [List.cons_append, dottedPath_pointer_cons, dottedPath_pointer_cons, List.flatMap_append,
    List.append_assoc]

/-- The dotted pointer of some keys is empty only for no key or for one empty key. -/
theorem dottedPath_pointer_keys_ne_nil {ks : List String} (hne : ks ≠ []) (hks : ks ≠ [""]) :
    (Issue.dottedPath (pointer (ks.map .key))).toList ≠ [] := by
  obtain ⟨k, ks, rfl⟩ := List.exists_cons_of_ne_nil hne
  rw [List.map_cons, dottedPath_pointer_cons]
  cases ks with
  | nil =>
    have hk : k.toList ≠ [] := fun e => hks (by rw [String.toList_eq_nil_iff.1 e])
    simpa [Part.text] using escapeText_ne_nil hk
  | cons k' ks' => simp

/-! ## The segments of an id -/

/-- Cutting a text at a separator and joining the pieces with it gives the text back. -/
theorem splitOn_join (sep : Char) (cs : List Char) :
    ∃ s ss, Path.splitOn sep cs = s :: ss ∧ s ++ ss.flatMap (sep :: ·) = cs := by
  induction cs with
  | nil => exact ⟨[], [], rfl, rfl⟩
  | cons c cs ih =>
    obtain ⟨s, ss, hsplit, hjoin⟩ := ih
    by_cases hc : c = sep
    · refine ⟨[], s :: ss, by simp [Path.splitOn, hc, hsplit], ?_⟩
      rw [List.flatMap_cons, ← hjoin, hc]
      rfl
    · refine ⟨c :: s, ss, by simp [Path.splitOn, hc, hsplit], ?_⟩
      rw [List.cons_append, hjoin]

/-- Escaping pieces joined by dots escapes each piece. -/
theorem escapeText_flatMap_dot (ss : List (List Char)) :
    escapeText (ss.flatMap ('.' :: ·)) = ss.flatMap fun s => '.' :: escapeText s := by
  induction ss with
  | nil => rfl
  | cons s ss ih =>
    rw [List.flatMap_cons, List.flatMap_cons, escapeText_append, escapeText_cons, ih]
    rfl

/-- **The dotted pointer of an id's segments** is the id with each bracketed index made a dotted
segment, then escaped. -/
theorem dottedPath_pointer_segments (id : String) :
    (Issue.dottedPath (pointer ((Path.segments id).map .key))).toList =
      escapeText (Path.bracketsToDots id.toList) := by
  obtain ⟨s, ss, hsplit, hjoin⟩ := splitOn_join '.' (Path.bracketsToDots id.toList)
  rw [Path.segments, hsplit, List.map_cons, List.map_cons, dottedPath_pointer_cons, ← hjoin,
    escapeText_append, escapeText_flatMap_dot, List.flatMap_map, List.flatMap_map]
  simp [Part.text]

/-- An id written without `/`, `~` or a bracketed index. -/
def Path.Plain (id : String) : Prop :=
  '/' ∉ id.toList ∧ '~' ∉ id.toList ∧ Path.bracketsToDots id.toList = id.toList

instance (id : String) : Decidable (Path.Plain id) :=
  inferInstanceAs (Decidable (_ ∧ _ ∧ _))

/-- A plain id is the dotted pointer of its own segments. -/
theorem dottedPath_pointer_segments_of_plain {id : String} (h : Path.Plain id) :
    (Issue.dottedPath (pointer ((Path.segments id).map .key))).toList = id.toList := by
  rw [dottedPath_pointer_segments, h.2.2, escapeText_of_not_mem h.2.1 h.1]

/-! ## Bracketed indices -/

/-- What a bracket scan in state `st` has read and not yet written: nothing, or an open bracket
and the digits after it. -/
def Path.pending : Option (List Char) → List Char
  | none => []
  | some ds => '[' :: ds.reverse

/-- A bracketed index trades its `[` for a `.`: together the two counts are kept. -/
theorem count_open_add_dot_bracketsToDotsFrom (cs : List Char) (st : Option (List Char)) :
    (Path.bracketsToDotsFrom cs st).count '[' + (Path.bracketsToDotsFrom cs st).count '.' =
      (Path.pending st ++ cs).count '[' + (Path.pending st ++ cs).count '.' := by
  fun_induction Path.bracketsToDotsFrom cs st with
  | case1 => rfl
  | case2 ds => simp [Path.pending]
  | case3 rest ih => simp [Path.pending, ih]
  | case4 d rest hd ih =>
    simp only [List.count_cons, Path.pending, List.nil_append] at ih ⊢
    omega
  | case5 d rest ds hd ih => simp [Path.pending, ih]
  | case6 d rest ds hd hclose ih =>
    obtain ⟨rfl, -⟩ : d = ']' ∧ ds ≠ [] := by simpa using hclose
    simp only [Path.pending, List.nil_append, List.cons_append, List.count_cons,
      List.count_append] at ih ⊢
    simp
    omega
  | case7 d rest ds hd hclose ih₂ ih₁ =>
    split
    · rename_i hopen
      subst hopen
      simp only [Path.pending, List.nil_append, List.cons_append, List.count_cons,
        List.count_append, List.reverse_nil] at ih₂ ⊢
      omega
    · simp only [Path.pending, List.nil_append, List.cons_append, List.count_cons,
        List.count_append] at ih₁ ⊢
      omega

/-- Turning bracketed indices into dotted segments either changes nothing or drops a `[`. -/
theorem bracketsToDotsFrom_eq_or_count_lt (cs : List Char) (st : Option (List Char)) :
    Path.bracketsToDotsFrom cs st = Path.pending st ++ cs ∨
      (Path.bracketsToDotsFrom cs st).count '[' < (Path.pending st ++ cs).count '[' := by
  fun_induction Path.bracketsToDotsFrom cs st with
  | case1 => exact .inl rfl
  | case2 ds => exact .inl (by simp [Path.pending])
  | case3 rest ih => simpa [Path.pending] using ih
  | case4 d rest hd ih =>
    rcases ih with h | h
    · exact .inl (by simp [Path.pending, h])
    · exact .inr (by simp [Path.pending, List.count_cons] at h ⊢; omega)
  | case5 d rest ds hd ih => simpa [Path.pending] using ih
  | case6 d rest ds hd hclose ih =>
    -- a closed index always drops its `[`
    obtain ⟨rfl, -⟩ : d = ']' ∧ ds ≠ [] := by simpa using hclose
    have hle : (Path.bracketsToDotsFrom rest none).count '[' ≤ rest.count '[' := by
      rcases ih with h | h
      · simp [h, Path.pending]
      · simp only [Path.pending, List.nil_append] at h
        omega
    refine .inr ?_
    simp [Path.pending]
    omega
  | case7 d rest ds hd hclose ih₂ ih₁ =>
    split
    · rename_i hopen
      subst hopen
      rcases ih₂ with h | h
      · exact .inl (by simp [Path.pending, h])
      · exact .inr (by simp [Path.pending] at h ⊢; omega)
    · rcases ih₁ with h | h
      · exact .inl (by simp [Path.pending, h])
      · exact .inr (by simp [Path.pending, List.count_cons] at h ⊢; omega)

/-! ## Reading an id back -/

/-- **An id is read back from the dotted pointer of its own segments only when it is plain.**
That dotted pointer is never the id followed by a dot and more, and it is the id itself only
for a plain id: escaping adds a `0` for every `~` and leaves no `/`, and a bracketed index trades
a `[` for a `.`. -/
theorem plain_of_dottedPath_pointer_segments {id : String}
    (h : id.toList = (Issue.dottedPath (pointer ((Path.segments id).map .key))).toList ∨
      id.toList ++ ['.'] <+: (Issue.dottedPath (pointer ((Path.segments id).map .key))).toList) :
    Path.Plain id := by
  rw [dottedPath_pointer_segments] at h
  have hsum := count_open_add_dot_bracketsToDotsFrom id.toList none
  have hdot := count_escapeText_of_ne (Path.bracketsToDots id.toList) (c := '.')
    (by decide) (by decide) (by decide) (by decide)
  have hopen := count_escapeText_of_ne (Path.bracketsToDots id.toList) (c := '[')
    (by decide) (by decide) (by decide) (by decide)
  simp only [Path.pending, List.nil_append] at hsum
  rcases h with h | h
  · have hslash : '/' ∉ id.toList := h ▸ slash_not_mem_escapeText _
    -- no `[` was dropped, so no bracketed index was rewritten
    have hbr : Path.bracketsToDots id.toList = id.toList := by
      rcases bracketsToDotsFrom_eq_or_count_lt id.toList none with e | lt
      · simpa [Path.pending, Path.bracketsToDots] using e
      · have := congrArg (List.count '[') h
        rw [hopen] at this
        exact absurd this (Nat.ne_of_gt lt)
    -- as many `0` as after escaping, so there was no `~` to escape
    have htilde : '~' ∉ id.toList := by
      have h0 := count_zero_escapeText (Path.bracketsToDots id.toList)
      rw [← h, hbr] at h0
      exact List.count_eq_zero.1 (by omega)
    exact ⟨hslash, htilde, hbr⟩
  · -- a dot-prefix would need one more dot than the rewriting can make
    have h₁ := h.sublist.count_le '.'
    have h₂ := h.sublist.count_le '['
    rw [List.count_append, hdot] at h₁
    rw [List.count_append, hopen] at h₂
    simp at h₁ h₂
    change (Path.bracketsToDots id.toList).count '[' + (Path.bracketsToDots id.toList).count '.' =
      _ at hsum
    omega

end Questionnaire

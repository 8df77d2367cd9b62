import Questionnaire.Proofs.Pointers
import Questionnaire.Question
/-!
# Reconciling issues with questions

`reconcile` gathers the ids that the issues match, each once, in the order first met. Here:
which ids it gathers (`mem_reconcile`), so that it is empty exactly when every issue is
unmatched (`reconcile_eq_nil_iff`).

An issue matches a question by comparing the id with the issue's location in dotted form, as
text. An answer is stored under the segments of its id, so an issue reported at or inside that
answer matches the question exactly when the id reads back from the dotted pointer of its
segments: when it is plain, written without `/`, `~` or a bracketed index
(`issues_inside_answer_match`). The guess from a missing member reaches the question under the
same condition, unless the member is empty or the id is one empty segment and a key.
-/

namespace Questionnaire

/-- Appending new ids keeps the ids seen and adds the others. -/
theorem mem_appendNew (seen xs : List String) (x : String) :
    x ∈ appendNew seen xs ↔ x ∈ seen ∨ x ∈ xs := by
  induction xs generalizing seen with
  | nil => simp [appendNew]
  | cons y rest ih =>
    rw [appendNew]
    split
    · rename_i hy
      have hy : y ∈ seen := by simpa using hy
      rw [ih, List.mem_cons]
      constructor
      · rintro (h | h)
        · exact Or.inl h
        · exact Or.inr (Or.inr h)
      · rintro (h | rfl | h)
        · exact Or.inl h
        · exact Or.inl hy
        · exact Or.inr h
    · rw [ih, List.mem_append, List.mem_singleton, List.mem_cons]
      exact or_assoc

/-- The ids gathered from issues on top of `acc`. -/
theorem mem_foldl_appendNew (issues : List Issue) (ids acc : List String) (x : String) :
    x ∈ issues.foldl (fun acc i => appendNew acc (i.matchIds ids)) acc ↔
      x ∈ acc ∨ ∃ i ∈ issues, x ∈ i.matchIds ids := by
  induction issues generalizing acc with
  | nil => simp
  | cons i rest ih =>
    rw [List.foldl_cons, ih, mem_appendNew]
    simp only [List.mem_cons, exists_eq_or_imp]
    exact or_assoc

/-- The failing ids are the ids that some issue matches. -/
theorem mem_reconcile (issues : List Issue) (ids : List String) (x : String) :
    x ∈ reconcile issues ids ↔ ∃ i ∈ issues, x ∈ i.matchIds ids := by
  rw [reconcile, mem_foldl_appendNew]
  simp

/-- No id fails exactly when every issue matches no question. -/
theorem reconcile_eq_nil_iff (issues : List Issue) (ids : List String) :
    reconcile issues ids = [] ↔ ∀ i ∈ issues, i.matchIds ids = [] := by
  rw [List.eq_nil_iff_forall_not_mem]
  constructor
  · intro h i hi
    rw [List.eq_nil_iff_forall_not_mem]
    intro x hx
    exact h x ((mem_reconcile issues ids x).2 ⟨i, hi, hx⟩)
  · intro h x hx
    obtain ⟨i, hi, hx⟩ := (mem_reconcile issues ids x).1 hx
    rw [h i hi] at hx
    exact List.not_mem_nil hx

/-! ## Issues at the location of an answer -/

/-- A question id covers a dotted location when it is the location or a dot-prefix of it. -/
theorem covers_iff (target id : String) :
    Issue.covers target id = true ↔
      id.toList = target.toList ∨ id.toList ++ ['.'] <+: target.toList := by
  simp [Issue.covers, String.isPrefixOf, ← String.toList_inj]

/-- A question whose id covers the issue's location is among the ids the issue matches. -/
theorem mem_matchIds_of_covers {i : Issue} {ids : List String} {id : String} (hid : id ∈ ids)
    (h : Issue.covers (Issue.dottedPath i.path) id = true) : id ∈ i.matchIds ids := by
  have hmem : id ∈ ids.filter (Issue.covers (Issue.dottedPath i.path)) :=
    List.mem_filter.2 ⟨hid, h⟩
  unfold Issue.matchIds
  dsimp only
  rw [if_pos (by simpa [List.isEmpty_iff] using List.ne_nil_of_mem hmem)]
  exact hmem

/-- Without a missing member, an issue matches only ids that cover its location. -/
theorem covers_of_mem_matchIds {i : Issue} {ids : List String} {id : String}
    (hmp : i.missingProperty = none) (h : id ∈ i.matchIds ids) :
    Issue.covers (Issue.dottedPath i.path) id = true := by
  unfold Issue.matchIds at h
  dsimp only at h
  split at h
  · exact (List.mem_filter.1 h).2
  · simp [hmp] at h

/-- An issue at or inside the answer of a question with a plain id matches the question. -/
theorem mem_matchIds_of_plain {id : String} {ids : List String} (hid : id ∈ ids)
    (hplain : Path.Plain id) (ext : List Schema.Part) {i : Issue}
    (hpath : i.path = Schema.pointer ((Path.segments id).map .key ++ ext)) :
    id ∈ i.matchIds ids := by
  apply mem_matchIds_of_covers hid
  obtain ⟨s, ss, hseg⟩ := List.exists_cons_of_ne_nil (Path.segments_ne_nil id)
  have hdot := dottedPath_pointer_segments_of_plain hplain
  rw [hseg, List.map_cons] at hdot
  rw [covers_iff, hpath, hseg, List.map_cons, dottedPath_pointer_append, hdot]
  cases ext with
  | nil => exact .inl (List.append_nil _).symm
  | cons e es => exact .inr ⟨_, by rw [List.flatMap_cons, List.cons_append, List.append_assoc]; rfl⟩

/-- **Issues inside an answer match its question exactly for plain ids.** Every issue reported
at or inside the location stored under the segments of an id matches the id if and only if the
id is plain. -/
theorem matchIds_inside_answer_iff {id : String} {ids : List String} (hid : id ∈ ids) :
    (∀ (ext : List Schema.Part) (i : Issue),
      i.path = Schema.pointer ((Path.segments id).map .key ++ ext) → id ∈ i.matchIds ids) ↔
      Path.Plain id := by
  constructor
  · intro h
    -- the issue at the answer itself, with no missing member
    have hmem := h [] { path := Schema.pointer ((Path.segments id).map .key), message := "" }
      (by rw [List.append_nil])
    have hcov := covers_of_mem_matchIds rfl hmem
    exact plain_of_dottedPath_pointer_segments ((covers_iff _ _).1 hcov)
  · intro hplain ext i hpath
    exact mem_matchIds_of_plain hid hplain ext hpath

/-! ## Guessing from a missing member -/

/-- For a plain id cut into `pre` and a last key `k`, the guess from the dotted pointer of `pre`
and the missing member `k` is the id; except when `pre` is one empty segment, whose pointer
`/` reads as the root. -/
theorem guess_eq_of_plain {id : String} {pre : List String} {k : String} (hplain : Path.Plain id)
    (hseg : Path.segments id = pre ++ [k]) (hpre : pre ≠ [""]) :
    (if (Issue.dottedPath (Schema.pointer (pre.map .key))).isEmpty then k
      else Issue.dottedPath (Schema.pointer (pre.map .key)) ++ "." ++ k) = id := by
  have hdot := dottedPath_pointer_segments_of_plain hplain
  rw [hseg, List.map_append] at hdot
  cases pre with
  | nil =>
    -- a one-segment id is its only key, and the pointer of no step is the root
    rw [List.map_nil, List.nil_append, List.map_singleton, dottedPath_pointer_cons,
      List.flatMap_nil, List.append_nil] at hdot
    change escapeText k.toList = id.toList at hdot
    have hk := escapeText_eq_self (hdot ▸ hplain.2.1)
    rw [if_pos (by decide), ← String.toList_inj, ← hdot, hk]
  | cons p ps =>
    rw [List.map_cons, dottedPath_pointer_append, List.map_singleton, List.flatMap_singleton]
      at hdot
    change (Issue.dottedPath (Schema.pointer (.key p :: ps.map .key))).toList ++
      '.' :: escapeText k.toList = id.toList at hdot
    have hk : escapeText k.toList = k.toList := by
      apply escapeText_eq_self
      intro hmem
      exact hplain.2.1 (hdot ▸ List.mem_append_right _ (List.mem_cons_of_mem _ hmem))
    -- the pointer of a nonempty `pre` other than one empty segment reads as a nonempty text
    have hne := dottedPath_pointer_keys_ne_nil (List.cons_ne_nil p ps) hpre
    have hempty : (Issue.dottedPath (Schema.pointer ((p :: ps).map .key))).isEmpty = false :=
      Bool.eq_false_iff.2 fun h => hne (by rw [String.isEmpty_iff.1 h]; rfl)
    rw [hempty, if_neg (by decide), ← String.toList_inj, String.toList_append,
      String.toList_append, List.map_cons, ← hdot, hk, List.append_assoc]
    rfl

/-- **The guess from a missing member reaches the last key.** When no question covers the
location of an issue, the issue is at the location of a plain id without its last key `k`, and
names `k` as its missing member, it matches exactly that id; unless `k` is empty, which the
guess ignores, or the rest of the id is one empty segment. -/
theorem matchIds_missing_member {id : String} {ids : List String} (hid : id ∈ ids)
    (hplain : Path.Plain id) {pre : List String} {k : String}
    (hseg : Path.segments id = pre ++ [k]) (hk : k ≠ "") (hpre : pre ≠ [""]) {i : Issue}
    (hpath : i.path = Schema.pointer (pre.map .key)) (hmiss : i.missingProperty = some k)
    (hnone : ids.filter (Issue.covers (Issue.dottedPath i.path)) = []) :
    i.matchIds ids = [id] := by
  have hguess := guess_eq_of_plain hplain hseg hpre
  rw [← hpath] at hguess
  unfold Issue.matchIds
  dsimp only
  rw [hnone, hmiss, if_neg (by decide)]
  split
  · rename_i heq
    cases heq
  · rename_i heq
    exact absurd (Option.some.inj heq) hk
  · rename_i prop _ heq
    cases heq
    rw [hguess, List.filter_beq, List.take_replicate]
    have hcount : 0 < ids.count id := List.count_pos_iff.2 hid
    rw [Nat.min_eq_left hcount]
    rfl

/-- **An issue inside an answer is reconciled to its question exactly when the id is plain.**
For every question list and every question `q` of it: every issue reported at or inside the
location where `q`'s answer is stored matches `q` if and only if the id of `q` is written
without `/`, `~` or a bracketed index. For such an id cut into `pre` and a last key `k`, an issue
at the location of `pre` naming `k` as its missing member, which no question covers, matches
exactly `q`, unless `k` is empty or `pre` is one empty segment. -/
theorem issues_inside_answer_match (qs : List Question) (q : Question) (hq : q ∈ qs) :
    ((∀ (ext : List Schema.Part) (i : Issue),
        i.path = Schema.pointer ((Path.segments q.id).map .key ++ ext) →
        q.id ∈ i.matchIds (qs.map (·.id))) ↔ Path.Plain q.id) ∧
    (Path.Plain q.id → ∀ (pre : List String) (k : String), Path.segments q.id = pre ++ [k] →
      k ≠ "" → pre ≠ [""] → ∀ i : Issue, i.path = Schema.pointer (pre.map .key) →
      i.missingProperty = some k →
      (qs.map (·.id)).filter (Issue.covers (Issue.dottedPath i.path)) = [] →
      i.matchIds (qs.map (·.id)) = [q.id]) := by
  have hid : q.id ∈ qs.map (·.id) := List.mem_map_of_mem hq
  exact ⟨matchIds_inside_answer_iff hid,
    fun hplain _ _ hseg hk hpre _ hpath hmiss hnone =>
      matchIds_missing_member hid hplain hseg hk hpre hpath hmiss hnone⟩

/-- A question `project.name` of a one-question list. -/
theorem issues_inside_answer_match_name :
    let qs : List Question := [{ id := "project.name", label := "Name", kind := .text }]
    let q : Question := { id := "project.name", label := "Name", kind := .text }
    q ∈ qs ∧
    ((∀ (ext : List Schema.Part) (i : Issue),
        i.path = Schema.pointer ((Path.segments q.id).map .key ++ ext) →
        q.id ∈ i.matchIds (qs.map (·.id))) ↔ Path.Plain q.id) ∧
    (Path.Plain q.id → ∀ (pre : List String) (k : String), Path.segments q.id = pre ++ [k] →
      k ≠ "" → pre ≠ [""] → ∀ i : Issue, i.path = Schema.pointer (pre.map .key) →
      i.missingProperty = some k →
      (qs.map (·.id)).filter (Issue.covers (Issue.dottedPath i.path)) = [] →
      i.matchIds (qs.map (·.id)) = [q.id]) :=
  ⟨List.mem_singleton.2 rfl, issues_inside_answer_match _ _ (List.mem_singleton.2 rfl)⟩

/-- The id `a[0]` is stored under `a` and `0`, but the issue at that location reads `a.0` and
does not match it; the id `.x` is not guessed from the root location with the missing member
`x`, nor `a.` from `/a` with the empty missing member. -/
theorem bracketed_id_unmatched :
    "a[0]" ∉ Issue.matchIds
        { path := Schema.pointer ((Path.segments "a[0]").map .key), message := "is invalid" }
        ["a[0]"] ∧
      Issue.matchIds
        { path := Schema.pointer [.key ""], message := "is a required property",
          missingProperty := some "x" } [".x"] = [] ∧
      Issue.matchIds
        { path := Schema.pointer [.key "a"], message := "is a required property",
          missingProperty := some "" } ["a."] = [] := by
  decide +kernel

end Questionnaire

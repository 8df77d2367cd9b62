import Questionnaire.Proofs.PrettyJson
import Questionnaire.Proofs.ConditionLiterals
import Questionnaire.Proofs.Acquisition
/-!
# Re-asking a question offers its answer back

A stored answer that has to be repaired is asked for again, with the answer offered as the
prompt's default (`Descriptor.forQuestion`). Each kind writes its answer into the prompt in its
own way, and the stored shape is read back from what the person submits (`Answer.normalize`).
Taking the default unchanged stores the same answer again when the two invert each other:

* a boolean is offered as it is, and so are select, text and textarea answers;
* multiselect items are offered when they are options, so a question without options offers the
  empty list, whatever was stored;
* chips are offered joined by `, ` and cut again at every comma, so no chip may hold a comma;
* a table is offered as indented JSON text and read back by the JSON reader, which gives back
  every faithful document (`Json.Faithful`: no repeated key, no NaN but the canonical one).

`reask_default_restores` is the theorem. The first two limits are reached by answers that
acquisition stores (`reask_drops_items`).
-/

namespace Questionnaire

/-! ## Chips joined and cut again -/

namespace Path

/-- Cutting at a separator ends the first piece at the first separator. -/
theorem splitOn_append_sep {sep : Char} {cs : List Char} (hcs : sep ∉ cs) (ds : List Char) :
    splitOn sep (cs ++ sep :: ds) = cs :: splitOn sep ds := by
  induction cs with
  | nil => simp [splitOn]
  | cons c cs ih =>
    have hc : c ≠ sep := fun h => hcs (h ▸ List.mem_cons_self)
    rw [List.cons_append, splitOn, if_neg hc, ih (fun h => hcs (List.mem_cons_of_mem _ h))]

/-- A text without the separator is one piece. -/
theorem splitOn_of_not_mem {sep : Char} {cs : List Char} (hcs : sep ∉ cs) :
    splitOn sep cs = [cs] := by
  induction cs with
  | nil => rfl
  | cons c cs ih =>
    have hc : c ≠ sep := fun h => hcs (h ▸ List.mem_cons_self)
    rw [splitOn, if_neg hc, ih (fun h => hcs (List.mem_cons_of_mem _ h))]

/-- Pieces without a comma, joined by `, `, are cut back into the pieces, each one after the
first led by the blank of its joint. -/
theorem splitOn_intercalate_comma (x : List Char) (xs : List (List Char)) (hx : ',' ∉ x)
    (hxs : ∀ y ∈ xs, ',' ∉ y) :
    splitOn ',' ([',', ' '].intercalate (x :: xs)) = x :: xs.map (' ' :: ·) := by
  induction xs generalizing x with
  | nil => simp [splitOn_of_not_mem hx]
  | cons y ys ih =>
    have hjoin : [',', ' '].intercalate (x :: y :: ys) =
        x ++ ',' :: ' ' :: [',', ' '].intercalate (y :: ys) := by simp
    rw [hjoin, splitOn_append_sep hx, splitOn, if_neg (by decide),
      ih y (hxs y List.mem_cons_self) (fun z hz => hxs z (List.mem_cons_of_mem _ hz))]
    rfl

end Path

namespace Text

/-- A non-empty text with no blank at either end is its own stripped text. -/
theorem strip_of_trimmed {x : String} (hne : x ≠ "") (hx : Trimmed x) : strip x = x :=
  Condition.strip_unpadded ⟨by simpa using hne, hx.1, hx.2⟩

/-- Stripping drops a leading blank. -/
theorem strip_blank_cons {c : Char} (hc : isBlank c = true) (cs : List Char) :
    strip (String.ofList (c :: cs)) = strip (String.ofList cs) := by
  simp [strip, dropBlanks, hc]

end Text

namespace Answer

variable {q : Question}

/-- **Chips joined by `, ` are cut back into the same chips**, when each is non-empty, trimmed
and free of commas. -/
theorem chips_joined {xs : List String}
    (hxs : ∀ x ∈ xs, x ≠ "" ∧ Text.Trimmed x ∧ ',' ∉ x.toList) :
    chips (.str (", ".intercalate xs)) = xs := by
  cases xs with
  | nil => rfl
  | cons x rest =>
    obtain ⟨hne, htrim, hcomma⟩ := hxs x List.mem_cons_self
    have hrest : ∀ y ∈ rest, y ≠ "" ∧ Text.Trimmed y ∧ ',' ∉ y.toList :=
      fun y hy => hxs y (List.mem_cons_of_mem _ hy)
    -- the joined text starts with the first chip, so it is not empty
    have htruthy : (Value.str (", ".intercalate (x :: rest))).truthy = true := by
      cases rest with
      | nil => simpa [Value.truthy] using hne
      | cons y ys => simp [Value.truthy, String.intercalate_cons_cons]
    have hsplit : Path.splitOn ',' (", ".intercalate (x :: rest)).toList =
        x.toList :: rest.map fun y => ' ' :: y.toList := by
      rw [String.toList_intercalate, List.map_cons,
        show ", ".toList = [',', ' '] from rfl,
        Path.splitOn_intercalate_comma _ _ hcomma (by simpa using fun y hy => (hrest y hy).2.2),
        List.map_map]
      rfl
    -- every piece strips to its chip, and no chip is empty
    have hpieces :
        (rest.map fun y => ' ' :: y.toList).map (Text.strip ∘ String.ofList) = rest := by
      rw [List.map_map]
      refine (List.map_congr_left fun y hy => ?_).trans (List.map_id rest)
      obtain ⟨hyne, hytrim, -⟩ := hrest y hy
      simp only [Function.comp_apply, id]
      rw [Text.strip_blank_cons (by decide), String.ofList_toList,
        Text.strip_of_trimmed hyne hytrim]
    simp only [chips, htruthy, if_true, Value.text, hsplit, List.map_cons, hpieces,
      Function.comp_apply, String.ofList_toList, Text.strip_of_trimmed hne htrim]
    rw [List.filter_eq_self]
    intro y hy
    have hy' : y ≠ "" := (hxs y hy).1
    simpa using hy'

/-- Chips offered as joined text are stored again as the same chips. -/
theorem normalize_joined_chips (hk : q.kind = .chips) {xs : List String}
    (hxs : ∀ x ∈ xs, x ≠ "" ∧ Text.Trimmed x ∧ ',' ∉ x.toList) :
    normalize q (.str (", ".intercalate xs)) = .ok (Value.ofStrings xs) := by
  simp only [normalize, hk, chips_joined hxs]

/-- Texts offered as multiselect items are stored as the same texts. -/
theorem normalize_ofStrings (hk : q.kind = .multiselect) (xs : List String) :
    normalize q (Value.ofStrings xs) = .ok (Value.ofStrings xs) := by
  simp [normalize, hk, Value.ofStrings, optionText, Value.text]

/-- A boolean answer is stored as it is. -/
theorem normalize_bool (hk : q.kind = .boolean) (b : Bool) :
    normalize q (.bool b) = .ok (.bool b) := by
  simp [normalize, hk]

/-- Select, text and textarea answers are stored as they are given. -/
theorem normalize_of_asIs (hk : q.kind = .select ∨ q.kind = .text ∨ q.kind = .textarea)
    (v : Value) : normalize q v = .ok v := by
  rcases hk with hk | hk | hk <;> simp [normalize, hk]

end Answer

/-! ## Tables offered as JSON text -/

namespace Json

/-- An opening character is no blank. -/
theorem IsOpening.not_isBlank {c : Char} (h : IsOpening c) : Text.isBlank c = false := by
  rcases h with hd | hm
  · obtain ⟨h1, h2⟩ := (Decimal.isDigit_iff c).1 hd
    exact Condition.isBlank_of_isLow ⟨by omega, by omega⟩
  · simp only [List.mem_cons, List.not_mem_nil, or_false] at hm
    rcases hm with rfl | rfl | rfl | rfl | rfl | rfl | rfl | rfl | rfl <;> decide

/-- The JSON text of a value is never blank. -/
theorem isBlankText_render (l : Layout) (v : Value) : Text.isBlankText (render l v) = false := by
  obtain ⟨c, r, hw, hc⟩ := write_head l 0 v
  simp [Text.isBlankText, render, hw, hc.not_isBlank]

end Json

namespace Answer

/-- **A table offered as JSON text is read back as the document**, as `Json.reread` says, in
every readable layout. -/
theorem normalize_rendered_table (hk : q.kind = .table) {l : Json.Layout} (hl : l.Readable)
    (v : Value) : normalize q (.str (Json.render l v)) = .ok (Json.reread v) := by
  simp only [normalize, hk, Json.isBlankText_render, Json.read_render hl, Bool.false_eq_true,
    if_false]

end Answer

/-! ## The default offered

What the prompt offers for a stored answer of each kind, the answer being no null. -/

namespace Descriptor

variable {q : Question}

theorem build_default_bool (hk : q.kind = .boolean) (b : Bool) :
    (build q (.bool b)).default = .bool b := by
  unfold build
  simp [hk]

theorem build_default_ofStrings (hk : q.kind = .multiselect) (xs : List String) :
    (build q (Value.ofStrings xs)).default =
      Value.ofStrings (xs.filter (q.options.getD []).contains) := by
  unfold build
  simp [hk, Value.ofStrings, Value.text, Function.comp_def]

theorem build_default_chips (hk : q.kind = .chips) (xs : List String) :
    (build q (Value.ofStrings xs)).default = .str (", ".intercalate xs) := by
  unfold build
  simp [hk, Value.ofStrings, Value.text, Function.comp_def]

theorem build_default_table (hk : q.kind = .table) (rows : List Value) :
    (build q (.arr rows)).default = .str (Json.render .prettyAscii (.arr rows)) := by
  unfold build
  simp [hk]

theorem build_default_asIs (hk : q.kind = .select ∨ q.kind = .text ∨ q.kind = .textarea)
    {v : Value} (hv : v ≠ .null) : (build q v).default = v := by
  cases v with
  | null => exact absurd rfl hv
  | _ => rcases hk with hk | hk | hk <;> (unfold build; simp [hk])

/-- **The default offered for a stored answer is read back as the answer**, for every kind: a
multiselect question without options must hold the empty list, chips must hold no comma, and a
table must be faithful to its JSON text. -/
theorem normalize_build_default {v : Value} (hw : Answer.WellFormed q v) (hv : v ≠ .null)
    (hmulti : q.kind = .multiselect → q.options.getD [] = [] → v = .arr [])
    (hchips : q.kind = .chips → ∀ xs, v = Value.ofStrings xs → ∀ x ∈ xs, ',' ∉ x.toList)
    (htable : q.kind = .table → Json.Faithful v) :
    Answer.normalize q (build q v).default = .ok v := by
  cases hk : q.kind with
  | boolean =>
    obtain ⟨b, rfl⟩ := hw.boolean hk
    rw [build_default_bool hk, Answer.normalize_bool hk]
  | multiselect =>
    obtain ⟨xs, rfl, hopts⟩ := hw.multiselect hk
    rw [build_default_ofStrings hk, Answer.normalize_ofStrings hk]
    -- with options every stored item is one and is offered; without, nothing was stored
    by_cases ho : q.options.getD [] = []
    · have hnil : xs = [] := by simpa [Value.ofStrings] using hmulti hk ho
      simp [hnil]
    · rw [List.filter_eq_self.2 fun x hx => by simpa using hopts ho x hx]
  | chips =>
    obtain ⟨xs, rfl, hxs⟩ := hw.chips hk
    rw [build_default_chips hk, Answer.normalize_joined_chips hk fun x hx =>
      ⟨(hxs x hx).1, (hxs x hx).2, hchips hk xs rfl x hx⟩]
  | table =>
    obtain ⟨rows, rfl, -⟩ := hw.table hk
    rw [build_default_table hk, Answer.normalize_rendered_table hk Json.Layout.readable_prettyAscii,
      Json.reread_of_faithful (htable hk)]
  | select => rw [build_default_asIs (.inl hk) hv, Answer.normalize_of_asIs (.inl hk)]
  | text => rw [build_default_asIs (.inr (.inl hk)) hv, Answer.normalize_of_asIs (.inr (.inl hk))]
  | textarea =>
    rw [build_default_asIs (.inr (.inr hk)) hv, Answer.normalize_of_asIs (.inr (.inr hk))]

end Descriptor

end Questionnaire

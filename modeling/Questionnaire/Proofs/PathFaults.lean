import Questionnaire.Proofs.ReadAfterWrite
import Questionnaire.Condition
/-!
# Where reading and writing a path fail

An array is walked by index: a segment of digit-like characters is read as an integer. A text
such as `²` or `①` is digit-like throughout and yet no integer, so an array read or written at
it stops with `notAnInteger` (`Path.Unreadable`). That is the one way a read, a write into an
object and a condition fail, and only at a segment of their own path:

* `lookupSegs_error` and `lookupSegs_ok`: a read fails only at an unreadable segment of its path,
  and along readable segments it always returns, with the value found or nothing;
* `setSegs_error` and `setSegs_ok`: the same for a write into a value that takes its first segment
  as it is; `setAt_obj_error` and `setAt_obj_ok` for a write into an object;
* `isActive_error` and `isActive_ok`: a condition fails only at an unreadable segment of the path
  it reads.

No other fault arises on these paths: no index out of range, and no member of a scalar.
-/

namespace Questionnaire

namespace Path

/-- A segment that looks like an array index and is no integer: digit-like throughout, with a
digit of another numeric type than decimal. -/
def Unreadable (seg : String) : Prop :=
  Text.isDigitText seg = true ∧ Text.readInt seg = none

instance (seg : String) : Decidable (Unreadable seg) :=
  inferInstanceAs (Decidable (_ ∧ _))

example : Unreadable "²" ∧ Unreadable "1①" ∧ ¬ Unreadable "٣" ∧ ¬ Unreadable "x" := by decide

end Path

namespace Value


/-! ## One segment -/

/-- Reading one segment fails only at an unreadable segment. -/
theorem childAt_error {v : Value} {seg : String} {e : Fault} (h : childAt v seg = .error e) :
    Path.Unreadable seg ∧ e = .notAnInteger seg := by
  cases v with
  | arr items =>
    simp only [childAt, readIndex] at h
    split at h
    · rename_i hs
      cases hn : Text.readInt seg with
      | none =>
        simp only [hn, Except.map] at h
        cases h
        exact ⟨⟨hs, hn⟩, rfl⟩
      | some n => simp [hn, Except.map] at h
    · cases h
  | obj fields => cases h
  | _ => cases h

/-- Checking whether a value takes a segment fails only at an unreadable segment. -/
theorem admitsSegment_error {v : Value} {seg : String} {e : Fault}
    (h : admitsSegment v seg = .error e) : Path.Unreadable seg ∧ e = .notAnInteger seg := by
  cases v with
  | arr items =>
    simp only [admitsSegment] at h
    split at h
    · rename_i hs
      split at h
      · rename_i hn
        cases h
        exact ⟨⟨hs, hn⟩, rfl⟩
      · cases h
    · cases h
  | obj fields => cases h
  | _ => cases h

/-- Descending into a child fails only at an unreadable next segment. -/
theorem descendInto_error {seg next : String} {child : Value} {e : Fault}
    (h : descendInto seg next child = .error e) :
    Path.Unreadable next ∧ e = .notAnInteger next := by
  unfold descendInto at h
  split at h
  · rename_i e' he
    cases h
    exact admitsSegment_error he
  · cases h
  · split at h <;> cases h

/-- A value that takes a segment is an object or an array, and an array takes it at a slot. -/
theorem Admits.cases {v : Value} {seg : String} (h : Admits v seg) :
    (∃ fields, v = .obj fields) ∨
      ∃ items items' i, v = .arr items ∧ arrayTarget items seg = .ok (items', i) := by
  cases v with
  | obj fields => exact .inl ⟨fields, rfl⟩
  | arr items =>
    obtain ⟨-, k, hk, hle⟩ := h.arr
    exact .inr ⟨items, _, k, rfl, arrayTarget_of_index hk hle⟩
  | _ => simp [Admits, admitsSegment] at h

/-! ## Reads -/

/-- **A read fails only at an unreadable segment of its path.** -/
theorem lookupSegs_error {segs : List String} :
    ∀ {v : Value} {e : Fault}, lookupSegs v segs = .error e →
      ∃ seg ∈ segs, Path.Unreadable seg ∧ e = .notAnInteger seg := by
  induction segs with
  | nil => intro v e h; cases h
  | cons seg rest ih =>
    intro v e h
    rw [lookupSegs_cons] at h
    -- either the first segment fails, or the rest fails below the child it reached
    cases hc : childAt v seg with
    | error e' =>
      rw [hc] at h
      cases h
      exact ⟨seg, List.mem_cons_self, childAt_error hc⟩
    | ok o =>
      rw [hc] at h
      cases o with
      | none => cases h
      | some child =>
        obtain ⟨s, hs, hbad⟩ := ih h
        exact ⟨s, List.mem_cons_of_mem _ hs, hbad⟩

example : (Value.obj [("a", .arr [.int 1])]).lookup "a.²" = .error (.notAnInteger "²") := rfl

/-- A read along readable segments returns, with the value found or nothing. -/
theorem lookupSegs_ok {segs : List String} (hsegs : ∀ seg ∈ segs, ¬ Path.Unreadable seg)
    (v : Value) : ∃ r, lookupSegs v segs = .ok r := by
  cases h : lookupSegs v segs with
  | ok r => exact ⟨r, rfl⟩
  | error e =>
    obtain ⟨seg, hseg, hbad, -⟩ := lookupSegs_error h
    exact absurd hbad (hsegs seg hseg)

/-! ## Writes -/

/-- A failed write at two segments or more failed on descending into the child under the first
one, or below it. -/
theorem setSegs_cons_cons_error {v x : Value} {seg next : String} {rest : List String}
    {e : Fault} (hv : Admits v seg) (h : setSegs v (seg :: next :: rest) x = .error e) :
    ∃ child, descendInto seg next child = .error e ∨
      ∃ start reps, descendInto seg next child = .ok (start, reps) ∧
        setSegs start (next :: rest) x = .error e := by
  rcases hv.cases with ⟨fields, rfl⟩ | ⟨items, items', i, rfl, ht⟩
  · simp only [setSegs] at h
    refine ⟨(fieldGet? fields seg).getD .null, ?_⟩
    split at h
    · rename_i e' hd
      cases h
      exact .inl hd
    · rename_i start reps hd
      split at h
      · rename_i e' hs
        cases h
        exact .inr ⟨start, reps, hd, hs⟩
      · cases h
  · simp only [setSegs, ht] at h
    refine ⟨items'[i]?.getD .null, ?_⟩
    split at h
    · rename_i e' hd
      cases h
      exact .inl hd
    · rename_i start reps hd
      split at h
      · rename_i e' hs
        cases h
        exact .inr ⟨start, reps, hd, hs⟩
      · cases h

/-- **A write fails only at an unreadable segment of its path.** Into a value that takes the
first segment, the first step never fails: the child is there or is created. -/
theorem setSegs_error {x : Value} {rest : List String} :
    ∀ {v : Value} {seg : String} {e : Fault}, Admits v seg →
      setSegs v (seg :: rest) x = .error e →
        ∃ s ∈ rest, Path.Unreadable s ∧ e = .notAnInteger s := by
  induction rest with
  | nil =>
    intro v seg e hv h
    rcases hv.cases with ⟨fields, rfl⟩ | ⟨items, items', i, rfl, ht⟩
    · cases h
    · simp [setSegs, ht] at h
  | cons next rest ih =>
    intro v seg e hv h
    -- the descent fails at `next`, or the write below the child fails further down
    obtain ⟨child, hd | ⟨start, reps, hd, hs⟩⟩ := setSegs_cons_cons_error hv h
    · exact ⟨next, List.mem_cons_self, descendInto_error hd⟩
    · obtain ⟨s, hmem, hbad⟩ := ih (descendInto_admits hd) hs
      exact ⟨s, List.mem_cons_of_mem _ hmem, hbad⟩

/-- A write along readable segments into a value that takes the first one returns. -/
theorem setSegs_ok {v x : Value} {seg : String} {rest : List String} (hv : Admits v seg)
    (hrest : ∀ s ∈ rest, ¬ Path.Unreadable s) : ∃ r, setSegs v (seg :: rest) x = .ok r := by
  cases h : setSegs v (seg :: rest) x with
  | ok r => exact ⟨r, rfl⟩
  | error e =>
    obtain ⟨s, hs, hbad, -⟩ := setSegs_error hv h
    exact absurd hbad (hrest s hs)

/-- A write into an object fails only at an unreadable segment of its path. -/
theorem setAt_obj_error {fields : List (String × Value)} {p : String} {x : Value} {e : Fault}
    (h : setAt (.obj fields) p x = .error e) :
    ∃ s ∈ Path.segments p, Path.Unreadable s ∧ e = .notAnInteger s := by
  obtain ⟨seg, rest, hsegs⟩ := List.exists_cons_of_ne_nil (Path.segments_ne_nil p)
  rw [setAt, hsegs] at h
  obtain ⟨s, hs, hbad⟩ := setSegs_error (admits_obj fields seg) h
  exact ⟨s, hsegs ▸ List.mem_cons_of_mem _ hs, hbad⟩

/-- A write into an object along readable segments returns. -/
theorem setAt_obj_ok (fields : List (String × Value)) {p : String} (x : Value)
    (hp : ∀ s ∈ Path.segments p, ¬ Path.Unreadable s) : ∃ r, setAt (.obj fields) p x = .ok r := by
  cases h : setAt (.obj fields) p x with
  | ok r => exact ⟨r, rfl⟩
  | error e =>
    obtain ⟨s, hs, hbad, -⟩ := setAt_obj_error h
    exact absurd hbad (hp s hs)

end Value

/-! ## Conditions -/

namespace Condition

/-- The path a condition reads, if it reads one. -/
def path? : Condition → Option String
  | .always _ => none
  | .equals left _ => some left
  | .oneOf left _ => some left

/-- A condition fails only where the read of its path fails. -/
theorem holds_error {c : Condition} {g : Value} {e : Fault} (h : c.holds g = .error e) :
    ∃ p ∈ c.path?, g.lookup p = .error e := by
  cases c with
  | always src => cases h
  | equals left right =>
    refine ⟨left, rfl, ?_⟩
    simp only [holds] at h
    cases hl : g.lookup left with
    | error e' =>
      rw [hl] at h
      cases h
      rfl
    | ok r => rw [hl] at h; cases h
  | oneOf left items =>
    refine ⟨left, rfl, ?_⟩
    simp only [holds] at h
    cases hl : g.lookup left with
    | error e' =>
      rw [hl] at h
      cases h
      rfl
    | ok r => rw [hl] at h; cases h

end Condition


/-- **A condition fails only at an unreadable segment of the path it reads.** A missing condition,
one that does not parse and one whose path is readable all give a boolean. -/
theorem isActive_error {d : Option String} {g : Value} {e : Fault}
    (h : isActive d g = .error e) :
    ∃ text p s, d = some text ∧ p ∈ (Condition.parse text).path? ∧ s ∈ Path.segments p ∧
      Path.Unreadable s ∧ e = .notAnInteger s := by
  cases d with
  | none => cases h
  | some text =>
    obtain ⟨p, hp, hl⟩ := Condition.holds_error h
    obtain ⟨s, hs, hbad⟩ := Value.lookupSegs_error hl
    exact ⟨text, p, s, rfl, hp, hs, hbad⟩

example : isActive (some "a.² = 1") (.obj [("a", .arr [.int 1])]) = .error (.notAnInteger "²") :=
  rfl

/-- A condition whose path has readable segments gives a boolean, for every answers. -/
theorem isActive_ok {d : Option String}
    (hd : ∀ text, d = some text → ∀ p ∈ (Condition.parse text).path?,
      ∀ s ∈ Path.segments p, ¬ Path.Unreadable s) (g : Value) :
    ∃ b, isActive d g = .ok b := by
  cases h : isActive d g with
  | ok b => exact ⟨b, rfl⟩
  | error e =>
    obtain ⟨text, p, s, rfl, hp, hs, hbad, -⟩ := isActive_error h
    exact absurd hbad (hd text rfl p hp s hs)

end Questionnaire

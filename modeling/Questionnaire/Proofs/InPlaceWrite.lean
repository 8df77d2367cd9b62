import Questionnaire.Proofs.PathFaults
/-!
# Writing a path in place

A write walks the document from its root and changes the containers where it stands, one segment
at a time: an array takes a null at its end when the segment is its size, a child that cannot take
the next segment is replaced by an empty object in its container, and at the last segment the
container receives the value. A fault stops the walk where it stands, and the document keeps the
changes made up to there.

`Value.writeFrom` is that walk. Where it stands is a `Value.Focus`: the value there, and the
containers above it, each with a hole where the walk went down (`Value.Frame`). The document at
every moment is the value put back into the holes of its frames (`Value.Focus.doc`).

* `writeFrom_eq`: the walk ends with the document that `setSegs` computes, with the replaced values
  it reports, and it faults exactly when `setSegs` does, with the same fault and with the document
  as it was. A fault comes from a container that was there before the walk reached it; below a
  change there are only new empty objects, and a write into an empty object never faults
  (`setSegs_empty`).
* `writeInPlace_eq_setAt` and `writeInPlace_fault_keeps_document`: the same for a whole path.
-/

namespace Questionnaire

namespace Value

/-! ## Frames and focus -/

/-- A container with a hole where a walk went down: the fields of an object with the hole at a
key, or the items of an array with the hole at an index. -/
inductive Frame where
  | field (fields : List (String × Value)) (key : String)
  | item (items : List Value) (index : Nat)

/-- Puts a value into the hole of a frame. -/
def Frame.fill : Frame → Value → Value
  | .field fields key, v => .obj (fieldSet fields key v)
  | .item items index, v => .arr (items.set index v)

/-- Puts a value into the holes of frames, innermost first. -/
def plug (frames : List Frame) (v : Value) : Value :=
  frames.foldl (fun w f => f.fill w) v

@[simp] theorem plug_nil (v : Value) : plug [] v = v := rfl

@[simp] theorem plug_cons (f : Frame) (frames : List Frame) (v : Value) :
    plug (f :: frames) v = plug frames (f.fill v) := rfl

/-- Where a walk stands in a document: the value there and the frames above it. -/
structure Focus where
  here : Value
  above : List Frame

/-- The whole document seen from a focus. -/
def Focus.doc (f : Focus) : Value :=
  plug f.above f.here

/-! ## The walk -/

/-- The value a walk replaced by an empty object, if it was not null. -/
def replacedAt (seg : String) : Value → List Replaced
  | .null => []
  | old => [⟨seg, old⟩]

/-- The walk of a write of `x`, standing at `f` with the segment `seg` to take next and the
segments `rest` after it: the document it leaves and the replaced values, or the fault that
stopped it. An object is entered at a key; an array at the slot `arrayTarget` gives, after the
null it appends for the index one past its end. A child that takes the next segment is entered as
it is, any other is first replaced by an empty object in its container. -/
def writeFrom (x : Value) (f : Focus) (seg : String) :
    List String → Value × Except Fault (List Replaced)
  | [] =>
    match f.here with
    | .obj fields => (plug f.above (.obj (fieldSet fields seg x)), .ok [])
    | .arr items =>
      match arrayTarget items seg with
      | .error e => (f.doc, .error e)
      | .ok (items', i) => (plug f.above (.arr (items'.set i x)), .ok [])
    | _ => (f.doc, .error .notAssignable)
  | next :: rest =>
    match f.here with
    | .obj fields =>
      let child := (fieldGet? fields seg).getD .null
      match admitsSegment child next with
      | .error e => (f.doc, .error e)
      | .ok true => writeFrom x ⟨child, .field fields seg :: f.above⟩ next rest
      | .ok false =>
        let r := writeFrom x ⟨.obj [], .field (fieldSet fields seg (.obj [])) seg :: f.above⟩
          next rest
        (r.1, r.2.map (replacedAt seg child ++ ·))
    | .arr items =>
      match arrayTarget items seg with
      | .error e => (f.doc, .error e)
      | .ok (items', i) =>
        let child := items'[i]?.getD .null
        match admitsSegment child next with
        | .error e => (plug f.above (.arr items'), .error e)
        | .ok true => writeFrom x ⟨child, .item items' i :: f.above⟩ next rest
        | .ok false =>
          let r := writeFrom x ⟨.obj [], .item (items'.set i (.obj [])) i :: f.above⟩ next rest
          (r.1, r.2.map (replacedAt seg child ++ ·))
    | _ => (f.doc, .error .noMembers)

/-- Writes `x` at a path in place, walking from the root of `g`. -/
def writeInPlace (g : Value) (path : String) (x : Value) : Value × Except Fault (List Replaced) :=
  match Path.segments path with
  | [] => (g, .ok [])
  | seg :: rest => writeFrom x ⟨g, []⟩ seg rest

/-! ## Facts about containers -/

/-- Writing a key with the value it already holds gives the same fields. -/
theorem fieldSet_of_fieldGet? {fields : List (String × Value)} {k : String} {v : Value}
    (h : fieldGet? fields k = some v) : fieldSet fields k v = fields := by
  induction fields with
  | nil => cases h
  | cons p rest ih =>
    obtain ⟨k', v'⟩ := p
    by_cases hk : k' = k
    · subst hk
      simp only [fieldGet?, if_true, Option.some.injEq] at h
      subst h
      simp [fieldSet]
    · simp only [fieldGet?, if_neg hk] at h
      simp [fieldSet, hk, ih h]

/-- The second write of a key wins. -/
@[simp] theorem fieldSet_fieldSet (fields : List (String × Value)) (k : String) (v w : Value) :
    fieldSet (fieldSet fields k v) k w = fieldSet fields k w := by
  induction fields with
  | nil => simp [fieldSet]
  | cons p rest ih =>
    obtain ⟨k', v'⟩ := p
    by_cases hk : k' = k
    · subst hk
      simp [fieldSet]
    · simp [fieldSet, hk, ih]

theorem admitsSegment_null (seg : String) : admitsSegment .null seg = .ok false := rfl

/-- A child that admits a segment or faults on it is a container, never null. -/
theorem ne_null_of_admitsSegment {v : Value} {seg : String} {r : Except Fault Bool}
    (h : admitsSegment v seg = r) (hr : r ≠ .ok false) : v ≠ .null := by
  rintro rfl
  exact hr (h ▸ admitsSegment_null seg)

/-- An array that `arrayTarget` changed holds the appended null at the slot it gives. -/
theorem arrayTarget_same_of_ne_null {items items' : List Value} {seg : String} {i : Nat}
    (h : arrayTarget items seg = .ok (items', i)) (hc : items'[i]?.getD .null ≠ .null) :
    items' = items := by
  rcases (arrayTarget_eq_ok h).2 with rfl | ⟨rfl, rfl⟩
  · rfl
  · simp at hc

/-- A write into an empty object never faults: every child on its way is missing, and is
created. -/
theorem setSegs_empty (x : Value) (segs : List String) :
    ∃ r, setSegs (.obj []) segs x = .ok r := by
  induction segs with
  | nil => exact ⟨_, rfl⟩
  | cons seg rest ih =>
    cases rest with
    | nil => exact ⟨_, rfl⟩
    | cons next rest =>
      obtain ⟨⟨v, reps⟩, hv⟩ := ih
      exact ⟨(.obj (fieldSet [] seg v), reps),
        by simp [setSegs, descendInto, admitsSegment_null, fieldGet?, hv]⟩

/-! ## The walk computes the write -/

/-- The outcome of a write as the walk leaves it, from the outcome `setSegs` computes for the
value at the focus. -/
def atFocus (f : Focus) :
    Except Fault (Value × List Replaced) → Value × Except Fault (List Replaced)
  | .ok (v, reps) => (plug f.above v, .ok reps)
  | .error e => (f.doc, .error e)

/-- **The walk computes the write.** Standing at `f`, the walk ends with the document `setSegs`
computes from the value there, put back into its frames, and with the same replaced values; it
faults exactly when `setSegs` does, and then the document is as it was. -/
theorem writeFrom_eq (x : Value) (seg : String) (rest : List String) :
    ∀ f : Focus, writeFrom x f seg rest = atFocus f (setSegs f.here (seg :: rest) x) := by
  induction rest generalizing seg with
  | nil =>
    intro f
    obtain ⟨here, above⟩ := f
    cases here with
    | obj fields => rfl
    | arr items =>
      cases ht : arrayTarget items seg with
      | error e => simp [writeFrom, setSegs, ht, atFocus]
      | ok p => obtain ⟨items', i⟩ := p; simp [writeFrom, setSegs, ht, atFocus]
    | _ => rfl
  | cons next rest ih =>
    intro f
    obtain ⟨here, above⟩ := f
    cases here with
    | obj fields =>
      generalize hc : (fieldGet? fields seg).getD .null = child
      cases ha : admitsSegment child next with
      | error e => simp [writeFrom, setSegs, descendInto, hc, ha, atFocus, Focus.doc]
      | ok b =>
        cases b with
        | true =>
          -- the child is entered as it is; on a fault below, its container is unchanged
          have hget : fieldGet? fields seg = some child := by
            have := ne_null_of_admitsSegment ha (by simp)
            cases hf : fieldGet? fields seg with
            | none => rw [hf] at hc; exact absurd hc.symm this
            | some c => rw [hf] at hc; simp [← hc]
          simp only [writeFrom, setSegs, descendInto, hc, ha, ih]
          cases setSegs child (next :: rest) x with
          | error e => simp [atFocus, Focus.doc, Frame.fill, fieldSet_of_fieldGet? hget]
          | ok p => simp [atFocus, Frame.fill]
        | false =>
          -- the child is replaced by an empty object, below which nothing faults
          obtain ⟨⟨v, reps⟩, hv⟩ := setSegs_empty x (next :: rest)
          cases child <;>
            simp [writeFrom, setSegs, descendInto, hc, ha, ih, hv, atFocus, Frame.fill,
              replacedAt, Except.map]
    | arr items =>
      cases ht : arrayTarget items seg with
      | error e => simp [writeFrom, setSegs, ht, atFocus, Focus.doc]
      | ok p =>
        obtain ⟨items', i⟩ := p
        have hi := (arrayTarget_eq_ok ht).1
        generalize hc : items'[i]?.getD .null = child
        cases ha : admitsSegment child next with
        | error e =>
          -- only a container faults, so nothing was appended
          have hsame := arrayTarget_same_of_ne_null ht (hc ▸ ne_null_of_admitsSegment ha (by simp))
          subst hsame
          simp [writeFrom, setSegs, ht, descendInto, hc, ha, atFocus, Focus.doc]
        | ok b =>
          cases b with
          | true =>
            have hsame := arrayTarget_same_of_ne_null ht
              (hc ▸ ne_null_of_admitsSegment ha (by simp))
            subst hsame
            have hset : items'.set i child = items' := by
              rw [← hc, List.getElem?_eq_getElem hi, Option.getD_some, List.set_getElem_self]
            simp only [writeFrom, setSegs, ht, descendInto, hc, ha, ih]
            cases setSegs child (next :: rest) x with
            | error e => simp [atFocus, Focus.doc, Frame.fill, hset]
            | ok p => simp [atFocus, Frame.fill]
          | false =>
            obtain ⟨⟨v, reps⟩, hv⟩ := setSegs_empty x (next :: rest)
            cases child <;>
              simp [writeFrom, setSegs, ht, descendInto, hc, ha, ih, hv, atFocus, Frame.fill,
                replacedAt, Except.map]
    | _ => rfl

/-- **A write in place computes `setAt`.** From the root of `g`, the walk leaves the document
`setAt` gives and reports the same replaced values, or faults exactly as `setAt` does and leaves
`g` as it was. -/
theorem writeInPlace_eq_setAt (g : Value) (path : String) (x : Value) :
    writeInPlace g path x =
      match setAt g path x with
      | .ok (g', reps) => (g', .ok reps)
      | .error e => (g, .error e) := by
  obtain ⟨seg, rest, hsegs⟩ := List.exists_cons_of_ne_nil (Path.segments_ne_nil path)
  simp only [writeInPlace, setAt, hsegs]
  rw [writeFrom_eq]
  cases setSegs g (seg :: rest) x with
  | error e => rfl
  | ok p => rfl

/-- **A write that faults leaves the document as it was**: no array was appended to, no
intermediate was created or replaced and no value was written, and the fault is the one `setAt`
reports. -/
theorem writeInPlace_fault_keeps_document {g x : Value} {path : String} {e : Fault}
    (h : (writeInPlace g path x).2 = .error e) :
    (writeInPlace g path x).1 = g ∧ setAt g path x = .error e := by
  rw [writeInPlace_eq_setAt] at h ⊢
  cases hs : setAt g path x with
  | error e' =>
    rw [hs] at h
    cases h
    exact ⟨rfl, rfl⟩
  | ok p =>
    rw [hs] at h
    cases h

/-- At `a.0.²` in `{"a": [[]]}` the walk enters the array and its first item, and faults at `²`
with the document untouched. -/
theorem writeInPlace_fault_keeps_document_nested :
    (writeInPlace (.obj [("a", .arr [.arr []])]) "a.0.²" (.int 1)).2 =
        .error (.notAnInteger "²") ∧
      (writeInPlace (.obj [("a", .arr [.arr []])]) "a.0.²" (.int 1)).1 =
        .obj [("a", .arr [.arr []])] ∧
      setAt (.obj [("a", .arr [.arr []])]) "a.0.²" (.int 1) = .error (.notAnInteger "²") :=
  ⟨rfl, writeInPlace_fault_keeps_document rfl⟩

end Value

end Questionnaire

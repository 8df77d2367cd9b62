import Questionnaire.Proofs.InPlaceWrite
/-!
# Writing a path twice

A write at a path leaves its way open behind it: every object on the way holds the key, every
array holds the index (an index one past the end was appended), and the written value stands at
the end. A second write at the same path finds that way and only puts its value in place of the
first one: no array grows, no key is added and no intermediate value is replaced. What it leaves
is the document that the second value alone would have given, so the last write wins and nothing
of the first value remains.

`Value.putLoc` puts a value in place of the one at a location that is there, keeping every
container around it as it is.

* `setSegs_of_readLoc`: a write along a path that reads a value replaces only that value;
* `setSegs_value`: a write stores its value at the location its path then reads, and writing
  another value instead gives the same document with that value put there, with the same
  replaced values;
* `setAt_setAt`: for an object document, the second of two writes at one path replaces nothing,
  appends to no array, and leaves the document that the second write alone leaves.
-/

namespace Questionnaire

open Schema

namespace Value

/-- Puts `y` in place of the value at a location that is there, keeping every container around it
as it is: each object keeps its keys and each array its length. Nothing when the location is not
there. -/
def putLoc : Value → List Part → Value → Option Value
  | _, [], y => some y
  | .obj fields, .key k :: ℓ, y =>
    (fieldGet? fields k).bind fun child =>
      (putLoc child ℓ y).map fun c => .obj (fieldSet fields k c)
  | .arr items, .index i :: ℓ, y =>
    items[i]?.bind fun child => (putLoc child ℓ y).map fun c => .arr (items.set i c)
  | _, _ :: _, _ => none

@[simp] theorem putLoc_nil (v y : Value) : putLoc v [] y = some y := rfl

@[simp] theorem putLoc_obj_key (fields : List (String × Value)) (k : String) (ℓ : List Part)
    (y : Value) :
    putLoc (.obj fields) (.key k :: ℓ) y =
      (fieldGet? fields k).bind fun child =>
        (putLoc child ℓ y).map fun c => .obj (fieldSet fields k c) := rfl

@[simp] theorem putLoc_arr_index (items : List Value) (i : Nat) (ℓ : List Part) (y : Value) :
    putLoc (.arr items) (.index i :: ℓ) y =
      items[i]?.bind fun child => (putLoc child ℓ y).map fun c => .arr (items.set i c) := rfl

/-- After putting `y` at a location, the location holds `y`. -/
theorem atLoc_putLoc {v y v' : Value} {ℓ : List Part} (h : putLoc v ℓ y = some v') :
    atLoc v' ℓ = some y := by
  induction ℓ generalizing v v' with
  | nil =>
    cases h
    rfl
  | cons p ℓ ih =>
    cases v with
    | obj fields =>
      cases p with
      | key k =>
        obtain ⟨child, hc, c, hput, rfl⟩ := by
          simpa only [putLoc_obj_key, Option.bind_eq_some_iff, Option.map_eq_some_iff] using h
        simp [ih hput]
      | index i => cases h
    | arr items =>
      cases p with
      | index i =>
        obtain ⟨child, hc, c, hput, rfl⟩ := by
          simpa only [putLoc_arr_index, Option.bind_eq_some_iff, Option.map_eq_some_iff] using h
        have hi : i < items.length := (List.getElem?_eq_some_iff.1 hc).1
        simp [hi, ih hput]
      | key k => cases h
    | _ => cases p <;> cases h

/-! ## Slots an array already has -/

/-- A segment that reads an index of an array names a slot the array has, so a write there takes
it without appending. -/
theorem arrayTarget_of_readIndex {items : List Value} {seg : String} {i : Nat}
    (h : readIndex seg items.length = .ok (some i)) : arrayTarget items seg = .ok (items, i) := by
  unfold readIndex at h
  split at h
  · rename_i hs
    cases hn : Text.readInt seg with
    | none => simp [hn] at h
    | some n =>
      simp only [hn, Except.ok.injEq] at h
      split at h
      · rename_i hlt
        cases h
        have hk := Text.readInt_eq_nat hs hn
        have h0 := Text.readInt_nonneg hs hn
        have hlt' : n.toNat < items.length := by omega
        rw [arrayTarget_of_index hk (Nat.le_of_lt hlt'), if_neg (Nat.ne_of_lt hlt')]
      · cases h
  · cases h

/-- After a write into an array, the segment it took reads the slot it wrote. -/
theorem readIndex_of_arrayTarget {items items' : List Value} {seg : String} {i : Nat}
    (hv : Admits (.arr items) seg) (ht : arrayTarget items seg = .ok (items', i)) :
    readIndex seg items'.length = .ok (some i) := by
  obtain ⟨hs, k, hk, hle⟩ := hv.arr
  have hi := (arrayTarget_eq_ok ht).1
  rw [arrayTarget_of_index hk hle, Except.ok.injEq, Prod.mk.injEq] at ht
  obtain ⟨rfl, rfl⟩ := ht
  have hlt : (k : Int) < (if k = items.length then items ++ [Value.null] else items).length := by
    exact_mod_cast hi
  simp [readIndex, hs, hk, hlt]

/-- A segment that reads an index of an array is digit-like and reads as a natural number
below the array's size. -/
theorem readIndex_eq_some {seg : String} {size i : Nat}
    (h : readIndex seg size = .ok (some i)) :
    Text.isDigitText seg = true ∧ Text.readInt seg = some (i : Int) ∧ i < size := by
  unfold readIndex at h
  split at h
  · rename_i hs
    cases hn : Text.readInt seg with
    | none => simp [hn] at h
    | some n =>
      simp only [hn, Except.ok.injEq, Option.ite_none_right_eq_some, Option.some.injEq] at h
      obtain ⟨hlt, rfl⟩ := h
      have h0 := Text.readInt_nonneg hs hn
      exact ⟨hs, by rw [Int.toNat_of_nonneg h0], by omega⟩
  · cases h

/-- A value that a path reads below takes the path's first segment as it is. -/
theorem admits_of_readLoc {v : Value} {seg : String} {rest : List String}
    {r : List Part × Value} (h : readLoc v (seg :: rest) = some r) : Admits v seg := by
  cases v with
  | obj fields => exact admits_obj fields seg
  | arr items =>
    simp only [readLoc] at h
    split at h
    · rename_i i hi
      obtain ⟨hs, hk, hlt⟩ := readIndex_eq_some hi
      have hle : (i : Int) ≤ items.length := by omega
      simp [Admits, admitsSegment, hs, hk, hle]
    · cases h
  | _ => cases h

/-- A child that takes the next segment is entered as it is, replacing nothing. -/
theorem descendInto_of_admits {seg next : String} {child : Value} (h : Admits child next) :
    descendInto seg next child = .ok (child, []) := by
  simp only [descendInto, show admitsSegment child next = .ok true from h]

/-! ## Writes along an open way -/

/-- **A write along a path that is there replaces only the value at its end.** When the segments
read a value at location `ℓ`, writing `y` there puts `y` in place of that value, with every
container kept: it appends to no array, adds no key and replaces nothing. -/
theorem setSegs_of_readLoc (y : Value) {segs : List String} :
    ∀ {v u : Value} {ℓ : List Part}, readLoc v segs = some (ℓ, u) →
      ∃ v', putLoc v ℓ y = some v' ∧ setSegs v segs y = .ok (v', []) := by
  induction segs with
  | nil =>
    intro v u ℓ h
    cases h
    exact ⟨y, rfl, rfl⟩
  | cons seg rest ih =>
    intro v u ℓ h
    cases v with
    | obj fields =>
      simp only [readLoc, Option.bind_eq_some_iff, Option.map_eq_some_iff] at h
      obtain ⟨child, hc, ⟨ℓ', u'⟩, hr, he⟩ := h
      cases he
      obtain ⟨c, hput, hset⟩ := ih hr
      refine ⟨.obj (fieldSet fields seg c), by simp [hc, hput], ?_⟩
      -- the last segment sets the field; an earlier one enters the child, which is open below
      cases rest with
      | nil =>
        cases hset
        rfl
      | cons next rest =>
        simp [setSegs, hc, descendInto_of_admits (admits_of_readLoc hr), hset]
    | arr items =>
      simp only [readLoc] at h
      split at h
      · rename_i i hi
        simp only [Option.bind_eq_some_iff, Option.map_eq_some_iff] at h
        obtain ⟨child, hc, ⟨ℓ', u'⟩, hr, he⟩ := h
        cases he
        obtain ⟨c, hput, hset⟩ := ih hr
        refine ⟨.arr (items.set i c), by simp [hc, hput], ?_⟩
        have ht := arrayTarget_of_readIndex hi
        cases rest with
        | nil =>
          cases hset
          simp [setSegs, ht]
        | cons next rest =>
          simp [setSegs, ht, hc, descendInto_of_admits (admits_of_readLoc hr), hset]
      · cases h
    | _ => cases h

/-- **A write stores its value where its path then reads, and the rest does not depend on the
value.** A write of `x` along segments whose first the document takes leaves `x` at the location
`ℓ` that the segments read afterwards; writing any `y` instead leaves the same document with `y`
put at `ℓ`, and replaces the same values. -/
theorem setSegs_value {x : Value} {segs : List String} :
    ∀ {v v₁ : Value} {reps : List Replaced}, (∀ seg ∈ segs.head?, Admits v seg) →
      setSegs v segs x = .ok (v₁, reps) →
      ∃ ℓ, readLoc v₁ segs = some (ℓ, x) ∧
        ∀ y, ∃ v₂, putLoc v₁ ℓ y = some v₂ ∧ setSegs v segs y = .ok (v₂, reps) := by
  induction segs with
  | nil =>
    intro v v₁ reps _ h
    cases h
    exact ⟨[], rfl, fun y => ⟨y, rfl, rfl⟩⟩
  | cons seg rest ih =>
    intro v v₁ reps hv h
    cases rest with
    | nil =>
      -- the last segment: the field or the slot takes the value
      obtain ⟨rfl, child, hw⟩ := setSegs_single h
      cases hw with
      | field fields seg x =>
        refine ⟨[.key seg], by simp [readLoc], fun y => ⟨_, by simp, rfl⟩⟩
      | @slot items items' _ i x ht =>
        have hi := (arrayTarget_eq_ok ht).1
        refine ⟨[.index i], ?_, fun y =>
          ⟨.arr (items'.set i y), by simp [hi], by simp [setSegs, ht]⟩⟩
        simp [readLoc, readIndex_of_arrayTarget (hv seg rfl) ht, hi]
    | cons next rest =>
      -- one step down: the way below is open by induction, and the step itself keeps it open
      obtain ⟨child, start, child', reps₁, reps₂, hw, hdesc, hset, rfl⟩ := setSegs_cons_cons h
      obtain ⟨ℓ', hread, hy⟩ :=
        ih (fun _ hn => Option.mem_some_iff.1 hn ▸ descendInto_admits hdesc) hset
      cases hw with
      | field fields seg child' =>
        refine ⟨.key seg :: ℓ', by simp [readLoc, hread], fun y => ?_⟩
        obtain ⟨c, hput, hset'⟩ := hy y
        exact ⟨.obj (fieldSet fields seg c), by simp [hput], by simp [setSegs, hdesc, hset']⟩
      | @slot items items' _ i child' ht =>
        have hi := (arrayTarget_eq_ok ht).1
        refine ⟨.index i :: ℓ', ?_, fun y => ?_⟩
        · simp [readLoc, readIndex_of_arrayTarget (hv seg rfl) ht, hi, hread]
        · obtain ⟨c, hput, hset'⟩ := hy y
          exact ⟨.arr (items'.set i c), by simp [hi, hput], by simp [setSegs, ht, hdesc, hset']⟩

/-- **The second of two writes at one path wins and leaves no trace of the first.** For every
object document, path and values `x`, `y`: when writing `x` succeeds, the path reads `x` at a
location `ℓ` of the result, and writing `y` there replaces nothing and only puts `y` in place of
`x` (so it appends to no array); the document it leaves is the one that writing `y` alone leaves,
and that single write replaces what the write of `x` replaced. -/
theorem setAt_setAt {fields : List (String × Value)} {path : String} {x g₁ : Value}
    {reps : List Replaced} (h : setAt (.obj fields) path x = .ok (g₁, reps)) (y : Value) :
    ∃ ℓ g₂, readLoc g₁ (Path.segments path) = some (ℓ, x) ∧ putLoc g₁ ℓ y = some g₂ ∧
      setAt g₁ path y = .ok (g₂, []) ∧ setAt (.obj fields) path y = .ok (g₂, reps) := by
  obtain ⟨ℓ, hread, hy⟩ := setSegs_value (fun seg _ => admits_obj fields seg) h
  obtain ⟨g₂, hput, hsingle⟩ := hy y
  obtain ⟨g₂', hput', hsecond⟩ := setSegs_of_readLoc y hread
  -- both writes of `y` leave the document `putLoc` gives
  have hsame : g₂' = g₂ := Option.some.inj (hput'.symm.trans hput)
  exact ⟨ℓ, g₂, hread, hput, hsame ▸ hsecond, hsingle⟩

/-- Writing `1` at `a.0.b` in `{"a": [5]}` replaces the `5` by an object; writing `2` there
afterwards replaces nothing and leaves what writing `2` alone leaves. -/
theorem setAt_setAt_replaced :
    setAt (.obj [("a", .arr [.int 5])]) "a.0.b" (.int 1) =
        .ok (.obj [("a", .arr [.obj [("b", .int 1)]])], [⟨"0", .int 5⟩]) ∧
      ∃ ℓ g₂, readLoc (.obj [("a", .arr [.obj [("b", .int 1)]])]) (Path.segments "a.0.b") =
          some (ℓ, .int 1) ∧
        putLoc (.obj [("a", .arr [.obj [("b", .int 1)]])]) ℓ (.int 2) = some g₂ ∧
        setAt (.obj [("a", .arr [.obj [("b", .int 1)]])]) "a.0.b" (.int 2) = .ok (g₂, []) ∧
        setAt (.obj [("a", .arr [.int 5])]) "a.0.b" (.int 2) = .ok (g₂, [⟨"0", .int 5⟩]) :=
  ⟨rfl, setAt_setAt rfl (.int 2)⟩

end Value

end Questionnaire

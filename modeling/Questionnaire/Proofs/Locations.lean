import Questionnaire.Path
import Questionnaire.Schema.Evaluate
/-!
# Locations in the answers

A location is a list of steps, keys into objects and indices into arrays: the steps
`Schema.Part` of an instance location. `Value.atLoc` is the value at a location. This file says
what reading and writing a path do in terms of locations:

* `Value.readLoc` is the location a read of path segments reaches, with the value there; a read
  that finds a value found it at that location (`lookupSegs_eq_some`);
* a write that succeeds puts its value at some location `s` as long as the segments, leaves a
  container at every location before `s`, and leaves every location that is neither before nor
  inside `s` as it was, or removes it (`WrittenAt`, `setSegs_writtenAt`).
-/

namespace Questionnaire

open Schema

namespace Value

/-- Whether a value holds other values: an object or an array. -/
def isContainer : Value → Bool
  | .obj _ | .arr _ => true
  | _ => false

/-- The value at a location, if any. -/
def atLoc : Value → List Part → Option Value
  | v, [] => some v
  | .obj fields, .key k :: ℓ => (fieldGet? fields k).bind fun child => atLoc child ℓ
  | .arr items, .index i :: ℓ => items[i]?.bind fun child => atLoc child ℓ
  | _, _ :: _ => none

@[simp] theorem atLoc_nil (v : Value) : atLoc v [] = some v := rfl

@[simp] theorem atLoc_obj_key (fields : List (String × Value)) (k : String) (ℓ : List Part) :
    atLoc (.obj fields) (.key k :: ℓ) = (fieldGet? fields k).bind fun child => atLoc child ℓ :=
  rfl

@[simp] theorem atLoc_arr_index (items : List Value) (i : Nat) (ℓ : List Part) :
    atLoc (.arr items) (.index i :: ℓ) = items[i]?.bind fun child => atLoc child ℓ := rfl

@[simp] theorem atLoc_obj_index (fields : List (String × Value)) (i : Nat) (ℓ : List Part) :
    atLoc (.obj fields) (.index i :: ℓ) = none := rfl

@[simp] theorem atLoc_arr_key (items : List Value) (k : String) (ℓ : List Part) :
    atLoc (.arr items) (.key k :: ℓ) = none := rfl

/-- Below a value that is no container there is nothing. -/
theorem atLoc_of_not_container {v : Value} (hv : v.isContainer = false) (p : Part)
    (ℓ : List Part) : atLoc v (p :: ℓ) = none := by
  cases v <;> cases p <;> first | rfl | cases hv

/-- The location a read of path segments reaches, with the value there: keys into objects, and
into arrays the index that the segment names. -/
def readLoc : Value → List String → Option (List Part × Value)
  | v, [] => some ([], v)
  | .obj fields, seg :: rest =>
    (fieldGet? fields seg).bind fun child =>
      (readLoc child rest).map fun r => (.key seg :: r.1, r.2)
  | .arr items, seg :: rest =>
    match readIndex seg items.length with
    | .ok (some i) =>
      items[i]?.bind fun child => (readLoc child rest).map fun r => (.index i :: r.1, r.2)
    | _ => none
  | _, _ :: _ => none

/-- The value a read reaches is the value at its location. -/
theorem atLoc_readLoc {v w : Value} {segs : List String} {ℓ : List Part}
    (h : readLoc v segs = some (ℓ, w)) : atLoc v ℓ = some w ∧ ℓ.length = segs.length := by
  induction segs generalizing v ℓ with
  | nil =>
    cases h
    exact ⟨rfl, rfl⟩
  | cons seg rest ih =>
    cases v with
    | obj fields =>
      simp only [readLoc, Option.bind_eq_some_iff, Option.map_eq_some_iff] at h
      obtain ⟨child, hc, ⟨ℓ', w'⟩, hr, he⟩ := h
      cases he
      obtain ⟨hat, hlen⟩ := ih hr
      exact ⟨by simp [hc, hat], by simp [hlen]⟩
    | arr items =>
      simp only [readLoc] at h
      split at h
      · simp only [Option.bind_eq_some_iff, Option.map_eq_some_iff] at h
        obtain ⟨child, hc, ⟨ℓ', w'⟩, hr, he⟩ := h
        cases he
        obtain ⟨hat, hlen⟩ := ih hr
        exact ⟨by simp [hc, hat], by simp [hlen]⟩
      · cases h
    | _ => cases h

/-- A read that finds a value found it at the location `readLoc` names. -/
theorem lookupSegs_eq_some {v w : Value} {segs : List String}
    (h : lookupSegs v segs = .ok (some w)) : ∃ ℓ, readLoc v segs = some (ℓ, w) := by
  induction segs generalizing v with
  | nil =>
    cases h
    exact ⟨[], rfl⟩
  | cons seg rest ih =>
    cases v with
    | obj fields =>
      simp only [lookupSegs] at h
      split at h
      · cases h
      · rename_i child hc
        obtain ⟨ℓ, hℓ⟩ := ih h
        exact ⟨.key seg :: ℓ, by simp [readLoc, hc, hℓ]⟩
    | arr items =>
      simp only [lookupSegs] at h
      split at h
      · cases h
      · cases h
      · rename_i i hi
        split at h
        · cases h
        · rename_i child hc
          obtain ⟨ℓ, hℓ⟩ := ih h
          exact ⟨.index i :: ℓ, by simp [readLoc, hi, hc, hℓ]⟩
    | _ => cases h

/-! ## Writing -/

/-- `g'` is `g` with `x` written at the location `s`: `x` is there, every location before it
holds a container, and every location that is neither before nor inside `s` holds what it held
in `g`, or nothing. -/
structure WrittenAt (g : Value) (s : List Part) (x g' : Value) : Prop where
  at_end : atLoc g' s = some x
  on_way : ∀ p, p <+: s → p ≠ s → ∃ v, atLoc g' p = some v ∧ v.isContainer = true
  off_way : ∀ ℓ, ¬ ℓ <+: s → ¬ s <+: ℓ → atLoc g' ℓ = none ∨ atLoc g' ℓ = atLoc g ℓ

/-- Writing at the root replaces the whole value. -/
theorem WrittenAt.root (g x : Value) : WrittenAt g [] x x :=
  ⟨rfl, fun _ hp hne => absurd (List.prefix_nil.1 hp) hne,
    fun _ _ h => absurd List.nil_prefix h⟩

/-- The value a write descends into, below a step: the value in the way, or a new empty object
where there is none or it cannot take the next step. -/
theorem descendInto_start {seg next : String} {child start : Value} {reps : List Replaced}
    (h : descendInto seg next child = .ok (start, reps)) : start = child ∨ start = .obj [] := by
  unfold descendInto at h
  split at h
  · cases h
  · cases h
    exact .inl rfl
  · split at h <;> (cases h; exact .inr rfl)

/-- Below one step, the value a write descends into holds nothing that was not under the child
it replaced. -/
theorem atLoc_start {o : Option Value} {start : Value}
    (h : start = o.getD .null ∨ start = .obj []) {ℓ : List Part} (hℓ : ℓ ≠ []) :
    atLoc start ℓ = none ∨ atLoc start ℓ = o.bind fun child => atLoc child ℓ := by
  obtain ⟨p, ℓ, rfl⟩ := List.exists_cons_of_ne_nil hℓ
  rcases h with rfl | rfl
  · cases o with
    | none => exact .inl (atLoc_of_not_container rfl p ℓ)
    | some c => exact .inr rfl
  · cases p <;> exact .inl rfl

/-- A location below the first step of a way that is not on the way is not the step itself. -/
theorem below_ne_nil {q : Part} {s ℓ : List Part} (hℓ : ¬ q :: ℓ <+: q :: s) : ℓ ≠ [] := by
  rintro rfl
  exact hℓ (List.cons_prefix_cons.2 ⟨rfl, List.nil_prefix⟩)

/-- Below the first step of a write, a location off the rest of its way holds nothing, or what
it held under the value the write replaced there. -/
theorem WrittenAt.below {start x child' : Value} {q : Part} {s ℓ : List Part}
    {o : Option Value} (h : WrittenAt start s x child')
    (hstart : start = o.getD .null ∨ start = .obj [])
    (hℓ : ¬ q :: ℓ <+: q :: s) (hs : ¬ q :: s <+: q :: ℓ) :
    atLoc child' ℓ = none ∨ atLoc child' ℓ = o.bind fun c => atLoc c ℓ := by
  have hℓ' : ¬ ℓ <+: s := fun e => hℓ (List.cons_prefix_cons.2 ⟨rfl, e⟩)
  have hs' : ¬ s <+: ℓ := fun e => hs (List.cons_prefix_cons.2 ⟨rfl, e⟩)
  rcases h.off_way ℓ hℓ' hs' with h₁ | h₁
  · exact .inl h₁
  · rw [h₁]
    exact atLoc_start hstart (below_ne_nil hℓ)

/-- Writing under key `k` of an object: the field becomes the written child. -/
theorem WrittenAt.key {fields : List (String × Value)} {k : String} {s : List Part}
    {x start child' : Value} (h : WrittenAt start s x child')
    (hstart : start = (fieldGet? fields k).getD .null ∨ start = .obj []) :
    WrittenAt (.obj fields) (.key k :: s) x (.obj (fieldSet fields k child')) := by
  refine ⟨by simpa using h.at_end, fun p hp hne => ?_, fun ℓ hℓ hs => ?_⟩
  · cases p with
    | nil => exact ⟨_, rfl, rfl⟩
    | cons q p =>
      obtain ⟨rfl, hrest⟩ := List.cons_prefix_cons.1 hp
      simpa using h.on_way p hrest (fun e => hne (e ▸ rfl))
  · cases ℓ with
    | nil => exact absurd List.nil_prefix hℓ
    | cons q ℓ =>
      cases q with
      | index i => exact .inl rfl
      | key j =>
        by_cases hj : j = k
        · subst hj
          simp only [atLoc_obj_key, fieldGet?_fieldSet_self, Option.bind_some]
          exact h.below hstart hℓ hs
        · exact .inr (by simp [fieldGet?_fieldSet_ne _ _ hj])

/-- The slot an array index names lies in the array. -/
theorem arraySlot_lt {n : Int} {size i : Nat} (h : arraySlot n size = some i) : i < size := by
  unfold arraySlot at h
  split at h
  · split at h
    · cases h
      omega
    · cases h
  · split at h
    · cases h
      omega
    · cases h

/-- The slot a write into an array takes: one of its items, or a null appended for the index one
past the end. -/
theorem arrayTarget_eq_ok {items items' : List Value} {seg : String} {i : Nat}
    (h : arrayTarget items seg = .ok (items', i)) :
    i < items'.length ∧ (items' = items ∨ items' = items ++ [.null] ∧ i = items.length) := by
  unfold arrayTarget at h
  split at h
  · cases h
  · rename_i n _
    dsimp only at h
    split at h
    · cases h
    · rename_i j hj
      cases h
      refine ⟨arraySlot_lt hj, ?_⟩
      by_cases hn : n = items.length
      · -- the index one past the end: a null is appended and written
        rw [if_pos hn] at hj ⊢
        refine .inr ⟨rfl, ?_⟩
        unfold arraySlot at hj
        rw [if_pos (by omega), if_pos (by simp; omega)] at hj
        cases hj
        omega
      · rw [if_neg hn]
        exact .inl rfl

/-- The other slots of an array written through `arrayTarget` hold what they held. -/
theorem getElem?_arrayTarget_ne {items items' : List Value} {seg : String} {i j : Nat}
    (h : arrayTarget items seg = .ok (items', i)) (hj : j ≠ i) : items'[j]? = items[j]? := by
  rcases (arrayTarget_eq_ok h).2 with rfl | ⟨rfl, rfl⟩
  · rfl
  · by_cases hlt : j < items.length
    · exact List.getElem?_append_left hlt
    · rw [List.getElem?_eq_none (by simp; omega), List.getElem?_eq_none (by omega)]

/-- Writing into slot `i` of an array taken by `arrayTarget`: the slot becomes the written
child. -/
theorem WrittenAt.index {items items' : List Value} {seg : String} {i : Nat} {s : List Part}
    {x start child' : Value} (h : WrittenAt start s x child')
    (ht : arrayTarget items seg = .ok (items', i))
    (hstart : start = items'[i]?.getD .null ∨ start = .obj []) :
    WrittenAt (.arr items) (.index i :: s) x (.arr (items'.set i child')) := by
  have hi := (arrayTarget_eq_ok ht).1
  refine ⟨by simpa [hi] using h.at_end, fun p hp hne => ?_, fun ℓ hℓ hs => ?_⟩
  · cases p with
    | nil => exact ⟨_, rfl, rfl⟩
    | cons q p =>
      obtain ⟨rfl, hrest⟩ := List.cons_prefix_cons.1 hp
      simpa [hi] using h.on_way p hrest (fun e => hne (e ▸ rfl))
  · cases ℓ with
    | nil => exact absurd List.nil_prefix hℓ
    | cons q ℓ =>
      cases q with
      | key k => exact .inl rfl
      | index j =>
        by_cases hj : j = i
        · subst hj
          simp only [atLoc_arr_index, List.getElem?_set_self hi, Option.bind_some]
          rcases h.below hstart hℓ hs with h₁ | h₁
          · exact .inl h₁
          · rw [h₁]
            -- an appended slot held a null, below which there is nothing
            rcases (arrayTarget_eq_ok ht).2 with rfl | ⟨rfl, hlen⟩
            · exact .inr rfl
            · obtain ⟨p', ℓ', rfl⟩ := List.exists_cons_of_ne_nil (below_ne_nil hℓ)
              left
              rw [hlen, List.getElem?_append_right (Nat.le_refl _), Nat.sub_self]
              exact atLoc_of_not_container rfl p' ℓ'
        · exact .inr (by simp [List.getElem?_set_ne (Ne.symm hj), getElem?_arrayTarget_ne ht hj])

/-- **A write puts its value at a location as long as the path.** A write of `x` at path
segments that succeeds stores `x` at some location `s`, with a container at every location
before it, and every location neither before nor inside `s` as it was or gone. -/
theorem setSegs_writtenAt {g x g' : Value} {segs : List String} {reps : List Replaced}
    (h : setSegs g segs x = .ok (g', reps)) :
    ∃ s, s.length = segs.length ∧ WrittenAt g s x g' := by
  induction segs generalizing g g' reps with
  | nil =>
    simp only [setSegs, Except.ok.injEq, Prod.mk.injEq] at h
    obtain ⟨rfl, -⟩ := h
    exact ⟨[], rfl, WrittenAt.root g x⟩
  | cons seg rest ih =>
    cases rest with
    | nil =>
      -- the last step: set the field, or the slot
      cases g with
      | obj fields =>
        simp only [setSegs, Except.ok.injEq, Prod.mk.injEq] at h
        obtain ⟨rfl, -⟩ := h
        exact ⟨[.key seg], rfl, (WrittenAt.root _ x).key (.inl rfl)⟩
      | arr items =>
        simp only [setSegs] at h
        split at h
        · cases h
        · rename_i items' i ht
          simp only [Except.ok.injEq, Prod.mk.injEq] at h
          obtain ⟨rfl, -⟩ := h
          exact ⟨[.index i], rfl, (WrittenAt.root _ x).index ht (.inl rfl)⟩
      | _ => simp [setSegs] at h
    | cons next rest =>
      -- one step down, then the rest of the way from the value descended into
      cases g with
      | obj fields =>
        simp only [setSegs] at h
        split at h
        · cases h
        · rename_i start reps₁ hdesc
          split at h
          · cases h
          · rename_i child' reps₂ hset
            simp only [Except.ok.injEq, Prod.mk.injEq] at h
            obtain ⟨rfl, -⟩ := h
            obtain ⟨s, hlen, hw⟩ := ih hset
            exact ⟨.key seg :: s, by simp [hlen], hw.key (descendInto_start hdesc)⟩
      | arr items =>
        simp only [setSegs] at h
        split at h
        · cases h
        · rename_i items' i ht
          split at h
          · cases h
          · rename_i start reps₁ hdesc
            split at h
            · cases h
            · rename_i child' reps₂ hset
              simp only [Except.ok.injEq, Prod.mk.injEq] at h
              obtain ⟨rfl, -⟩ := h
              obtain ⟨s, hlen, hw⟩ := ih hset
              exact ⟨.index i :: s, by simp [hlen], hw.index ht (descendInto_start hdesc)⟩
      | _ => simp [setSegs] at h

end Value

end Questionnaire

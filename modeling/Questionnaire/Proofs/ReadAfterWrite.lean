import Questionnaire.Proofs.Locations
/-!
# Reading after a write

A write at a path into an object document, when it succeeds, is read back at the same path,
whatever stood on the way: arrays it appended to, nulls and scalars it replaced by new objects.
And a write that replaced nothing on its way leaves every path that parts from its own as it was,
unless the two paths part at two spellings of one array index (`0` and `00`).

Both statements go one segment at a time. `Value.childAt` is what a read of one segment reaches,
and `Value.Rewrites` is what a write does at one segment: it puts a new child in place of the one
it found there (an array takes the index one past its end by appending). A write descends only
into values that take the next segment as it is (`Value.Admits`): objects, and arrays where the
segment is an index at most their size.

* `lookup_setAt_self`: a write is read back at its path;
* `lookup_setAt_apart`: a write that replaced nothing keeps every path apart from its own.
-/

namespace Questionnaire

namespace Text

/-- An integer read as negative had a minus sign in the text. -/
theorem readInt_nonneg_or {s : String} {n : Int} (hn : readInt s = some n) :
    0 ≤ n ∨ '-' ∈ dropTrailingBlanks (dropBlanks s.toList) := by
  unfold readInt at hn
  generalize dropTrailingBlanks (dropBlanks s.toList) = body at hn ⊢
  by_cases hm : '-' ∈ body
  · exact .inr hm
  left
  simp only at hn
  split at hn
  · cases hn
  · obtain ⟨m, hm', rfl⟩ := Option.map_eq_some_iff.1 hn
    obtain ⟨a, -, ha⟩ := Option.bind_eq_some_iff.1 hm'
    cases ha
    -- the sign is read as minus only from a leading minus
    split
    · exact absurd List.mem_cons_self hm
    all_goals simp

/-- A digit-like text reads as no negative integer. -/
theorem readInt_nonneg {s : String} {n : Int} (hs : isDigitText s = true)
    (hn : readInt s = some n) : 0 ≤ n := by
  have hdigits : ∀ c ∈ s.toList, isDigitLike c = true := by
    simp only [isDigitText, Bool.and_eq_true, List.all_eq_true] at hs
    exact hs.2
  refine (readInt_nonneg_or hn).resolve_right fun hm => ?_
  simp only [dropTrailingBlanks, dropBlanks, List.mem_reverse] at hm
  have hmem : '-' ∈ s.toList := (List.dropWhile_sublist _).subset
    (List.mem_reverse.1 ((List.dropWhile_sublist _).subset hm))
  exact absurd (hdigits '-' hmem) (by decide)

/-- A digit-like text that reads as an integer reads as a natural number. -/
theorem readInt_eq_nat {s : String} {n : Int} (hs : isDigitText s = true)
    (hn : readInt s = some n) : readInt s = some (n.toNat : Int) := by
  rw [hn, Int.toNat_of_nonneg (readInt_nonneg hs hn)]

end Text

namespace Path

/-- Two segments that name one array index: digit-like texts that read as the same integer, such
as `0` and `00`. -/
def IndexAliases (a b : String) : Prop :=
  Text.isDigitText a = true ∧ Text.isDigitText b = true ∧
    ∃ n, Text.readInt a = some n ∧ Text.readInt b = some n

/-- The segments at the first position where two segment lists differ, when both reach it. -/
def firstFork : List String → List String → Option (String × String)
  | a :: P, b :: Q => if a = b then firstFork P Q else some (a, b)
  | _, _ => none

/-- Two lists fork at `a` and `b` after a common part. -/
theorem firstFork_eq_some {P Q : List String} {a b : String} (h : firstFork P Q = some (a, b)) :
    a ≠ b ∧ ∃ pre rp rq, P = pre ++ a :: rp ∧ Q = pre ++ b :: rq := by
  induction P generalizing Q with
  | nil => cases Q <;> cases h
  | cons c P ih =>
    cases Q with
    | nil => cases h
    | cons d Q =>
      simp only [firstFork] at h
      split at h
      · rename_i hcd
        subst hcd
        obtain ⟨hab, pre, rp, rq, rfl, rfl⟩ := ih h
        exact ⟨hab, c :: pre, rp, rq, rfl, rfl⟩
      · cases h
        exact ⟨‹_›, [], P, Q, rfl, rfl⟩

/-- Two lists neither of which is a prefix of the other fork somewhere. -/
theorem firstFork_isSome {P Q : List String} (hpq : ¬ P <+: Q) (hqp : ¬ Q <+: P) :
    ∃ a b, firstFork P Q = some (a, b) := by
  induction P generalizing Q with
  | nil => exact absurd List.nil_prefix hpq
  | cons c P ih =>
    cases Q with
    | nil => exact absurd List.nil_prefix hqp
    | cons d Q =>
      by_cases hcd : c = d
      · subst hcd
        simp only [firstFork]
        exact ih (fun h => hpq (List.cons_prefix_cons.2 ⟨rfl, h⟩))
          (fun h => hqp (List.cons_prefix_cons.2 ⟨rfl, h⟩))
      · exact ⟨c, d, by simp [firstFork, hcd]⟩

end Path

namespace Value

/-! ## One segment read -/

/-- The child a read of one segment reaches: the field of an object, the item of an array at the
index the segment names, and nothing in any other value. -/
def childAt : Value → String → Except Fault (Option Value)
  | .obj fields, seg => .ok (fieldGet? fields seg)
  | .arr items, seg => (readIndex seg items.length).map fun o => o.bind fun i => items[i]?
  | _, _ => .ok none

/-- What a read finds below the child it reached, given the rest of the segments. -/
def readBelow (rest : List String) : Option Value → Except Fault (Option Value)
  | none => .ok none
  | some child => lookupSegs child rest

/-- A read goes one segment down, then reads the rest below. -/
theorem lookupSegs_cons (v : Value) (seg : String) (rest : List String) :
    lookupSegs v (seg :: rest) = (childAt v seg).bind (readBelow rest) := by
  cases v with
  | obj fields =>
    cases h : fieldGet? fields seg <;> simp [lookupSegs, childAt, readBelow, h, Except.bind]
  | arr items =>
    simp only [lookupSegs, childAt]
    cases h : readIndex seg items.length with
    | error e => rfl
    | ok o =>
      cases o with
      | none => rfl
      | some i => cases items[i]? <;> rfl
  | _ => rfl

/-- Below null or the empty object there is nothing. -/
theorem lookupSegs_of_empty {v : Value} (hv : v = .null ∨ v = .obj []) {segs : List String}
    (hs : segs ≠ []) : lookupSegs v segs = .ok none := by
  obtain ⟨seg, rest, rfl⟩ := List.exists_cons_of_ne_nil hs
  rcases hv with rfl | rfl <;> rfl

/-- An array read at a segment of digit-like characters that reads as `k` finds its item `k`. -/
theorem childAt_arr_index {items : List Value} {seg : String} {k : Nat}
    (hs : Text.isDigitText seg = true) (hk : Text.readInt seg = some (k : Int)) :
    childAt (.arr items) seg = .ok items[k]? := by
  by_cases hlt : k < items.length
  · simp [childAt, readIndex, hs, hk, hlt, Except.map]
  · have hlt' : ¬ (k : Int) < items.length := by omega
    simp [childAt, readIndex, hs, hk, hlt', Except.map,
      List.getElem?_eq_none (Nat.le_of_not_lt hlt)]

/-- Two arrays read alike at a segment where they hold the same item at the index it names. -/
theorem childAt_arr_congr {L₁ L₂ : List Value} {seg : String}
    (h : ∀ k : Nat, Text.isDigitText seg = true → Text.readInt seg = some (k : Int) →
      L₁[k]? = L₂[k]?) :
    childAt (.arr L₁) seg = childAt (.arr L₂) seg := by
  by_cases hs : Text.isDigitText seg = true
  · cases hn : Text.readInt seg with
    | none => simp [childAt, readIndex, hs, hn, Except.map]
    | some n =>
      have hk := Text.readInt_eq_nat hs hn
      rw [childAt_arr_index hs hk, childAt_arr_index hs hk, h _ hs hk]
  · simp [childAt, readIndex, hs, Except.map]

/-! ## One segment written -/

/-- Whether `v` takes the segment `seg` as it is, so that a write descends into `v` without
replacing it. -/
def Admits (v : Value) (seg : String) : Prop :=
  admitsSegment v seg = .ok true

theorem admits_obj (fields : List (String × Value)) (seg : String) : Admits (.obj fields) seg :=
  rfl

/-- An array takes a segment of digit-like characters that reads as an index at most its size. -/
theorem Admits.arr {items : List Value} {seg : String} (h : Admits (.arr items) seg) :
    Text.isDigitText seg = true ∧ ∃ k : Nat, Text.readInt seg = some (k : Int) ∧
      k ≤ items.length := by
  simp only [Admits, admitsSegment] at h
  split at h
  · rename_i hs
    split at h
    · cases h
    · rename_i n hn
      have hle : n ≤ items.length := by simpa using h
      exact ⟨hs, n.toNat, Text.readInt_eq_nat hs hn, by omega⟩
  · cases h

/-- The slot that a write takes in an array at an index `k` at most its size: slot `k`, after
appending a null when `k` is the size. -/
theorem arrayTarget_of_index {items : List Value} {seg : String} {k : Nat}
    (hk : Text.readInt seg = some (k : Int)) (hle : k ≤ items.length) :
    arrayTarget items seg = .ok (if k = items.length then items ++ [.null] else items, k) := by
  by_cases he : k = items.length
  · simp [arrayTarget, arraySlot, hk, he]
  · have he' : ¬ (k : Int) = items.length := by omega
    have hlt : k < items.length := by omega
    simp [arrayTarget, arraySlot, hk, he, he', hlt]

/-- `v'` is `v` with `w` put in place of the child `child` that a write found under `seg`: the
field of an object (null where there is none), or the slot of an array that `arrayTarget` takes,
where the index one past the end appends a null first. -/
inductive Rewrites : Value → String → Value → Value → Value → Prop
  | field (fields : List (String × Value)) (seg : String) (w : Value) :
      Rewrites (.obj fields) seg ((fieldGet? fields seg).getD .null) w
        (.obj (fieldSet fields seg w))
  | slot {items items' : List Value} {seg : String} {i : Nat} (w : Value) :
      arrayTarget items seg = .ok (items', i) →
      Rewrites (.arr items) seg (items'[i]?.getD .null) w (.arr (items'.set i w))

/-- A write at one segment puts its value in place of the child there. -/
theorem setSegs_single {v x v' : Value} {seg : String} {reps : List Replaced}
    (h : setSegs v [seg] x = .ok (v', reps)) : reps = [] ∧ ∃ child, Rewrites v seg child x v' := by
  cases v with
  | obj fields =>
    simp only [setSegs, Except.ok.injEq, Prod.mk.injEq] at h
    obtain ⟨rfl, rfl⟩ := h
    exact ⟨rfl, _, .field fields seg x⟩
  | arr items =>
    simp only [setSegs] at h
    split at h
    · cases h
    · rename_i items' i ht
      simp only [Except.ok.injEq, Prod.mk.injEq] at h
      obtain ⟨rfl, rfl⟩ := h
      exact ⟨rfl, _, .slot x ht⟩
  | _ => simp [setSegs] at h

/-- A write at two segments or more descends into the child under the first one, writes the
rest below it, and puts the result in place of the child. -/
theorem setSegs_cons_cons {v x v' : Value} {seg next : String} {rest : List String}
    {reps : List Replaced} (h : setSegs v (seg :: next :: rest) x = .ok (v', reps)) :
    ∃ child start child' reps₁ reps₂, Rewrites v seg child child' v' ∧
      descendInto seg next child = .ok (start, reps₁) ∧
      setSegs start (next :: rest) x = .ok (child', reps₂) ∧ reps = reps₁ ++ reps₂ := by
  cases v with
  | obj fields =>
    simp only [setSegs] at h
    split at h
    · cases h
    · rename_i start reps₁ hdesc
      split at h
      · cases h
      · rename_i child' reps₂ hset
        simp only [Except.ok.injEq, Prod.mk.injEq] at h
        obtain ⟨rfl, rfl⟩ := h
        exact ⟨_, start, child', reps₁, reps₂, .field fields seg child', hdesc, hset, rfl⟩
  | arr items =>
    simp only [setSegs] at h
    split at h
    · cases h
    · rename_i items' i ht
      split at h
      · cases h
      · rename_i start reps₁ hdesc
        split at h
        · cases h
        · rename_i child' reps₂ hset
          simp only [Except.ok.injEq, Prod.mk.injEq] at h
          obtain ⟨rfl, rfl⟩ := h
          exact ⟨_, start, child', reps₁, reps₂, .slot child' ht, hdesc, hset, rfl⟩
  | _ => simp [setSegs] at h

section Rewrites

variable {v v' child w : Value} {seg : String}

/-- After the write, the segment reads the new child. -/
theorem Rewrites.childAt_new (hv : Admits v seg) (h : Rewrites v seg child w v') :
    childAt v' seg = .ok (some w) := by
  cases h with
  | field fields seg w => simp [childAt]
  | @slot items items' _ i w ht =>
    obtain ⟨hs, k, hk, hle⟩ := hv.arr
    rw [arrayTarget_of_index hk hle, Except.ok.injEq, Prod.mk.injEq] at ht
    obtain ⟨rfl, rfl⟩ := ht
    have hlt : k < (if k = items.length then items ++ [Value.null] else items).length := by
      split
      · simp [*]
      · omega
    rw [childAt_arr_index hs hk, List.getElem?_set_self hlt]

/-- Before the write, the segment read the child the write found, or nothing where the write
found null: a missing field, or the slot one past the end of an array. -/
theorem Rewrites.childAt_old (hv : Admits v seg) (h : Rewrites v seg child w v') :
    childAt v seg = .ok (some child) ∨ (childAt v seg = .ok none ∧ child = .null) := by
  cases h with
  | field fields seg w =>
    cases hc : fieldGet? fields seg with
    | none => exact .inr ⟨by simp [childAt, hc], rfl⟩
    | some c => exact .inl (by simp [childAt, hc])
  | @slot items items' _ i w ht =>
    obtain ⟨hs, k, hk, hle⟩ := hv.arr
    rw [arrayTarget_of_index hk hle, Except.ok.injEq, Prod.mk.injEq] at ht
    obtain ⟨rfl, rfl⟩ := ht
    rw [childAt_arr_index hs hk]
    by_cases he : k = items.length
    · -- the appended slot
      right
      subst he
      simp
    · left
      have hlt : k < items.length := Nat.lt_of_le_of_ne hle he
      simp [he, hlt]

/-- The write keeps every segment that is neither the written one nor another spelling of its
index. -/
theorem Rewrites.childAt_apart (hv : Admits v seg) (h : Rewrites v seg child w v') {b : String}
    (hne : seg ≠ b) (hal : ¬ Path.IndexAliases seg b) : childAt v' b = childAt v b := by
  cases h with
  | field fields seg w => simp [childAt, fieldGet?_fieldSet_ne _ _ (Ne.symm hne)]
  | @slot items items' _ i w ht =>
    obtain ⟨hs, k, hk, hle⟩ := hv.arr
    have hi : i = k := by
      rw [arrayTarget_of_index hk hle, Except.ok.injEq, Prod.mk.injEq] at ht
      exact ht.2.symm
    subst hi
    apply childAt_arr_congr
    intro j hb hj
    -- the index that `b` names is not the written one
    have hjk : j ≠ i := by
      rintro rfl
      exact hal ⟨hs, hb, _, hk, hj⟩
    rw [List.getElem?_set_ne (Ne.symm hjk), getElem?_arrayTarget_ne ht hjk]

end Rewrites

/-- The value a write descends into takes the next segment. -/
theorem descendInto_admits {seg next : String} {child start : Value} {reps : List Replaced}
    (h : descendInto seg next child = .ok (start, reps)) : Admits start next := by
  unfold descendInto at h
  split at h
  · cases h
  · cases h
    assumption
  · split at h <;> (cases h; rfl)

/-- A descent that replaces nothing keeps the child, or starts a new object in place of null. -/
theorem descendInto_quiet {seg next : String} {child start : Value}
    (h : descendInto seg next child = .ok (start, [])) :
    start = child ∨ (child = .null ∧ start = .obj []) := by
  unfold descendInto at h
  split at h
  · cases h
  · cases h
    exact .inl rfl
  · split at h
    · cases h
      exact .inr ⟨rfl, rfl⟩
    · cases h

/-! ## Whole writes -/

/-- **A write is read back.** Writing `x` at segments the first of which `v` takes, and reading
the same segments from the result, gives `x`. -/
theorem lookupSegs_setSegs_self {x : Value} {segs : List String} :
    ∀ {v v' : Value} {reps : List Replaced}, (∀ seg ∈ segs.head?, Admits v seg) →
      setSegs v segs x = .ok (v', reps) → lookupSegs v' segs = .ok (some x) := by
  induction segs with
  | nil =>
    intro v v' reps _ h
    cases h
    rfl
  | cons seg rest ih =>
    intro v v' reps hv h
    cases rest with
    | nil =>
      obtain ⟨-, child, hw⟩ := setSegs_single h
      rw [lookupSegs_cons, hw.childAt_new (hv seg rfl)]
      rfl
    | cons next rest =>
      -- one segment down into the child written, then the rest by induction
      obtain ⟨child, start, child', reps₁, reps₂, hw, hdesc, hset, -⟩ := setSegs_cons_cons h
      rw [lookupSegs_cons, hw.childAt_new (hv seg rfl)]
      exact ih (fun _ hn => Option.mem_some_iff.1 hn ▸ descendInto_admits hdesc) hset

/-- **A write keeps what parts from it.** When a write at `pre ++ a :: rp` replaced nothing, a
read at `pre ++ b :: rq`, where `b` is neither `a` nor another spelling of its index, reads what
it read before. -/
theorem lookupSegs_setSegs_apart {x : Value} {a b : String} {rp rq : List String} (hab : a ≠ b)
    (hal : ¬ Path.IndexAliases a b) (pre : List String) :
    ∀ {v v' : Value}, (∀ seg ∈ (pre ++ a :: rp).head?, Admits v seg) →
      setSegs v (pre ++ a :: rp) x = .ok (v', []) →
      lookupSegs v' (pre ++ b :: rq) = lookupSegs v (pre ++ b :: rq) := by
  induction pre with
  | nil =>
    intro v v' hv h
    have ha : Admits v a := hv a rfl
    -- the paths part right here: the write changed only the child under `a`
    cases rp with
    | nil =>
      obtain ⟨-, child, hw⟩ := setSegs_single h
      simp only [List.nil_append, lookupSegs_cons, hw.childAt_apart ha hab hal]
    | cons next rest =>
      obtain ⟨child, start, child', reps₁, reps₂, hw, -, -, -⟩ := setSegs_cons_cons h
      simp only [List.nil_append, lookupSegs_cons, hw.childAt_apart ha hab hal]
  | cons c pre ih =>
    intro v v' hv h
    have hc : Admits v c := hv c rfl
    obtain ⟨next, rest, hnext⟩ : ∃ next rest, pre ++ a :: rp = next :: rest :=
      List.exists_cons_of_ne_nil (by simp)
    rw [List.cons_append, hnext] at h
    obtain ⟨child, start, child', reps₁, reps₂, hw, hdesc, hset, hreps⟩ := setSegs_cons_cons h
    obtain ⟨rfl, rfl⟩ := List.append_eq_nil_iff.1 hreps.symm
    have hstart : Admits start next := descendInto_admits hdesc
    rw [← hnext] at hset
    -- below the common segment: the written child reads as the value descended into
    have hbelow : lookupSegs child' (pre ++ b :: rq) = lookupSegs start (pre ++ b :: rq) :=
      ih (fun _ hn => by rw [hnext] at hn; exact Option.mem_some_iff.1 hn ▸ hstart) hset
    have hne : pre ++ b :: rq ≠ [] := by simp
    simp only [List.cons_append, lookupSegs_cons, hw.childAt_new hc]
    rcases hw.childAt_old hc with hold | ⟨hold, rfl⟩
    · rw [hold]
      rcases descendInto_quiet hdesc with rfl | ⟨rfl, rfl⟩
      · exact hbelow
      · rw [Except.bind, Except.bind, readBelow, readBelow, hbelow,
          lookupSegs_of_empty (.inr rfl) hne, lookupSegs_of_empty (.inl rfl) hne]
    · rw [hold]
      rcases descendInto_quiet hdesc with rfl | ⟨-, rfl⟩
      · rw [Except.bind, Except.bind, readBelow, readBelow, hbelow,
          lookupSegs_of_empty (.inl rfl) hne]
      · rw [Except.bind, Except.bind, readBelow, readBelow, hbelow,
          lookupSegs_of_empty (.inr rfl) hne]

end Value

open Value

/-- **A write into an object document is read back at its path.** For every object document,
every path (dots, bracketed indices, empty segments) and every value: when writing the value at
the path succeeds, reading the path from the result gives the value, whatever default a read
would fall back to. -/
theorem lookup_setAt_self {fields : List (String × Value)} {path : String} {x g' : Value}
    {reps : List Replaced} (h : (Value.obj fields).setAt path x = .ok (g', reps)) :
    g'.lookup path = .ok (some x) :=
  lookupSegs_setSegs_self (fun seg _ => admits_obj fields seg) h

/-- Appending to an array read back: `list[1].name` in a document whose `list` has one item. -/
theorem lookup_setAt_self_appended :
    let g : Value := .obj [("list", .arr [.str "a"])]
    let g' : Value := .obj [("list", .arr [.str "a", .obj [("name", .str "b")]])]
    g.setAt "list[1].name" (.str "b") = .ok (g', []) ∧
      g'.lookup "list[1].name" = .ok (some (.str "b")) :=
  have h : (Value.obj [("list", .arr [.str "a"])]).setAt "list[1].name" (.str "b") =
      .ok (.obj [("list", .arr [.str "a", .obj [("name", .str "b")]])], []) := rfl
  ⟨h, lookup_setAt_self h⟩

/-- **A quiet write keeps every path apart from its own.** For every object document and every
two paths `p` and `q` neither of which is, segment by segment, a prefix of the other: when
writing a value at `p` succeeds without replacing a value on its way, and the segments where the
paths first differ are not two spellings of one index, reading `q` gives what it gave before. -/
theorem lookup_setAt_apart {fields : List (String × Value)} {p q : String} {x g' : Value}
    (h : (Value.obj fields).setAt p x = .ok (g', []))
    (hpq : ¬ Path.segments p <+: Path.segments q) (hqp : ¬ Path.segments q <+: Path.segments p)
    (hfork : ∀ a b, Path.firstFork (Path.segments p) (Path.segments q) = some (a, b) →
      ¬ Path.IndexAliases a b) :
    g'.lookup q = (Value.obj fields).lookup q := by
  obtain ⟨a, b, hab⟩ := Path.firstFork_isSome hpq hqp
  obtain ⟨hne, pre, rp, rq, hp, hq⟩ := Path.firstFork_eq_some hab
  unfold setAt at h
  unfold lookup
  rw [hp] at h
  rw [hq]
  exact lookupSegs_setSegs_apart hne (hfork a b hab) pre (fun seg _ => admits_obj fields seg) h

/-- Appending `list[1].name` keeps `list[0]`: the paths part at the indices `1` and `0`. -/
theorem lookup_setAt_apart_sibling :
    let g : Value := .obj [("list", .arr [.str "a"])]
    let g' : Value := .obj [("list", .arr [.str "a", .obj [("name", .str "b")]])]
    g.setAt "list[1].name" (.str "b") = .ok (g', []) ∧
      ¬ Path.segments "list[1].name" <+: Path.segments "list[0]" ∧
      ¬ Path.segments "list[0]" <+: Path.segments "list[1].name" ∧
      (∀ a b, Path.firstFork (Path.segments "list[1].name") (Path.segments "list[0]") =
        some (a, b) → ¬ Path.IndexAliases a b) ∧
      g'.lookup "list[0]" = g.lookup "list[0]" :=
  have h : (Value.obj [("list", .arr [.str "a"])]).setAt "list[1].name" (.str "b") =
      .ok (.obj [("list", .arr [.str "a", .obj [("name", .str "b")]])], []) := rfl
  have hpq : ¬ Path.segments "list[1].name" <+: Path.segments "list[0]" := by decide +kernel
  have hqp : ¬ Path.segments "list[0]" <+: Path.segments "list[1].name" := by decide +kernel
  have hfork : ∀ a b, Path.firstFork (Path.segments "list[1].name") (Path.segments "list[0]") =
      some (a, b) → ¬ Path.IndexAliases a b := by
    intro a b hab
    have hf : Path.firstFork (Path.segments "list[1].name") (Path.segments "list[0]") =
        some ("1", "0") := by decide +kernel
    rw [hf, Option.some.injEq, Prod.mk.injEq] at hab
    obtain ⟨rfl, rfl⟩ := hab
    rintro ⟨-, -, n, h₁, h₀⟩
    have e₁ : Text.readInt "1" = some 1 := by decide +kernel
    have e₀ : Text.readInt "0" = some 0 := by decide +kernel
    rw [e₁, Option.some.injEq] at h₁
    rw [e₀, Option.some.injEq] at h₀
    omega
  ⟨h, hpq, hqp, hfork, lookup_setAt_apart h hpq hqp hfork⟩

end Questionnaire

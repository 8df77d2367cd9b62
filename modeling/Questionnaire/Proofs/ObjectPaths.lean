import Questionnaire.Path
/-!
# Writing along object keys

A write at a path creates the objects it needs on the way. When every value already on the way
is an object or absent, it replaces nothing and changes nothing off the way. This file says so
through `Value.atKeys`, the value reached along a list of keys through objects only, and
`Value.OpenAlong g ks`: every value strictly before the end of the way `ks` is absent or an
object.

* `lookupSegs_of_openAlong`: reading along an open way reads `atKeys`;
* `setSegs_of_openAlong`: writing along an open way replaces no intermediate value, puts the
  value at the end of the way, leaves objects before it, and keeps the value at every key list
  that is neither a prefix nor an extension of the way (`WrittenAlong`).
-/

namespace Questionnaire

namespace Value

/-- The value reached from `v` along the keys `ks`, through objects only. -/
def atKeys : Value → List String → Option Value
  | v, [] => some v
  | .obj fields, k :: ks => (fieldGet? fields k).bind fun child => atKeys child ks
  | _, _ :: _ => none

@[simp] theorem atKeys_nil (v : Value) : atKeys v [] = some v := rfl

@[simp] theorem atKeys_obj_cons (fields : List (String × Value)) (k : String)
    (ks : List String) :
    atKeys (.obj fields) (k :: ks) = (fieldGet? fields k).bind fun child => atKeys child ks :=
  rfl

/-- The empty object has nothing below it. -/
theorem atKeys_empty_cons (k : String) (ks : List String) : atKeys (.obj []) (k :: ks) = none :=
  rfl

/-- Every value strictly before the end of the way `ks` from `v` is absent or an object. -/
def OpenAlong (v : Value) (ks : List String) : Prop :=
  ∀ P, P <+: ks → P ≠ ks → atKeys v P = none ∨ ∃ fields, atKeys v P = some (.obj fields)

/-- Nothing stands in the way in an empty object. -/
theorem openAlong_empty (ks : List String) : OpenAlong (.obj []) ks := by
  intro P _ _
  cases P with
  | nil => exact .inr ⟨[], rfl⟩
  | cons k P => exact .inl (atKeys_empty_cons k P)

/-- The start of a nonempty open way is an object. -/
theorem OpenAlong.obj {v : Value} {k : String} {ks : List String} (h : OpenAlong v (k :: ks)) :
    ∃ fields, v = .obj fields := by
  rcases h [] List.nil_prefix (List.cons_ne_nil k ks).symm with h | ⟨fields, h⟩
  · cases h
  · exact ⟨fields, Option.some.inj h⟩

/-- Below an object, the way goes on from the child at its first key. -/
theorem OpenAlong.child {fields : List (String × Value)} {k : String} {ks : List String}
    {child : Value} (h : OpenAlong (.obj fields) (k :: ks)) (hc : fieldGet? fields k = some child) :
    OpenAlong child ks := by
  intro P hP hne
  have := h (k :: P) (List.cons_prefix_cons.2 ⟨rfl, hP⟩) (fun e => hne (List.cons.inj e).2)
  simpa [hc] using this

/-- Reading along an open way reads the value `atKeys` reaches. -/
theorem lookupSegs_of_openAlong {v : Value} {ks : List String} (h : OpenAlong v ks) :
    lookupSegs v ks = .ok (atKeys v ks) := by
  induction ks generalizing v with
  | nil => rfl
  | cons k ks ih =>
    obtain ⟨fields, rfl⟩ := h.obj
    cases hc : fieldGet? fields k with
    | none => simp [lookupSegs, hc]
    | some child => simp [lookupSegs, hc, ih (h.child hc)]

/-- `g'` is `g` with `x` written at the end of the way `ks`: `x` is there, every value before it
on the way is an object, and every key list that is neither a prefix nor an extension of `ks`
reaches what it reached in `g`. -/
structure WrittenAlong (g : Value) (ks : List String) (x g' : Value) : Prop where
  at_end : atKeys g' ks = some x
  on_way : ∀ P, P <+: ks → P ≠ ks → ∃ fields, atKeys g' P = some (.obj fields)
  apart : ∀ P, ¬ P <+: ks → ¬ ks <+: P → atKeys g' P = atKeys g P

/-- Writing under key `k` of an object, with the child there written along the rest of the way. -/
theorem WrittenAlong.field {fields : List (String × Value)} {k : String} {ks : List String}
    {x start child' : Value} (h : WrittenAlong start ks x child')
    (hstart : ∀ P, P ≠ [] → atKeys start P = atKeys (.obj fields) (k :: P)) :
    WrittenAlong (.obj fields) (k :: ks) x (.obj (fieldSet fields k child')) := by
  refine ⟨by simpa using h.at_end, fun P hP hne => ?_, fun P hP hks' => ?_⟩
  · -- the way before the end: the object itself, or the way inside the written child
    cases P with
    | nil => exact ⟨_, rfl⟩
    | cons j P =>
      obtain ⟨rfl, hrest⟩ := List.cons_prefix_cons.1 hP
      simpa using h.on_way P hrest (fun e => hne (e ▸ rfl))
  · cases P with
    | nil => exact absurd List.nil_prefix hP
    | cons j P =>
      by_cases hj : j = k
      · subst hj
        have hP' : ¬ P <+: ks := fun e => hP (List.cons_prefix_cons.2 ⟨rfl, e⟩)
        have hks'' : ¬ ks <+: P := fun e => hks' (List.cons_prefix_cons.2 ⟨rfl, e⟩)
        have hne : P ≠ [] := by
          rintro rfl
          exact hP' List.nil_prefix
        rw [← hstart P hne, atKeys_obj_cons, fieldGet?_fieldSet_self, Option.bind_some,
          h.apart P hP' hks'']
      · simp [fieldGet?_fieldSet_ne _ _ hj]

/-- Writing at a one-key way into an object sets the field. -/
theorem writtenAlong_single (fields : List (String × Value)) (k : String) (x : Value) :
    WrittenAlong (.obj fields) [k] x (.obj (fieldSet fields k x)) := by
  refine ⟨by simp, fun P hP hne => ?_, fun P hP hk => ?_⟩
  · cases P with
    | nil => exact ⟨_, rfl⟩
    | cons j P =>
      obtain ⟨rfl, hrest⟩ := List.cons_prefix_cons.1 hP
      exact absurd (congrArg (j :: ·) (List.prefix_nil.1 hrest)) hne
  · cases P with
    | nil => exact absurd List.nil_prefix hP
    | cons j P =>
      have hj : j ≠ k := by
        rintro rfl
        exact hk (List.cons_prefix_cons.2 ⟨rfl, List.nil_prefix⟩)
      simp [fieldGet?_fieldSet_ne _ _ hj]

/-- Descending under key `k` of an object on an open way meets the child there, or a new empty
object where it is absent; nothing is replaced, and the way goes on open. -/
theorem descendInto_of_openAlong {fields : List (String × Value)} {k k' : String}
    {ks : List String} (h : OpenAlong (.obj fields) (k :: k' :: ks)) :
    ∃ start, descendInto k k' ((fieldGet? fields k).getD .null) = .ok (start, []) ∧
      OpenAlong start (k' :: ks) ∧
      ∀ P, P ≠ [] → atKeys start P = atKeys (.obj fields) (k :: P) := by
  cases hc : fieldGet? fields k with
  | none =>
    refine ⟨.obj [], rfl, openAlong_empty _, fun P hP => ?_⟩
    cases P with
    | nil => exact absurd rfl hP
    | cons j P => simp [hc]
  | some child =>
    have hopen := h.child hc
    obtain ⟨cf, rfl⟩ := hopen.obj
    exact ⟨.obj cf, rfl, hopen, fun P _ => by simp [hc]⟩

/-- **Writing along an open way replaces nothing.** It puts `x` at the end of the way, objects
before it, and keeps every key list off the way. -/
theorem setSegs_of_openAlong {g : Value} {ks : List String} (x : Value) (hks : ks ≠ [])
    (h : OpenAlong g ks) : ∃ g', setSegs g ks x = .ok (g', []) ∧ WrittenAlong g ks x g' := by
  induction ks generalizing g with
  | nil => exact absurd rfl hks
  | cons k ks ih =>
    obtain ⟨fields, rfl⟩ := h.obj
    cases ks with
    | nil => exact ⟨_, rfl, writtenAlong_single fields k x⟩
    | cons k' ks =>
      -- one key down, then the rest of the way from the child by induction
      obtain ⟨start, hdesc, hopen, hstart⟩ := descendInto_of_openAlong h
      obtain ⟨child', hset, hw⟩ := ih (List.cons_ne_nil _ _) hopen
      refine ⟨_, ?_, hw.field hstart⟩
      simp only [setSegs, hdesc, hset, List.append_nil]

end Value

end Questionnaire

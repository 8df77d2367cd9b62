import Questionnaire.Schema.Check
import Questionnaire.Proofs.QuotedText
import Questionnaire.Proofs.Locations
/-!
# Every `required` issue names its missing property

A `required` keyword reports one failure for each property it names that the object lacks, with
the message `'p' is a required property`. As an issue, the failure also carries the missing
property, found again as the first missing property whose quoted text starts the message.
Quoted texts are a prefix code (`eq_of_startsWith_quoteText`), so that is always `p`, whichever
other properties are missing.

Failures reach the list of an evaluation through subschemas, which place them below the key or
position of the instance they checked (`below`). `FoundAt` says where a value lies in an instance,
and `RequiredAt` what a `required` failure must satisfy there. One round of evaluation keeps it
(`keywordReports_succ`, `descendReports_succ`), so every evaluation does (`reports`), whatever the
schema and the depth budget: `required_issue_names_property`.
-/

namespace Questionnaire

namespace Schema

open Value

/-! ## Fields of objects -/

/-- The field an object gives for a key is one of its fields. -/
theorem mem_of_fieldGet? {fields : List (String × Value)} {k : String} {v : Value}
    (h : fieldGet? fields k = some v) : (k, v) ∈ fields := by
  induction fields with
  | nil => cases h
  | cons kv fields ih =>
    obtain ⟨k', v'⟩ := kv
    simp only [fieldGet?] at h
    split at h
    · rename_i hk
      subst hk
      cases h
      exact List.mem_cons_self
    · exact List.mem_cons_of_mem _ (ih h)

/-- A key of an object gives a field. -/
theorem fieldGet?_of_mem_keys {fields : List (String × Value)} {k : String}
    (h : k ∈ fields.map Prod.fst) : ∃ v, fieldGet? fields k = some v := by
  induction fields with
  | nil => cases h
  | cons kv fields ih =>
    obtain ⟨k', v'⟩ := kv
    simp only [fieldGet?]
    split
    · exact ⟨v', rfl⟩
    · rename_i hk
      rcases List.mem_cons.1 h with he | h
      · exact absurd he.symm hk
      · exact ih h

/-- A key of an object gives one of its fields. -/
theorem mem_fieldGet?_getD {fields : List (String × Value)} {k : String}
    (h : k ∈ fields.map Prod.fst) (d : Value) : (k, (fieldGet? fields k).getD d) ∈ fields := by
  obtain ⟨v, hv⟩ := fieldGet?_of_mem_keys h
  rw [hv]
  exact mem_of_fieldGet? hv

/-! ## The failures of `required` -/

/-- **Each `required` failure names a property the object lacks, and carries it as the missing
property**: no other missing property of the list can start its message. -/
theorem mem_requiredFailures {schema : List (String × Value)} {v inst : Value} {f : Failure}
    (hf : f ∈ requiredFailures schema v inst) :
    ∃ fields p, inst = .obj fields ∧ fieldHas fields p = false ∧ f.path = [] ∧
      f.keyword = some "required" ∧ f.message = quoteText p ++ " is a required property" ∧
      f.missing = some p := by
  unfold requiredFailures at hf
  split at hf
  · rename_i fields names
    dsimp only at hf
    obtain ⟨n, hn, hfn⟩ := List.mem_filterMap.1 hf
    cases n <;> dsimp only at hfn
    all_goals try cases hfn
    rename_i s
    split at hfn
    · cases hfn
    rename_i hlacks
    obtain rfl := Option.some.inj hfn
    refine ⟨fields, s, rfl, by simpa using hlacks, rfl, rfl, rfl, ?_⟩
    -- the property is among the missing ones, so the first missing one its message names is it
    exact find?_quoteText (List.mem_filterMap.2 ⟨.str s, hn, by simp [hlacks]⟩)
  · simp at hf

/-! ## Where failures lie -/

/-- A value is found at a location when each step leads to it: a key to a field of that name, an
index to the item there. -/
inductive FoundAt : Value → List Part → Value → Prop
  | here (v : Value) : FoundAt v [] v
  | key {fields : List (String × Value)} {k : String} {child w : Value} {ℓ : List Part} :
    (k, child) ∈ fields → FoundAt child ℓ w → FoundAt (.obj fields) (.key k :: ℓ) w
  | index {items : List Value} {i : Nat} {child w : Value} {ℓ : List Part} :
    items[i]? = some child → FoundAt child ℓ w → FoundAt (.arr items) (.index i :: ℓ) w

/-- The value at a location (`Value.atLoc`, which takes the first field of a key) is found there;
where an object repeats a key, the later fields of that name are found too. -/
theorem FoundAt.of_atLoc {v w : Value} {ℓ : List Part} (h : v.atLoc ℓ = some w) :
    FoundAt v ℓ w := by
  induction ℓ generalizing v with
  | nil =>
    cases h
    exact .here _
  | cons p ℓ ih =>
    cases v <;> cases p <;> simp only [Value.atLoc, reduceCtorEq] at h
    case obj.key fields k =>
      obtain ⟨child, hc, hat⟩ := Option.bind_eq_some_iff.1 h
      exact .key (mem_of_fieldGet? hc) (ih hat)
    case arr.index items i =>
      obtain ⟨child, hc, hat⟩ := Option.bind_eq_some_iff.1 h
      exact .index hc (ih hat)

/-- Below a text there is nothing but the text. -/
theorem FoundAt.eq_of_str {s : String} {ℓ : List Part} {w : Value} (h : FoundAt (.str s) ℓ w) :
    w = .str s := by
  cases h
  rfl

/-- An instance leads through a step of a path, or through none, to a value: what lies below
that value lies below the instance, past the step. -/
def Leads (outer : Value) (part : Option Part) (inner : Value) : Prop :=
  ∀ ℓ w, FoundAt inner ℓ w → FoundAt outer (part.toList ++ ℓ) w

/-- Every value leads to itself through no step. -/
theorem leads_self (v : Value) : Leads v none v := fun _ _ h => h

/-- A field leads to its value. -/
theorem leads_key {fields : List (String × Value)} {k : String} {v : Value}
    (h : (k, v) ∈ fields) :
    Leads (.obj fields) (some (.key k)) v := fun _ _ hw => .key h hw

/-- A position inside an array leads to the item there. -/
theorem leads_index_getD {items : List Value} {i : Nat} (h : i < items.length) (d : Value) :
    Leads (.arr items) (some (.index i)) (items[i]?.getD d) := by
  intro ℓ w hw
  simp only [List.getElem?_eq_getElem h, Option.getD_some] at hw
  exact .index (List.getElem?_eq_getElem h) hw

/-- A failure that is a `required` failure names a property that the object at its location
lacks, and carries that property as the missing one. -/
def RequiredAt (inst : Value) (f : Failure) : Prop :=
  f.keyword = some "required" → ∃ fields p, FoundAt inst f.path (.obj fields) ∧
    fieldHas fields p = false ∧ f.message = quoteText p ++ " is a required property" ∧
    f.missing = some p

/-- A failure of another keyword says nothing about a missing property. -/
theorem requiredAt_of_keyword_ne {inst : Value} {f : Failure} (h : f.keyword ≠ some "required") :
    RequiredAt inst f := fun hk => absurd hk h

/-- The failures of `required` lie at the object itself. -/
theorem requiredAt_of_mem_requiredFailures {schema : List (String × Value)} {v inst : Value}
    {f : Failure} (hf : f ∈ requiredFailures schema v inst) : RequiredAt inst f := by
  obtain ⟨fields, p, rfl, hp, hpath, -, hmsg, hmiss⟩ := mem_requiredFailures hf
  intro _
  exact ⟨fields, p, hpath ▸ .here _, hp, hmsg, hmiss⟩

/-- Failures placed below a step lie below it in an instance that leads through the step. -/
theorem requiredAt_below {outer inner : Value} {part : Option Part}
    (hleads : Leads outer part inner) {fs : List Failure} (hfs : ∀ g ∈ fs, RequiredAt inner g) :
    ∀ f ∈ below part fs, RequiredAt outer f := by
  intro f hf
  cases part with
  | none =>
    intro hk
    obtain ⟨fields, p, hat, hrest⟩ := hfs f hf hk
    exact ⟨fields, p, hleads _ _ hat, hrest⟩
  | some pt =>
    obtain ⟨g, hg, rfl⟩ := List.mem_map.1 hf
    intro hk
    obtain ⟨fields, p, hat, hrest⟩ := hfs g hg hk
    exact ⟨fields, p, hleads _ _ hat, hrest⟩

/-! ## Evaluations that succeed -/

/-- A sequence of evaluations that succeeds passes a result of its first step to the rest. -/
theorem ok_of_bind {α β : Type} {x : Eval α} {g : α → Eval β} {b : β}
    (h : (x >>= g) = .ok b) :
    ∃ a, x = .ok a ∧ g a = .ok b := by
  cases x with
  | error e => cases h
  | ok a => exact ⟨a, rfl, h⟩

/-- What every evaluation of a list's items gives holds of what the items give together. -/
theorem forall_of_flatMapM {α β : Type} {P : β → Prop} {g : α → Eval (List β)}
    {xs : List α} {ys : List β} (h : xs.flatMapM g = .ok ys)
    (hg : ∀ x ∈ xs, ∀ zs, g x = .ok zs → ∀ z ∈ zs, P z) :
    ∀ y ∈ ys, P y := by
  induction xs generalizing ys with
  | nil =>
    cases h
    simp
  | cons x xs ih =>
    rw [List.flatMapM_cons] at h
    obtain ⟨zs, hx, h⟩ := ok_of_bind h
    obtain ⟨rest, hrest, h⟩ := ok_of_bind h
    cases h
    intro y hy
    rcases List.mem_append.1 hy with hy | hy
    · exact hg x List.mem_cons_self zs hx y hy
    · exact ih hrest (fun x' hx' => hg x' (List.mem_cons_of_mem _ hx')) y hy

/-- Failures built in place, none of them of `required`, say nothing about a missing property. -/
theorem requiredAt_of_pure {inst : Value} {gs fs : List Failure}
    (h : (pure gs : Eval (List Failure)) = .ok fs)
    (hgs : ∀ g ∈ gs, g.keyword ≠ some "required") :
    ∀ f ∈ fs, RequiredAt inst f := by
  have hfs : gs = fs := Except.ok.inj h
  subst hfs
  exact fun f hf => requiredAt_of_keyword_ne (hgs f hf)

/-! ## Every `required` failure names its missing property -/

/-- The evaluations of schemas with a depth budget report every `required` failure at an object,
below the instance that leads to the one they check, lacking the property it names. -/
def DescendReports (env : Env) (fuel : Nat) : Prop :=
  ∀ doc schema inst part fs, Evaluator.descend env fuel doc schema inst part = .ok fs →
    ∀ outer, Leads outer part inst → ∀ f ∈ fs, RequiredAt outer f

/-- The evaluations of keywords with a depth budget report every `required` failure at an object
lacking the property it names. -/
def KeywordReports (env : Env) (fuel : Nat) : Prop :=
  ∀ doc schema k v inst fs, Evaluator.keyword env fuel doc schema k v inst = .ok fs →
    ∀ f ∈ fs, RequiredAt inst f

/-- **A keyword reports `required` failures where they belong** when the schemas it evaluates one
level down do: case by case, a keyword reports failures of its own, none of them of `required`
but those of `required` itself, or the failures of subschemas on the instance or on a field or
item of it. -/
theorem keywordReports_succ {env : Env} {n : Nat} (ihd : DescendReports env n) :
    KeywordReports env (n + 1) := by
  intro doc schema k v inst fs h
  unfold Evaluator.keyword at h
  dsimp only at h
  split at h
  case h_1 | h_2 =>
    -- a reference: the schema it leads to, on the same instance
    split at h
    · obtain ⟨ds, -, h⟩ := ok_of_bind h
      exact ihd _ _ _ _ _ h inst (leads_self inst)
    · exact requiredAt_of_pure h (by simp)
  case h_3 =>
    have hfs : requiredFailures schema v inst = fs := Except.ok.inj h
    subst hfs
    exact fun f hf => requiredAt_of_mem_requiredFailures hf
  case h_4 =>
    -- `properties`: each named field present, at its key
    split at h
    · refine forall_of_flatMapM h fun x _ zs hz => ?_
      split at hz
      · exact ihd _ _ _ _ _ hz _ (leads_key (mem_of_fieldGet? ‹_›))
      · exact requiredAt_of_pure hz (by simp)
    · exact requiredAt_of_pure h (by simp)
  case h_5 =>
    -- `patternProperties`: each field whose key a pattern matches, at its key
    split at h
    · refine forall_of_flatMapM h fun x _ zs hz => forall_of_flatMapM hz fun y hy ws hw => ?_
      split at hw
      · exact ihd _ _ _ _ _ hw _ (leads_key hy)
      · exact requiredAt_of_pure hw (by simp)
    · exact requiredAt_of_pure h (by simp)
  case h_6 =>
    -- `additionalProperties`: each field left over, at its key, or a failure of its own
    split at h
    · split at h
      · refine forall_of_flatMapM h fun name hname zs hz => ?_
        exact ihd _ _ _ _ _ hz _ (leads_key (mem_fieldGet?_getD (List.mem_filter.1 hname).1 _))
      · split at h
        · exact requiredAt_of_pure h (by simp)
        · split at h <;> exact requiredAt_of_pure h (by simp [failure])
      · exact requiredAt_of_pure h (by simp)
    · exact requiredAt_of_pure h (by simp)
  case h_7 =>
    -- `propertyNames`: a name is a text, below which no object lies
    split at h
    · refine forall_of_flatMapM h fun x _ zs hz g hg => requiredAt_of_keyword_ne fun hk => ?_
      obtain ⟨fields, p, hat, -⟩ := ihd _ _ _ _ _ hz _ (leads_self _) g hg hk
      cases hat.eq_of_str
    · exact requiredAt_of_pure h (by simp)
  case h_8 =>
    -- `items`: each item after the leading ones, at its position, or a failure of its own
    split at h
    · split at h
      · exact requiredAt_of_pure h (by simp)
      · split at h
        · exact requiredAt_of_pure h (by simp [failure])
        · refine forall_of_flatMapM h fun j hj zs hz => ?_
          rw [List.mem_range] at hj
          exact ihd _ _ _ _ _ hz _ (leads_index_getD (by omega) _)
    · exact requiredAt_of_pure h (by simp)
  case h_9 =>
    -- `prefixItems`: each leading item, at its position
    split at h
    · refine forall_of_flatMapM h fun i hi zs hz => ?_
      rw [List.mem_range] at hi
      exact ihd _ _ _ _ _ hz _ (leads_index_getD (by omega) _)
    · exact requiredAt_of_pure h (by simp)
  case h_10 =>
    -- `contains` counts the items that pass and reports failures of its own
    split at h
    · obtain ⟨counted, -, h⟩ := ok_of_bind h
      split at h
      · exact requiredAt_of_pure h (by simp)
      · split at h
        · split at h <;> exact requiredAt_of_pure h (by simp [failure])
        · exact requiredAt_of_pure h (by simp)
    · exact requiredAt_of_pure h (by simp)
  case h_11 =>
    -- `dependentSchemas`: the subschemas of the fields present, on the same instance
    split at h
    · refine forall_of_flatMapM h fun x _ zs hz => ?_
      split at hz
      · exact ihd _ _ _ _ _ hz _ (leads_self _)
      · exact requiredAt_of_pure hz (by simp)
    · exact requiredAt_of_pure h (by simp)
  case h_12 =>
    -- `allOf`: every subschema, on the same instance
    split at h
    · exact forall_of_flatMapM h fun sub _ zs hz => ihd _ _ _ _ _ hz _ (leads_self _)
    · exact requiredAt_of_pure h (by simp)
  case h_13 =>
    -- `anyOf` keeps the failures of the alternatives inside a failure of its own
    split at h
    · obtain ⟨tried, -, h⟩ := ok_of_bind h
      split at h <;> exact requiredAt_of_pure h (by simp [failure])
    · exact requiredAt_of_pure h (by simp)
  case h_14 =>
    -- `oneOf` likewise
    split at h
    · obtain ⟨tried, -, h⟩ := ok_of_bind h
      split at h
      · exact requiredAt_of_pure h (by simp [failure])
      · obtain ⟨more, -, h⟩ := ok_of_bind h
        split at h <;> exact requiredAt_of_pure h (by simp [failure])
    · exact requiredAt_of_pure h (by simp)
  case h_15 =>
    -- `not` only asks whether the subschema passes
    obtain ⟨passed, -, h⟩ := ok_of_bind h
    split at h <;> exact requiredAt_of_pure h (by simp [failure])
  case h_16 =>
    -- `if`: the `then` or `else` subschema, on the same instance
    obtain ⟨passed, -, h⟩ := ok_of_bind h
    split at h
    all_goals
      split at h
      · exact ihd _ _ _ _ _ h _ (leads_self _)
      · exact requiredAt_of_pure h (by simp)
  case h_17 =>
    -- `unevaluatedProperties` reports the fields left over in a failure of its own
    split at h
    · obtain ⟨evaluated, -, h⟩ := ok_of_bind h
      obtain ⟨bad, -, h⟩ := ok_of_bind h
      split at h
      · exact requiredAt_of_pure h (by simp)
      · split at h <;> exact requiredAt_of_pure h (by simp [failure])
    · exact requiredAt_of_pure h (by simp)
  case h_18 =>
    -- `unevaluatedItems` likewise
    split at h
    · obtain ⟨evaluated, -, h⟩ := ok_of_bind h
      split at h <;> exact requiredAt_of_pure h (by simp [failure])
    · exact requiredAt_of_pure h (by simp)
  case h_19 =>
    -- every other keyword reports failures of its own, under its own name
    have hne : k ≠ "required" := by assumption
    exact requiredAt_of_pure h (by simp [failure, hne])

/-- **A schema reports `required` failures where they belong** when its keywords do: it places
them below the step it was reached through. -/
theorem descendReports_succ {env : Env} {n : Nat} (ihk : KeywordReports env n) :
    DescendReports env (n + 1) := by
  intro doc schema inst part fs h outer hleads
  unfold Evaluator.descend at h
  dsimp only at h
  split at h
  · -- the schema `false` reports a failure of no keyword
    cases h
    intro f hf
    rw [List.mem_singleton.1 hf]
    exact requiredAt_of_keyword_ne (by simp [falseFailure])
  · obtain ⟨gs, hgs, h⟩ := ok_of_bind h
    cases h
    exact requiredAt_below hleads (forall_of_flatMapM hgs fun x _ zs hz => ihk _ _ _ _ _ _ hz)
  · cases h
    simp

/-- Every evaluation, whatever its depth budget, reports `required` failures where they belong:
by induction on the budget, one round at a time. -/
theorem reports (env : Env) (fuel : Nat) : DescendReports env fuel ∧ KeywordReports env fuel := by
  induction fuel with
  | zero =>
    -- without budget an evaluation stops with an error
    constructor
    · intro doc schema inst part fs h
      cases h
    · intro doc schema k v inst fs h
      cases h
  | succ n ih => exact ⟨descendReports_succ ih.2, keywordReports_succ ih.1⟩

end Schema

end Questionnaire

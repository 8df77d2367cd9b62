/-!
# Document values

Answers, question definitions, schemas and configuration files are all documents built from the
same seven shapes: null, booleans, integers of any size, binary64 floats, strings, arrays and
objects. An integer and a float are different values even when they denote the same number, and
an object keeps its fields in the order in which they were first written.

The main operations here are the field list of an object (`Value.fieldGet?`, `Value.fieldSet`)
and truthiness (`Value.truthy`), the test "is this value given at all" that several rules use.
-/

namespace Questionnaire

/-- A document value. Objects are field lists in insertion order; no key appears twice in a list
built by `Value.fieldSet`. -/
inductive Value where
  | null
  | bool (b : Bool)
  | int (n : Int)
  | float (x : Float)
  | str (s : String)
  | arr (items : List Value)
  | obj (fields : List (String × Value))
deriving Inhabited

namespace Value

/-- The value stored under key `k` in a field list, if any. -/
def fieldGet? : List (String × Value) → String → Option Value
  | [], _ => none
  | (k', v) :: rest, k => if k' = k then some v else fieldGet? rest k

/-- Writes `v` under key `k`: an existing field keeps its position and takes the new value, a new
key goes to the end. -/
def fieldSet : List (String × Value) → String → Value → List (String × Value)
  | [], k, v => [(k, v)]
  | (k', v') :: rest, k, v => if k' = k then (k, v) :: rest else (k', v') :: fieldSet rest k v

/-- Whether key `k` is present in a field list. -/
def fieldHas (fields : List (String × Value)) (k : String) : Bool :=
  (fieldGet? fields k).isSome

/-- The keys of a field list, in order. -/
def fieldKeys (fields : List (String × Value)) : List String :=
  fields.map Prod.fst

/-- A value counts as given when it is not null, not false, not a zero number and not an empty
string, array or object. A NaN float counts as given. -/
def truthy : Value → Bool
  | .null => false
  | .bool b => b
  | .int n => n != 0
  | .float x => !(x == 0.0)
  | .str s => !s.isEmpty
  | .arr items => !items.isEmpty
  | .obj fields => !fields.isEmpty

/-- Whether the value is a string. -/
def isStr : Value → Bool
  | .str _ => true
  | _ => false

/-- Whether the value is null. -/
def isNull : Value → Bool
  | .null => true
  | _ => false

/-- The string inside a string value. -/
def asStr? : Value → Option String
  | .str s => some s
  | _ => none

/-- The items of an array value. -/
def asArr? : Value → Option (List Value)
  | .arr items => some items
  | _ => none

/-- The fields of an object value. -/
def asObj? : Value → Option (List (String × Value))
  | .obj fields => some fields
  | _ => none

/-- The value at key `k` of an object; none for a missing key or a value that is no object. -/
def get? (v : Value) (k : String) : Option Value :=
  match v with
  | .obj fields => fieldGet? fields k
  | _ => none

/-- A string list as an array of strings. -/
def ofStrings (xs : List String) : Value :=
  .arr (xs.map .str)

@[simp] theorem fieldGet?_nil (k : String) : fieldGet? [] k = none := rfl

/-- After a write, reading the same key gives the written value. -/
@[simp] theorem fieldGet?_fieldSet_self (fields : List (String × Value)) (k : String) (v : Value) :
    fieldGet? (fieldSet fields k v) k = some v := by
  induction fields with
  | nil => simp [fieldSet, fieldGet?]
  | cons p rest ih =>
    obtain ⟨k', v'⟩ := p
    by_cases h : k' = k
    · simp [fieldSet, fieldGet?, h]
    · simp [fieldSet, fieldGet?, h, ih]

/-- A write leaves the other keys alone. -/
theorem fieldGet?_fieldSet_ne (fields : List (String × Value)) {k j : String} (v : Value)
    (h : j ≠ k) : fieldGet? (fieldSet fields k v) j = fieldGet? fields j := by
  induction fields with
  | nil =>
    have : k ≠ j := fun e => h e.symm
    simp [fieldSet, fieldGet?, this]
  | cons p rest ih =>
    obtain ⟨k', v'⟩ := p
    by_cases hk : k' = k
    · subst hk
      have : k' ≠ j := fun e => h e.symm
      simp [fieldSet, fieldGet?, this]
    · by_cases hj : k' = j
      · subst hj
        simp [fieldSet, fieldGet?, hk]
      · simp [fieldSet, fieldGet?, hk, hj, ih]

end Value

end Questionnaire

import Questionnaire.Value.Basic
import Questionnaire.Text.Blank
import Questionnaire.Decimal.Shortest
/-!
# Records read from documents

Questions, issues, descriptors and settings are records with named, typed fields, read from an
object of a document. Reading checks every field in declaration order and collects every failure
rather than stopping at the first; each failure names the field (`loc`, with an item index below
a list field) and what was wrong with it. The whole report reads `1 validation error for Question`
or `3 validation errors for Question`.

Booleans are read leniently: besides `true` and `false`, the numbers `0` and `1` (integer or
float) and the words `0 off f false n no` and `1 on t true y yes` in any ASCII case.

Integers are read leniently too: booleans count as `0` and `1`, a float without a fraction as its
value (when it lies strictly between `-2^63` and `2^63`), and a text as the integer it writes, with
white space around it and a fraction of zeros allowed.
-/

namespace Questionnaire

/-- What was wrong with a field. -/
inductive FieldErrorKind where
  | missing
  | stringType
  | valueError
  | boolParsing
  | boolType
  | listType
  | modelType
  | intParsing
  | intParsingSize
  | intType
  | intFromFloat
  | finiteNumber
  | greaterThan
deriving DecidableEq, Repr

/-- The code of a field failure, as reports name it. -/
def FieldErrorKind.code : FieldErrorKind → String
  | .missing => "missing"
  | .stringType => "string_type"
  | .valueError => "value_error"
  | .boolParsing => "bool_parsing"
  | .boolType => "bool_type"
  | .listType => "list_type"
  | .modelType => "model_type"
  | .intParsing => "int_parsing"
  | .intParsingSize => "int_parsing_size"
  | .intType => "int_type"
  | .intFromFloat => "int_from_float"
  | .finiteNumber => "finite_number"
  | .greaterThan => "greater_than"

/-- A failure at a location inside a record: field name, then item index. -/
structure FieldError where
  loc : List String
  kind : FieldErrorKind
deriving Repr

/-- All failures of reading one record. -/
structure RecordError where
  record : String
  errors : List FieldError
deriving Repr

/-- The first line of a report: how many failures, and which record. -/
def RecordError.summary (e : RecordError) : String :=
  let n := e.errors.length
  toString n ++ (if n == 1 then " validation error for " else " validation errors for ") ++ e.record

/-- A field read: the value, or the failures found. Unlike an exception, two reads combine by
keeping the failures of both. -/
inductive Checked (α : Type) where
  | ok (a : α)
  | bad (errors : List FieldError)

namespace Checked

/-- Both reads; the failures of the first come first. -/
def and : Checked α → Checked β → Checked (α × β)
  | .ok a, .ok b => .ok (a, b)
  | .ok _, .bad e => .bad e
  | .bad e, .ok _ => .bad e
  | .bad e, .bad e' => .bad (e ++ e')

/-- Applies a function to a successful read. -/
def map (f : α → β) : Checked α → Checked β
  | .ok a => .ok (f a)
  | .bad e => .bad e

/-- A failure at one field. -/
def fail (field : String) (kind : FieldErrorKind) : Checked α :=
  .bad [⟨[field], kind⟩]

/-- The read as a result for a record. -/
def toExcept (record : String) : Checked α → Except RecordError α
  | .ok a => .ok a
  | .bad e => .error ⟨record, e⟩

end Checked

namespace Field

/-- The lenient reading of a boolean. -/
def flag : Value → Except FieldErrorKind Bool
  | .bool b => .ok b
  | .int 0 => .ok false
  | .int 1 => .ok true
  | .int _ => .error .boolParsing
  | .float x =>
    if x == 0.0 then .ok false else if x == 1.0 then .ok true else .error .boolParsing
  | .str s =>
    let w := String.ofList (s.toList.map Char.toLower)
    if ["0", "off", "f", "false", "n", "no"].contains w then .ok false
    else if ["1", "on", "t", "true", "y", "yes"].contains w then .ok true
    else .error .boolParsing
  | _ => .error .boolType

/-- A required text field. -/
def text (fields : List (String × Value)) (name : String) : Checked String :=
  match Value.fieldGet? fields name with
  | none => .fail name .missing
  | some (.str s) => .ok s
  | some _ => .fail name .stringType

/-- A text field with a default when absent. -/
def textOr (fields : List (String × Value)) (name : String) (dflt : String) : Checked String :=
  match Value.fieldGet? fields name with
  | none => .ok dflt
  | some (.str s) => .ok s
  | some _ => .fail name .stringType

/-- An optional text field: absent or null is none. -/
def optText (fields : List (String × Value)) (name : String) : Checked (Option String) :=
  match Value.fieldGet? fields name with
  | none | some .null => .ok none
  | some (.str s) => .ok (some s)
  | some _ => .fail name .stringType

/-- A boolean field with a default when absent. -/
def flagOr (fields : List (String × Value)) (name : String) (dflt : Bool) : Checked Bool :=
  match Value.fieldGet? fields name with
  | none => .ok dflt
  | some v =>
    match flag v with
    | .ok b => .ok b
    | .error k => .fail name k

/-- The items of a list of texts, each failure at its index. -/
def textItems (name : String) (items : List Value) : Checked (List String) :=
  let rec go : Nat → List Value → Checked (List String)
    | _, [] => .ok []
    | i, .str s :: rest => (go (i + 1) rest).map (s :: ·)
    | i, _ :: rest =>
      match go (i + 1) rest with
      | .ok _ => .bad [⟨[name, toString i], .stringType⟩]
      | .bad e => .bad (⟨[name, toString i], .stringType⟩ :: e)
  go 0 items

/-- An optional list of texts: absent or null is none. -/
def optTexts (fields : List (String × Value)) (name : String) : Checked (Option (List String)) :=
  match Value.fieldGet? fields name with
  | none | some .null => .ok none
  | some (.arr items) => (textItems name items).map some
  | some _ => .fail name .listType

/-- Any value, null when absent. -/
def any (fields : List (String × Value)) (name : String) : Value :=
  (Value.fieldGet? fields name).getD .null

/-- The integer an optional sign and ASCII digits write. A long text is read as a big number,
whose digits may be separated by underscores, though it may not start with one. -/
def integerDigits? (s : String) (long : Bool) : Option Int :=
  let cs := s.toList
  let (neg, body) := match cs with
    | '-' :: rest => (true, rest)
    | '+' :: rest => (false, rest)
    | _ => (false, cs)
  let digits := if long then
      match body with
      | '_' :: _ => ['x']
      | _ => body.filter (· != '_')
    else body
  if digits.isEmpty || !digits.all fun c => '0' ≤ c && c ≤ '9' then none
  else
    let n : Int := digits.foldl (fun a c => a * 10 + (c.toNat - 48)) 0
    some (if neg then -n else n)

/-- The integer a text writes: white space around it is ignored, and so is a fraction of zeros
after its first point. A text is long from 19 bytes on, counted with any such fraction; past 4300
bytes it is not read at all. -/
def intOfText (text : String) : Except FieldErrorKind Int :=
  let t := Text.trimWhiteSpace text
  let size := t.utf8ByteSize
  let long := size ≥ 19
  if size > 4300 then .error .intParsingSize
  else
    match integerDigits? t long with
    | some n => .ok n
    | none =>
      let cs := t.toList
      let whole := cs.takeWhile (· != '.')
      match cs.drop whole.length with
      | '.' :: zeros =>
        if zeros.all (· == '0') then
          match integerDigits? (String.ofList whole) long with
          | some n => .ok n
          | none => .error .intParsing
        else .error .intParsing
      | _ => .error .intParsing

/-- The lenient reading of an integer. -/
def int : Value → Except FieldErrorKind Int
  | .int n => .ok n
  | .bool b => .ok (if b then 1 else 0)
  | .float x =>
    match Decimal.classify x with
    | .finite b =>
      let whole := b.e ≥ 0 || b.m % Nat.pow 2 (-b.e).toNat == 0
      let size : Int := if b.e ≥ 0 then b.m * Nat.pow 2 b.e.toNat else b.m / Nat.pow 2 (-b.e).toNat
      let n := if b.neg then -size else size
      if !whole then .error .intFromFloat
      else if -(Nat.pow 2 63 : Int) < n && n < Nat.pow 2 63 then .ok n
      else .error .intParsingSize
    | _ => .error .finiteNumber
  | .str s => intOfText s
  | _ => .error .intType

end Field

example : (Field.intOfText " 12 ").toOption = some 12 ∧ (Field.intOfText "+5.000").toOption = some 5 ∧
    (Field.intOfText "5.").toOption = some 5 ∧ !(Field.intOfText "1_000").isOk ∧
    (Field.intOfText "1_000.000000000000000").toOption = some 1000 ∧
    !(Field.intOfText "3.5").isOk ∧ !(Field.intOfText "").isOk := by
  decide +kernel

end Questionnaire

import Questionnaire.Question
import Questionnaire.Json.Reader
import Questionnaire.Text.Blank
import Questionnaire.Text.Case
import Questionnaire.Value.Compare
import Questionnaire.Path
/-!
# Answers: stored shape and the question's own rules

A raw answer is brought into the shape stored for its question (`normalize`) and then checked
against the question's own rules (`check`). A failure of either is a rejection, shown to the person
answering before the question is asked again:

* chips become a list of trimmed, non-empty texts (a text is cut at commas);
* a table is a list; a text is read as JSON, an empty one as the empty list;
* multiselect items become texts (an item `{"value": v}` gives the text of `v`);
* booleans accept `true yes y 1` and `false no n 0` in any case, around blanks.

The checks, in order: a required answer must not be empty (null, the empty text or the empty
list); a table answer must be a list whose rows hold every declared column; a select answer that
is given must be one of the options; multiselect items must all be options.
-/

namespace Questionnaire

/-- Why an answer was refused. -/
inductive Rejection where
  | required
  | noneSelected
  | invalidJson
  | notYesNo
  | notAList
  | missingColumns (columns : List String)
  | notAnOption (options : List String)
  | unknownOptions (unknown : List String) (options : List String)
deriving Repr

/-- An example of a table answer, shown when the JSON text is unreadable. -/
def tableExample : String :=
  "[\x7b\"name\":\"Home\",\"priority\":1,\"mustHave\":true\x7d]"

/-- The message shown for a refused answer. -/
def Rejection.message : Rejection → String
  | .required => "This field is required."
  | .noneSelected => "Select at least one option."
  | .invalidJson => "Invalid JSON. Example: " ++ tableExample
  | .notYesNo => "Please answer yes or no."
  | .notAList => "Please provide a JSON array."
  | .missingColumns cs => "Each row must contain keys: " ++ ", ".intercalate cs
  | .notAnOption os => "Pick one of: " ++ ", ".intercalate os
  | .unknownOptions us os =>
    "Unknown: " ++ ", ".intercalate us ++ ". Allowed: " ++ ", ".intercalate os

/-- An answer that cannot be used: refused by a rule, or malformed data that stops the run. -/
inductive Refusal where
  | rejected (r : Rejection)
  | fault (f : Fault)

namespace Answer

/-- Chips: trimmed, non-empty texts. -/
def chips (raw : Value) : List String :=
  let items := match raw with
    | .arr xs => xs.map fun (x : Value) => Text.strip x.text
    | v =>
      if v.truthy then (Path.splitOn ',' v.text.toList).map (Text.strip ∘ String.ofList)
      else []
  items.filter (!·.isEmpty)

/-- A multiselect item as text. -/
def optionText (item : Value) : String :=
  match item with
  | .obj fs =>
    match Value.fieldGet? fs "value" with
    | some v => v.text
    | none => item.text
  | _ => item.text

/-- The stored shape of a raw answer. -/
def normalize (q : Question) (raw : Value) : Except Refusal Value :=
  match q.kind with
  | .chips => .ok (Value.ofStrings (chips raw))
  | .table =>
    match raw with
    | .arr xs => .ok (.arr xs)
    | .null => .ok (.arr [])
    | .str s =>
      if Text.isBlankText s then .ok (.arr [])
      else match Json.read s with
        | .ok v => .ok v
        | .error _ => .error (.rejected .invalidJson)
    | _ => .error (.rejected .invalidJson)
  | .multiselect =>
    match raw with
    | .arr xs => .ok (Value.ofStrings (xs.map optionText))
    | _ => .ok (.arr [])
  | .boolean =>
    match raw with
    | .bool b => .ok (.bool b)
    | v =>
      let token := Text.lowerForMatch (Text.strip v.text)
      if ["true", "yes", "y", "1"].contains token then .ok (.bool true)
      else if ["false", "no", "n", "0"].contains token then .ok (.bool false)
      else .error (.rejected .notYesNo)
  | .text | .textarea | .select => .ok raw

/-- Whether an answer is empty: null, the empty text or the empty list. -/
def isEmpty : Value → Bool
  | .null => true
  | .str "" => true
  | .arr [] => true
  | _ => false

/-- The items of a value walked one by one: the items of a list, the characters of a text, the
keys of an object. Other values have no items. -/
def walk : Value → Except Fault (List Value)
  | .arr xs => .ok xs
  | .str s => .ok (s.toList.map fun c => .str (String.singleton c))
  | .obj fs => .ok (fs.map fun p => .str p.1)
  | _ => .error .notIterable

/-- The texts of values that must all be texts. -/
def texts (vs : List Value) : Except Fault (List String) :=
  vs.mapM fun
    | .str s => .ok s
    | _ => .error .notText

/-- Whether a table row holds every column. -/
def rowHas (columns : List String) : Value → Bool
  | .obj fs => columns.all (Value.fieldHas fs)
  | _ => false

/-- Checks a stored answer against the question's own rules. -/
def check (q : Question) (v : Value) : Except Refusal Unit := do
  if q.required && isEmpty v then
    throw (.rejected (if q.kind == .multiselect then .noneSelected else .required))
  if q.kind == .table then
    match v with
    | .arr rows =>
      let columns := q.columns.getD []
      if !columns.isEmpty && !rows.isEmpty && !rows.all (rowHas columns) then
        throw (.rejected (.missingColumns columns))
    | _ => throw (.rejected .notAList)
  let options := q.options.getD []
  if q.kind == .select && !options.isEmpty && !isEmpty v && !options.any v.isText then
    throw (.rejected (.notAnOption options))
  if q.kind == .multiselect && !options.isEmpty then
    match walk v with
    | .error f => throw (.fault f)
    | .ok items =>
      let unknown := items.filter fun x => !options.any x.isText
      if !unknown.isEmpty then
        match texts unknown with
        | .error f => throw (.fault f)
        | .ok us => throw (.rejected (.unknownOptions us options))

/-- The stored answer for a raw answer, if it passes the question's rules. -/
def accept (q : Question) (raw : Value) : Except Refusal Value := do
  let v ← normalize q raw
  check q v
  pure v

end Answer

end Questionnaire

import Questionnaire.Record
import Questionnaire.Value.Literal
import Questionnaire.Text.Blank
/-!
# Questions

A question has an id (the dotted path where its answer is stored), a label, a kind, and optional
options, default, placeholder, table columns and condition. Reading a question record applies
these rules, every failure reported at its field:

* the id is a text that is not blank, stored without surrounding blanks;
* the kind is one of `text textarea boolean select multiselect chips table`, exactly;
* options are any list, each item replaced by its plain text (`True`, `None`, `2.5`);
* `required` is a lenient boolean, false when absent;
* columns are a list of texts, allowed non-empty only on a table;
* the condition is read from `dependsOn`, or from `depends_on` when `dependsOn` is absent.

A questionnaire is a list of question records with pairwise different ids; the first failing
record decides the failure.
-/

namespace Questionnaire

/-- The kinds of question. -/
inductive QuestionKind where
  | text
  | textarea
  | boolean
  | select
  | multiselect
  | chips
  | table
deriving DecidableEq, Repr, Inhabited

/-- The name of a kind in question records. -/
def QuestionKind.name : QuestionKind → String
  | .text => "text"
  | .textarea => "textarea"
  | .boolean => "boolean"
  | .select => "select"
  | .multiselect => "multiselect"
  | .chips => "chips"
  | .table => "table"

/-- The kind with the given name. -/
def QuestionKind.ofName? : String → Option QuestionKind
  | "text" => some .text
  | "textarea" => some .textarea
  | "boolean" => some .boolean
  | "select" => some .select
  | "multiselect" => some .multiselect
  | "chips" => some .chips
  | "table" => some .table
  | _ => none

/-- A question of the questionnaire. -/
structure Question where
  id : String
  label : String
  kind : QuestionKind
  options : Option (List String) := none
  default : Value := .null
  required : Bool := false
  placeholder : Option String := none
  columns : Option (List String) := none
  dependsOn : Option String := none
deriving Inhabited

namespace Question

/-- The id field: a text that is not blank, without its surrounding blanks. -/
def readId (fs : List (String × Value)) : Checked String :=
  match Field.text fs "id" with
  | .ok s =>
    let t := Text.strip s
    if t.isEmpty then .fail "id" .valueError else .ok t
  | .bad e => .bad e

/-- The kind field. -/
def readKind (fs : List (String × Value)) : Checked QuestionKind :=
  match Field.text fs "type" with
  | .ok s =>
    match QuestionKind.ofName? s with
    | some k => .ok k
    | none => .fail "type" .valueError
  | .bad e => .bad e

/-- The options field: a list becomes the plain texts of its items. -/
def readOptions (fs : List (String × Value)) : Checked (Option (List String)) :=
  match Value.fieldGet? fs "options" with
  | none | some .null => .ok none
  | some (.arr items) => .ok (some (items.map Value.text))
  | some _ => .fail "options" .listType

/-- The condition field, under `dependsOn` or else `depends_on`. -/
def readCondition (fs : List (String × Value)) : Checked (Option String) :=
  if Value.fieldHas fs "dependsOn" then Field.optText fs "dependsOn"
  else Field.optText fs "depends_on"

/-- Reads a question record. -/
def ofValue (v : Value) : Except RecordError Question :=
  match v with
  | .obj fs =>
    let read := (readId fs).and (Field.text fs "label") |>.and (readKind fs)
      |>.and (readOptions fs) |>.and (Field.flagOr fs "required" false)
      |>.and (Field.optText fs "placeholder") |>.and (Field.optTexts fs "columns")
      |>.and (readCondition fs)
    match read with
    | .bad e => .error ⟨"Question", e⟩
    | .ok (((((((id, label), kind), options), required), placeholder), columns), cond) =>
      let hasColumns := match columns with
        | some (_ :: _) => true
        | _ => false
      if hasColumns && kind != .table then .error ⟨"Question", [⟨[], .valueError⟩]⟩
      else .ok { id, label, kind, options, default := Field.any fs "default", required,
                 placeholder, columns, dependsOn := cond }
  | _ => .error ⟨"Question", [⟨[], .modelType⟩]⟩

/-- The record of a question, with the condition under `dependsOn`. -/
def toValue (q : Question) : Value :=
  let optTexts (o : Option (List String)) : Value := (o.map Value.ofStrings).getD .null
  let optText (o : Option String) : Value := (o.map .str).getD .null
  .obj [("id", .str q.id), ("label", .str q.label), ("type", .str q.kind.name),
    ("options", optTexts q.options), ("default", q.default), ("required", .bool q.required),
    ("placeholder", optText q.placeholder), ("columns", optTexts q.columns),
    ("dependsOn", optText q.dependsOn)]

end Question

/-- Why a questionnaire or schema document cannot be used. -/
inductive DefinitionError where
  | notAList
  | invalidQuestion (index : Nat) (error : RecordError)
  | duplicateId (id : String)
  | unreadable (name : String) (reason : String)
  | unparsable (name : String) (reason : String)
  | schemaNotObject (name : String)
  | invalidSchema (message : String)

/-- The message of a definition failure. -/
def DefinitionError.message : DefinitionError → String
  | .notAList => "questionnaire must be a list of questions"
  | .invalidQuestion i e => "question #" ++ toString i ++ " is invalid: " ++ e.summary
  | .duplicateId id => "duplicate question id: " ++ id
  | .unreadable name reason => "cannot read " ++ name ++ ": " ++ reason
  | .unparsable name reason => "cannot parse " ++ name ++ ": " ++ reason
  | .schemaNotObject name => "schema document must be an object: " ++ name
  | .invalidSchema m => "invalid JSON schema: " ++ m

/-- Reads question records in order, refusing a repeated id. -/
def readQuestions (seen : List String) : Nat → List Value → Except DefinitionError (List Question)
  | _, [] => .ok []
  | i, v :: rest =>
    match Question.ofValue v with
    | .error e => .error (.invalidQuestion i e)
    | .ok q =>
      if seen.contains q.id then .error (.duplicateId q.id)
      else (readQuestions (q.id :: seen) (i + 1) rest).map (q :: ·)

/-- Reads a questionnaire document: a list of question records with different ids. -/
def parseQuestionnaire (doc : Value) : Except DefinitionError (List Question) :=
  match doc with
  | .arr items => readQuestions [] 0 items
  | _ => .error .notAList

end Questionnaire

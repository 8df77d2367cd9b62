import Questionnaire.Question
import Questionnaire.Path
import Questionnaire.Json.Writer
/-!
# Prompt descriptors

Before each attempt at a question the engine describes the prompt to show: its kind, the
question's id and label, the options, the value offered as default, and for tables the columns
each row needs. The default is the answer already stored for the question, if it is not null,
and otherwise the question's own default; it is shaped for the prompt kind:

* boolean questions are yes/no confirmations, offering a boolean (false for anything else);
* select questions list their options and offer the default as it is;
* multiselect questions are checkbox lists offering the default items, as texts, that are options;
  the list shows between 5 and 12 rows;
* chips are text prompts offering a list default joined by `, `;
* tables are edited as JSON text, offering the default (an empty list when there is none) written
  with two-space indentation and ASCII escapes;
* text and textarea questions are text prompts offering the default as it is.
-/

namespace Questionnaire

/-- The kinds of prompt. -/
inductive PromptKind where
  | text
  | confirm
  | select
  | checkbox
  | editor
deriving DecidableEq, Repr, Inhabited

/-- The name of a prompt kind. -/
def PromptKind.name : PromptKind → String
  | .text => "text"
  | .confirm => "confirm"
  | .select => "select"
  | .checkbox => "checkbox"
  | .editor => "editor"

/-- The prompt for one attempt at a question. -/
structure Descriptor where
  kind : PromptKind
  name : String
  label : String
  options : Option (List String) := none
  default : Value := .null
  required : Bool := false
  columns : Option (List String) := none
  suffix : Option String := none
  pageSize : Option Int := none
deriving Inhabited

namespace Descriptor

/-- The default offered for a question, given the answer stored for it (null when absent). -/
def build (q : Question) (existing : Value) : Descriptor :=
  let dflt := match existing with
    | .null => q.default
    | v => v
  let options := q.options.getD []
  let base : Descriptor := { kind := .text, name := q.id, label := q.label, required := q.required }
  let confirmDefault : Value := match dflt with
    | .bool b => .bool b
    | _ => .bool false
  let selected : List String := match dflt with
    | .arr items => items.map Value.text
    | _ => []
  let chipsDefault : Value := match dflt with
    | .arr items => .str (", ".intercalate (items.map Value.text))
    | v => v
  let tableDefault : Value := match dflt with
    | .null => .arr []
    | v => v
  let columns : Option (List String) := match q.columns with
    | some (c :: cs) => some (c :: cs)
    | _ => none
  match q.kind with
  | .boolean => { base with kind := .confirm, default := confirmDefault }
  | .select => { base with kind := .select, options := some options, default := dflt }
  | .multiselect =>
    let offered := Value.ofStrings (selected.filter options.contains)
    let rows := max 5 (min 12 (if options.isEmpty then 5 else options.length))
    { base with kind := .checkbox, options := some options, pageSize := some rows,
                default := offered }
  | .chips => { base with default := chipsDefault, suffix := some " (comma-separated)" }
  | .table =>
    { base with kind := .editor, columns := columns,
                default := .str (Json.render .prettyAscii tableDefault) }
  | .text | .textarea => { base with default := dflt }

/-- The prompt for the next attempt at a question, given the answers so far. -/
def forQuestion (q : Question) (answers : Value) : Except Fault Descriptor :=
  (answers.lookup q.id).map fun existing => build q (existing.getD .null)

/-- The record of a descriptor. -/
def toValue (d : Descriptor) : Value :=
  let optTexts (o : Option (List String)) : Value := (o.map Value.ofStrings).getD .null
  .obj [("kind", .str d.kind.name), ("name", .str d.name), ("label", .str d.label),
    ("options", optTexts d.options), ("default", d.default), ("required", .bool d.required),
    ("columns", optTexts d.columns), ("suffix", (d.suffix.map .str).getD .null),
    ("page_size", (d.pageSize.map .int).getD .null)]

/-- The lenient reading of an optional integer. -/
def readOptInt (fs : List (String × Value)) (name : String) : Checked (Option Int) :=
  match Value.fieldGet? fs name with
  | none | some .null => .ok none
  | some v =>
    match Field.int v with
    | .ok n => .ok (some n)
    | .error k => .fail name k

/-- Reads a descriptor record. A kind name that is not one of the five prompts is a text
prompt. -/
def ofValue (v : Value) : Except RecordError Descriptor :=
  match v with
  | .obj fs =>
    let read := (Field.text fs "kind").and (Field.text fs "name") |>.and (Field.text fs "label")
      |>.and (Field.optTexts fs "options") |>.and (Field.flagOr fs "required" false)
      |>.and (Field.optTexts fs "columns") |>.and (Field.optText fs "suffix")
      |>.and (readOptInt fs "page_size")
    let kindOf (s : String) : PromptKind := match s with
      | "confirm" => .confirm
      | "select" => .select
      | "checkbox" => .checkbox
      | "editor" => .editor
      | _ => .text
    (read.map fun (((((((k, n), l), o), r), c), s), p) =>
      Descriptor.mk (kindOf k) n l o (Field.any fs "default") r c s p).toExcept "PromptDescriptor"
  | _ => .error ⟨"PromptDescriptor", [⟨[], .modelType⟩]⟩

end Descriptor

end Questionnaire

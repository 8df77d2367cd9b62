import Questionnaire.Record
/-!
# Validation issues and the questions they point to

A validation issue names a location in the answers as a JSON pointer (`/screens/0/name`), a
message, and for a missing member the name of that member. Reconciliation maps each issue back
to the questions that can repair it, by their ids (dotted paths such as `screens`):

1. the ids equal to the issue's location in dotted form, or a dot-prefix of it (the issue lies
   inside that question's answer), in questionnaire order;
2. only when there is none and the issue names a missing member: the first question whose id is
   the location followed by that member.

An issue that no question matches is reported but never re-asked.
-/

namespace Questionnaire

/-- A validation issue. -/
structure Issue where
  path : String := ""
  message : String
  missingProperty : Option String := none
  keyword : Option String := none
deriving Inhabited

namespace Issue

/-- Reads an issue record. -/
def ofValue (v : Value) : Except RecordError Issue :=
  match v with
  | .obj fs =>
    let read := (Field.textOr fs "path" "").and (Field.text fs "message")
      |>.and (Field.optText fs "missing_property") |>.and (Field.optText fs "keyword")
    (read.map fun (((p, m), mp), k) => (Issue.mk p m mp k)).toExcept "SchemaIssue"
  | _ => .error ⟨"SchemaIssue", [⟨[], .modelType⟩]⟩

/-- A pointer in dotted form: one leading `/` dropped, every other `/` made a dot. -/
def dottedPath (path : String) : String :=
  let cs := match path.toList with
    | '/' :: rest => rest
    | cs => cs
  String.ofList (cs.map fun c => if c = '/' then '.' else c)

/-- The line that shows an issue: the location without leading slashes and with dots, or
`(root)`, then the message. -/
def describe (i : Issue) : String :=
  let loc := String.ofList ((i.path.toList.dropWhile (· = '/')).map fun c =>
    if c = '/' then '.' else c)
  (if loc.isEmpty then "(root)" else loc) ++ " " ++ i.message

/-- Whether the question id covers the dotted location: equal to it, or a dot-prefix of it. -/
def covers (target id : String) : Bool :=
  id == target || (id ++ ".").isPrefixOf target

/-- The ids of the questions that can repair the issue, in questionnaire order. -/
def matchIds (i : Issue) (ids : List String) : List String :=
  let target := dottedPath i.path
  let direct := ids.filter (covers target)
  if !direct.isEmpty then direct
  else match i.missingProperty with
    | none => []
    | some "" => []
    | some prop =>
      let guess := if target.isEmpty then prop else target ++ "." ++ prop
      (ids.filter (· == guess)).take 1

end Issue

/-- Appends the items of `xs` that `seen` does not hold yet, keeping first occurrences. -/
def appendNew (seen : List String) : List String → List String
  | [] => seen
  | x :: rest => if seen.contains x then appendNew seen rest else appendNew (seen ++ [x]) rest

/-- The ids of the failing questions, each once, in the order first met. -/
def reconcile (issues : List Issue) (ids : List String) : List String :=
  issues.foldl (fun acc i => appendNew acc (i.matchIds ids)) []

/-- The issues that no question can repair. -/
def unreconciled (issues : List Issue) (ids : List String) : List Issue :=
  issues.filter fun i => (i.matchIds ids).isEmpty

end Questionnaire

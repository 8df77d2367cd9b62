import Questionnaire.Schema.Meta
import Questionnaire.Issue
import Questionnaire.Log
/-!
# Checking schemas and answers

`checkSchema` accepts a schema that passes the metaschema and otherwise reports the most relevant
failure. `issues` lists the failures of an answers document as issues: the location as a JSON
pointer, the message, the keyword, and for a `required` failure the missing property. Issues are
sorted by location, then message.

The most relevant failure is chosen as the reference validator does. Among all failures it takes
the one with the greatest relevance key: a shorter location first (more is wrong higher up), then
the greater location, then a keyword other than `anyOf`/`oneOf`, then an instance that does not
have the type its schema asks for; the first of equals wins. From a failure with alternatives it
then descends to the least relevant alternative failure (the deepest, since only one alternative
has to hold), unless the two least relevant ones are equally relevant.
-/

namespace Questionnaire.Schema

/-- Compares locations step by step; a location before its extensions. -/
def comparePaths : List Part → List Part → Ordering
  | [], [] => .eq
  | [], _ :: _ => .lt
  | _ :: _, [] => .gt
  | a :: as, b :: bs =>
    if a.lt b then .lt else if b.lt a then .gt else comparePaths as bs

/-- Compares two failures by relevance. -/
def compareRelevance (f g : Failure) : Ordering :=
  let weak (k : Option String) : Bool := k == some "anyOf" || k == some "oneOf"
  (compare g.path.length f.path.length).then <|
  (comparePaths f.path g.path).then <|
  (compare (!weak f.keyword) (!weak g.keyword)).then <|
  compare (!f.matchesType) (!g.matchesType)

/-- The first most relevant of some failures. -/
def mostRelevant (f : Failure) (rest : List Failure) : Failure :=
  rest.foldl (fun best g => if compareRelevance g best == .gt then g else best) f

/-- The first least relevant of some failures, with the failures after taking it out. -/
def leastRelevant (f : Failure) (rest : List Failure) : Failure × List Failure :=
  let least := rest.foldl (fun best g => if compareRelevance g best == .lt then g else best) f
  let rec without : List Failure → List Failure
    | [] => []
    | g :: gs => if compareRelevance g least == .eq then gs else g :: without gs
  (least, without (f :: rest))

/-- Descends from a failure into its alternatives while a single least relevant one stands
out. Each step goes one level down the finite tree of failures. -/
def settle : Nat → Failure → Failure
  | 0, f => f
  | fuel + 1, f =>
    match f.context with
    | [] => f
    | c :: cs =>
      let (least, others) := leastRelevant c cs
      match others with
      | [] => settle fuel least
      | o :: os =>
        let (second, _) := leastRelevant o os
        if compareRelevance least second == .eq then f else settle fuel least

/-- The most relevant of some failures. -/
def bestMatch : List Failure → Option Failure
  | [] => none
  | f :: rest => some (settle 1000 (mostRelevant f rest))

/-- Checks a schema against the metaschema: the message of the most relevant failure. -/
def checkSchema (schema : Value) : Except String Unit :=
  match Evaluator.failures Meta.env Meta.top schema with
  | .ok fs =>
    match bestMatch fs with
    | none => .ok ()
    | some f => .error f.message
  | .error e => .error e

/-- A character of a step as it stands in a JSON pointer: `~` written `~0` and `/` written `~1`. -/
def pointerEscape (c : Char) : List Char :=
  if c = '~' then ['~', '0'] else if c = '/' then ['~', '1'] else [c]

/-- A location as a JSON pointer: each step as `/` and its text, escaped. -/
def pointer (path : List Part) : String :=
  String.ofList (path.flatMap fun p => '/' :: p.text.toList.flatMap pointerEscape)

/-- A failure as an issue. -/
def Failure.toIssue (f : Failure) : Issue :=
  { path := pointer f.path, message := f.message, missingProperty := f.missing,
    keyword := f.keyword }

/-- Sorts issues by location, then message, keeping the order of equal ones. -/
def sortIssues (is : List Issue) : List Issue :=
  is.mergeSort fun a b => decide (a.path < b.path) || (a.path == b.path && decide (a.message ≤ b.message))

/-- The issues of an answers document under a schema that passed the metaschema; a reference
that cannot be resolved is an error. -/
def issues (schema answers : Value) : Except String (List Issue) :=
  (Evaluator.failures {} schema answers).map fun fs => sortIssues (fs.map Failure.toIssue)

/-- The log record of a check that found issues. -/
def issuesRecord (is : List Issue) : List LogRecord :=
  if is.isEmpty then []
  else [⟨.debug, .validation, "schema_issues count=" ++ toString is.length ++ " paths=" ++
    listLiteral (is.map (·.path))⟩]

end Questionnaire.Schema

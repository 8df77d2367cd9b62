import Questionnaire.Store
import Questionnaire.Question
import Questionnaire.Json.Reader
import Questionnaire.Yaml.Document
import Questionnaire.Log
/-!
# Loading questionnaires and schemas

A questionnaire or schema document is read from a file: a path whose suffix is `.yaml` or `.yml`
(in any case) holds YAML, any other path JSON. A file that cannot be read (missing, a directory,
not UTF-8) and a text that does not parse are definition errors naming the path as it prints.

A questionnaire is then read by `parseQuestionnaire`; a schema must be an object.
-/

namespace Questionnaire.Load

/-- Whether a path names a YAML document. -/
def isYamlPath (p : String) : Bool :=
  let s := (Store.suffix p).toLower
  s == ".yaml" || s == ".yml"

/-- The words of a failure to read a path. -/
def ReadFailure.reason (f : ReadFailure) (path : String) : String :=
  match f with
  | .notFound => "[Errno 2] No such file or directory: " ++ quoteText path
  | .isDirectory => "[Errno 21] Is a directory: " ++ quoteText path
  | .notDirectory => "[Errno 20] Not a directory: " ++ quoteText path
  | .notUtf8 why => why

/-- Reads the document a path holds. -/
def readDocument (store : Store) (path : String) : Except DefinitionError Value :=
  let name := Store.normalize path
  match store.readText path with
  | .error f => .error (.unreadable name (ReadFailure.reason f name))
  | .ok text =>
    if isYamlPath path then
      match Yaml.load text with
      | .ok v => .ok v
      | .error e => .error (.unparsable name e)
    else
      match Json.read text with
      | .ok v => .ok v
      | .error e => .error (.unparsable name (e.message text))

/-- Loads the questions of a questionnaire file, with the record of the load. -/
def questions (store : Store) (path : String) :
    Except DefinitionError (List Question × List LogRecord) := do
  let qs ← parseQuestionnaire (← readDocument store path)
  return (qs, [⟨.info, .loading, "questionnaire_loaded path=" ++ path ++ " count=" ++
    toString qs.length⟩])

/-- Loads a schema file: its document must be an object. -/
def schema (store : Store) (path : String) : Except DefinitionError Value := do
  match ← readDocument store path with
  | .obj fs => return .obj fs
  | _ => throw (.schemaNotObject path)

end Questionnaire.Load

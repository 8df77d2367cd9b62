import Questionnaire.Store
import Questionnaire.Record
import Questionnaire.Log
import Questionnaire.Json.Reader
import Questionnaire.Text.Blank
import Questionnaire.Text.Case
import Questionnaire.Value.Literal
import Questionnaire.Bundled
/-!
# Settings

A run is configured by five settings: the questionnaire file, the schema file, the number of
repair passes, the output directory and the log level. Each is taken from the first source that
gives a non-empty text:

1. an environment variable (`PROMPT_FACTORY_QUESTIONNAIRE`, …);
2. a one-line file under `config/` (`config/questionnaire.path`, …), stripped of blanks; a file
   that cannot be read is skipped with a warning (it is only read when the variable gives
   nothing);
3. a member of the JSON document `prompt_factory.json` (`sources.questionnaire_path`, …), as
   text; a document that cannot be read counts as empty, with an error record;
4. the built-in default: the bundled files under the data directory, 3 passes, `out`, `WARNING`.

For the output directory, the number of passes and the log level, a member of the document that
is an empty text is taken as it is rather than skipped.

The texts are then checked in three groups, the first failing group being reported: both paths
must be non-blank; the number of passes must be an integer above zero; the log level must name
one of the five levels, in any case.
-/

namespace Questionnaire

/-- The settings of a run. -/
structure Settings where
  questionnairePath : String
  schemaPath : String
  maxFixPasses : Nat
  outDir : String
  logLevel : Level

/-- What a run sees around it: its environment variables and its working directory. -/
structure Surroundings where
  env : List (String × String) := []
  store : Store := {}

namespace Settings

/-- The text of an override file under `config/`, stripped, with the warning of a file that
cannot be read. -/
def override (store : Store) (name : String) : Option String × List LogRecord :=
  let path := "config/" ++ name
  match store.readText path with
  | .ok text => (some (Text.strip text), [])
  | .error .notFound | .error .notDirectory => (none, [])
  | .error .isDirectory =>
    (none, [⟨.warning, .configuration, "Failed to read override " ++ path ++
      ": [Errno 21] Is a directory: " ++ quoteText path⟩])
  | .error (.notUtf8 why) =>
    (none, [⟨.warning, .configuration, "Failed to read override " ++ path ++ ": " ++ why⟩])

/-- The name of the settings document. -/
def documentName : String := "prompt_factory.json"

/-- The settings document: empty when it is missing, with an error record when it cannot be
read or parsed. -/
def document (store : Store) : Value × List LogRecord :=
  let fail (why : String) : Value × List LogRecord :=
    (.obj [], [⟨.error, .configuration, "Failed to read JSON config " ++ documentName ++ ": " ++ why⟩])
  match store.readText documentName with
  | .error .notFound | .error .notDirectory => (.obj [], [])
  | .error .isDirectory => fail ("[Errno 21] Is a directory: " ++ quoteText documentName)
  | .error (.notUtf8 why) => fail why
  | .ok text =>
    match Json.read text with
    | .ok v => (v, [])
    | .error e => fail (e.message text)

/-- The member of the document at a dotted path, as text: nothing when a step is missing or does
not lead into an object, or the member is null. -/
def member (doc : Value) : List String → Option String
  | [] => match doc with
    | .null => none
    | v => some v.text
  | k :: rest => match doc with
    | .obj fs => (Value.fieldGet? fs k).bind fun v => member v rest
    | _ => none

/-- The first text given that is not empty. -/
def firstGiven : List (Option String) → Option String
  | [] => none
  | some t :: rest => if t.isEmpty then firstGiven rest else some t
  | none :: rest => firstGiven rest

/-- Where a setting is looked up: its environment variable (after `PROMPT_FACTORY_`), its
override file under `config/`, its member of the settings document, and its default. -/
structure Source where
  key : String
  file : String
  path : List String
  dflt : String

/-- The sources of the questionnaire file. -/
def questionnaireSource : Source :=
  ⟨"QUESTIONNAIRE", "questionnaire.path", ["sources", "questionnaire_path"],
    Bundled.dataDir ++ "/questionnaire.json"⟩

/-- The sources of the schema file. -/
def schemaSource : Source :=
  ⟨"SCHEMA", "schema.path", ["sources", "schema_path"], Bundled.dataDir ++ "/schema.json"⟩

/-- The sources of the output directory. -/
def outDirSource : Source := ⟨"OUT_DIR", "out.dir", ["output", "out_dir"], "out"⟩

/-- The sources of the number of repair passes. -/
def passesSource : Source :=
  ⟨"MAX_FIX_PASSES", "repair.max_fix_passes", ["repair", "max_fix_passes"], "3"⟩

/-- The sources of the log level. -/
def levelSource : Source := ⟨"LOG_LEVEL", "log.level", ["log_level"], "WARNING"⟩

namespace Source

/-- The value of a setting's environment variable, as it is set. -/
def fromEnv (s : Surroundings) (src : Source) : Option String :=
  s.env.lookup ("PROMPT_FACTORY_" ++ src.key)

/-- The text of a setting's override file, with its warning; the file is only read when the
variable gives nothing. -/
def fromFile (s : Surroundings) (src : Source) : Option String × List LogRecord :=
  match src.fromEnv s with
  | some t => if t.isEmpty then override s.store src.file else (none, [])
  | none => override s.store src.file

/-- The text of a setting: the first non-empty text of its variable, its override file and its
member of the document, or else its default. -/
def text (s : Surroundings) (doc : Value) (src : Source) : String :=
  (firstGiven [src.fromEnv s, (src.fromFile s).1, member doc src.path]).getD src.dflt

/-- The text of a setting that takes its member of the document even when it is empty: the first
non-empty text of its variable and its override file, or else its member, or else its default. -/
def textOrMember (s : Surroundings) (doc : Value) (src : Source) : String :=
  match firstGiven [src.fromEnv s, (src.fromFile s).1] with
  | some t => t
  | none => (member doc src.path).getD src.dflt

end Source

/-! ## Checking the texts -/

/-- Reads the number of repair passes: an integer above zero. -/
def readPasses (text : String) : Except FieldErrorKind Nat :=
  match Field.intOfText text with
  | .error k => .error k
  | .ok n => if n > 0 then .ok n.toNat else .error .greaterThan

/-- Reads a log level name, in any case and with blanks around it. -/
def readLevel (text : String) : Option Level :=
  match Text.upperForMatch (Text.strip text) with
  | "DEBUG" => some .debug
  | "INFO" => some .info
  | "WARNING" => some .warning
  | "ERROR" => some .error
  | "CRITICAL" => some .critical
  | _ => none

/-- The representation of an input value in a report, shortened in the middle past 50
characters. -/
def shownInput (repr : String) : String :=
  let cs := repr.toList
  if cs.length > 50 then String.ofList (cs.take 25) ++ "..." ++ String.ofList (cs.drop (cs.length - 24))
  else repr

/-- One failure of a full report: the field, the words, the code, and the input shown with its
type. -/
def reportEntry (field message code input inputType : String) : String :=
  field ++ "\n  " ++ message ++ " [type=" ++ code ++ ", input_value=" ++ shownInput input ++
    ", input_type=" ++ inputType ++ "]\n    For further information visit " ++
    "https://errors.pydantic.dev/2.14/v/" ++ code

/-- The full text of a report: the summary line, then each failure. -/
def reportText (e : RecordError) (entries : List String) : String :=
  "\n".intercalate (e.summary :: entries)

/-- Reads the settings; the records are those of reading the sources and, on failure, of the
failure. -/
def load (s : Surroundings) : Except RecordError Settings × List LogRecord :=
  let (doc, docLog) := document s.store
  let log := docLog ++ (questionnaireSource.fromFile s).2 ++ (schemaSource.fromFile s).2 ++
    (outDirSource.fromFile s).2 ++ (passesSource.fromFile s).2 ++ (levelSource.fromFile s).2
  let questionnaire := questionnaireSource.text s doc
  let schema := schemaSource.text s doc
  let outDir := outDirSource.textOrMember s doc
  let passes := passesSource.textOrMember s doc
  let level := levelSource.textOrMember s doc
  let failed (e : RecordError) (entries : List String) : Except RecordError Settings × List LogRecord :=
    (.error e, log ++ [⟨.error, .configuration,
      "Invalid application configuration: " ++ reportText e entries⟩])
  let qPath := Store.normalize questionnaire
  let sPath := Store.normalize schema
  let blank (p : String) : Bool := (Text.strip p).isEmpty
  let pathEntry (field p : String) : String :=
    reportEntry field "Value error, source paths must be non-empty" "value_error"
      ("PosixPath(" ++ quoteText p ++ ")") "PosixPath"
  let sourceErrors :=
    (if blank qPath then [(⟨["questionnaire_path"], .valueError⟩, pathEntry "questionnaire_path" qPath)]
     else []) ++
    (if blank sPath then [(⟨["schema_path"], .valueError⟩, pathEntry "schema_path" sPath)] else [])
  if !sourceErrors.isEmpty then
    failed ⟨"SourcesConfig", sourceErrors.map (·.1)⟩ (sourceErrors.map (·.2))
  else
    let passesText := Text.strip passes
    match readPasses passesText with
    | .error kind =>
      let (message, code) := match kind with
        | .greaterThan => ("Input should be greater than 0", "greater_than")
        | .intParsingSize =>
          ("Unable to parse input string as an integer, exceeded maximum size", "int_parsing_size")
        | _ => ("Input should be a valid integer, unable to parse string as an integer",
          "int_parsing")
      failed ⟨"RepairConfig", [⟨["max_fix_passes"], kind⟩]⟩
        [reportEntry "max_fix_passes" message code (quoteText passesText) "str"]
    | .ok n =>
      match readLevel level with
      | none =>
        failed ⟨"AppConfig", [⟨["log_level"], .valueError⟩]⟩
          [reportEntry "log_level"
            "Value error, log_level must be one of ['CRITICAL', 'DEBUG', 'ERROR', 'INFO', 'WARNING']"
            "value_error" (quoteText level) "str"]
      | some lv =>
        (.ok { questionnairePath := qPath, schemaPath := sPath, maxFixPasses := n,
               outDir := Store.normalize outDir, logLevel := lv }, log)

/-- The record of the settings. -/
def toValue (c : Settings) : Value :=
  .obj [("questionnaire_path", .str c.questionnairePath), ("schema_path", .str c.schemaPath),
    ("max_fix_passes", .int c.maxFixPasses), ("out_dir", .str c.outDir),
    ("log_level", .str c.logLevel.name)]

end Settings

end Questionnaire

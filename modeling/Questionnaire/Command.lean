import Questionnaire.Settings
import Questionnaire.Logging
import Questionnaire.Load
import Questionnaire.Prompt
import Questionnaire.Validation
import Questionnaire.Session.Repair
import Questionnaire.Console.Terminal
/-!
# The command line

The program is run as `prompt-factory [-v | -q] COMMAND ...` with three commands:

* `ask [--questionnaire P] [--schema P] [--out DIR]` asks the questionnaire on the console,
  repairs the answers until they pass the schema (or the repair passes run out), and writes
  `DIR/answers.json` and `DIR/prompt.txt`;
* `validate [FILE] [--schema P]` checks a saved answers file (by default `out/answers.json`)
  against the schema;
* `render FILE [--out P]` writes the prompt for a saved answers file (by default to
  `out/prompt_from_answers.txt`).

Before any command the settings are read, and the log level is set: `DEBUG` with `-v`, `ERROR`
with `-q`, and the configured level otherwise. Until then, warnings are written bare to the error
stream; from then on records at or above the level are written as `time LEVEL:channel:text`.

Success and warning lines go to the output stream, error lines (`✗ ...`) to the error stream. A
definition or file error ends the run with status 2, answers that do not validate with status 1,
and the end of the input with `Aborted.` and status 1. A wrong command line prints its usage and
the error in a box, with status 2.
-/

namespace Questionnaire.Command

open Console

/-- The options before the command name. -/
structure Flags where
  verbose : Bool := false
  quiet : Bool := false

/-- A command with its arguments. -/
inductive Subcommand where
  | ask (questionnaire schema out : Option String)
  | validate (answers : String) (schema : Option String)
  | render (answers : String) (out : String)

/-- What a run of the program is given. -/
structure Invocation where
  args : List String
  input : String := ""
  env : List (String × String) := []
  store : Store := {}
  editor : List EditorStep := []

/-- The state of a run: the working directory, the console (input, output stream, editor), the
error stream and, once configured, the root logger. -/
structure Run where
  store : Store
  terminal : Terminal
  errors : String := ""
  logger : Option RootLogger := none

/-- How a run ends: its exit status, and the name of the failure that stopped it, if one did. -/
structure Exit where
  code : Nat
  failure : Option String

/-- A step of a run. -/
abbrev Cli := EStateM Exit Run

/-- The time in front of log lines. -/
def timeStamp : String := "<TIME>"

/-- The name the program is run by in its usage lines. -/
def programName : String := "root"

/-! ## Output -/

/-- Ends the run with a status. -/
def exit (code : Nat) : Cli α :=
  throw ⟨code, none⟩

/-- Ends the run with an uncaught failure. -/
def crash (name : String) : Cli α :=
  throw ⟨1, some name⟩

/-- Writes log records to the error stream. -/
def emit (records : List LogRecord) : Cli Unit :=
  modify fun r =>
    let text := String.join (records.map fun rec => match r.logger with
      | some l => l.lines timeStamp rec
      | none => bareLine rec)
    { r with errors := r.errors ++ text }

/-- The text shown for printed markup; markup that does not render stops the run. -/
def shownMarkup (markup : String) : Cli String :=
  match render markup with
  | .ok text => pure (shown consoleWidth text "\n")
  | .error _ => crash "MarkupError"

/-- Prints markup on the output stream. -/
def out (markup : String) : Cli Unit := do
  let text ← shownMarkup markup
  modify fun r => { r with terminal := { r.terminal with output := r.terminal.output ++ text } }

/-- Prints plain text on the output stream. -/
def outPlain (text : String) : Cli Unit :=
  modify fun r => { r with terminal := r.terminal.print text "\n" }

/-- Prints markup on the error stream. -/
def errOut (markup : String) : Cli Unit := do
  let text ← shownMarkup markup
  modify fun r => { r with errors := r.errors ++ text }

/-- A success line. -/
def printOk (msg : String) : Cli Unit := out ("[green]✓[/green] " ++ msg)

/-- An error line. -/
def printErr (msg : String) : Cli Unit := errOut ("[red]✗[/red] " ++ msg)

/-- A warning line. -/
def printWarn (msg : String) : Cli Unit := out ("[yellow]![/yellow] " ++ msg)

/-- Prints issues, one line each, as plain text. -/
def printIssues (issues : List Issue) : Cli Unit := do
  for i in issues do outPlain (" - " ++ i.describe)

/-! ## Usage errors -/

/-- The lines of a box of `width` cells titled `Error` around a message. -/
def errorBox (width : Nat) (message : String) : String :=
  let inner := width - 4
  let top := "╭─ Error " ++ String.ofList (List.replicate (width - 10) '─') ++ "╮"
  let body := (layout inner message).map fun line =>
    "│ " ++ line ++ String.ofList (List.replicate (inner - Text.cellLength line) ' ') ++ " │"
  let bottom := "╰" ++ String.ofList (List.replicate (width - 2) '─') ++ "╯"
  "\n".intercalate (top :: body ++ [bottom]) ++ "\n"

/-- Ends the run on a wrong command line: the usage, where to find help, and the message. -/
def usageError (command : Option String) (message : String) : Cli α := do
  let (usage, path) := match command with
    | none => (programName ++ " [OPTIONS] COMMAND [ARGS]...", programName)
    | some "ask" => (programName ++ " ask [OPTIONS]", programName ++ " ask")
    | some "validate" => (programName ++ " validate [OPTIONS] [ANSWERS]", programName ++ " validate")
    | some c => (programName ++ " " ++ c ++ " [OPTIONS] ANSWERS", programName ++ " " ++ c)
  let text := shown consoleWidth ("Usage: " ++ usage) "\n" ++
    shown consoleWidth ("Try '" ++ path ++ " --help' for help.") "\n" ++ errorBox consoleWidth message
  modify fun r => { r with errors := r.errors ++ text }
  exit 2

/-! ## Reading the command line -/

/-- Reads the flags before the command name; the rest of the arguments. -/
def readFlags : List String → Flags → Except String (Flags × List String)
  | [], f => .ok (f, [])
  | a :: rest, f =>
    if a == "-v" || a == "--verbose" then readFlags rest { f with verbose := true }
    else if a == "-q" || a == "--quiet" then readFlags rest { f with quiet := true }
    else if a.startsWith "--" then .error ("No such option: " ++ a)
    else if a.startsWith "-" && a.length > 1 then
      let letters := (a.drop 1).toString.toList
      if letters.all fun c => c == 'v' || c == 'q' then
        let f' : Flags := ⟨f.verbose || letters.contains 'v', f.quiet || letters.contains 'q'⟩
        readFlags rest f'
      else
        match letters.find? fun c => c != 'v' && c != 'q' with
        | some c => .error ("No such option: -" ++ c.toString)
        | none => .error ("No such option: " ++ a)
    else .ok (f, a :: rest)

/-- Reads the options and positional arguments of a command: the values of the named options
(the last one given wins) and the positional arguments in order. Each step reads at least one
argument, so `fuel` above the number of arguments suffices. -/
def readArguments (names : List String) : Nat →
    List String → List (String × String) → List String → Except String (List (String × String) × List String)
  | 0, _, opts, pos => .ok (opts, pos.reverse)
  | _, [], opts, pos => .ok (opts, pos.reverse)
  | fuel + 1, a :: rest, opts, pos =>
    if a == "--" then .ok (opts, pos.reverse ++ rest)
    else if a.startsWith "--" then
      let (name, inline) := match a.splitOn "=" with
        | n :: v :: more => (n, some ("=".intercalate (v :: more)))
        | _ => (a, none)
      if !names.contains name then .error ("No such option: " ++ name)
      else
        match inline, rest with
        | some v, _ => readArguments names fuel rest ((name, v) :: opts) pos
        | none, v :: more => readArguments names fuel more ((name, v) :: opts) pos
        | none, [] => .error ("Option '" ++ name ++ "' requires an argument.")
    else if a.startsWith "-" && a.length > 1 then .error ("No such option: " ++ a)
    else readArguments names fuel rest opts (a :: pos)

/-- The value of an option. -/
def optionValue (opts : List (String × String)) (name : String) : Option String :=
  opts.lookup name

/-- The message of unexpected positional arguments. -/
def extraArguments (extra : List String) : String :=
  (if extra.length == 1 then "Got unexpected extra argument (" else
    "Got unexpected extra arguments (") ++ " ".intercalate extra ++ ")"

/-- Reads a command and its arguments. -/
def readCommand (name : String) (args : List String) : Except String Subcommand :=
  match name with
  | "ask" => do
    let (opts, pos) ← readArguments ["--questionnaire", "--schema", "--out"] (args.length + 1) args [] []
    if !pos.isEmpty then throw (extraArguments pos)
    return .ask (optionValue opts "--questionnaire") (optionValue opts "--schema")
      (optionValue opts "--out")
  | "validate" => do
    let (opts, pos) ← readArguments ["--schema"] (args.length + 1) args [] []
    match pos with
    | [] => return .validate "out/answers.json" (optionValue opts "--schema")
    | [f] => return .validate f (optionValue opts "--schema")
    | _ :: extra => throw (extraArguments extra)
  | _ => do
    let (opts, pos) ← readArguments ["--out"] (args.length + 1) args [] []
    match pos with
    | [] => throw "Missing argument 'ANSWERS'."
    | [f] => return .render f ((optionValue opts "--out").getD "out/prompt_from_answers.txt")
    | _ :: extra => throw (extraArguments extra)

/-! ## The commands -/

/-- Reads a JSON file the way the commands do: the value, or the words of the failure. -/
def readJson (store : Store) (path : String) : Except String Value :=
  match store.readText path with
  | .error f => .error (Load.ReadFailure.reason f (Store.normalize path))
  | .ok text =>
    match Json.read text with
    | .ok v => .ok v
    | .error e => .error (e.message text)

/-- Writes a text file and gives its path as it prints; a path that cannot be written ends the run
with an uncaught failure. -/
def writeFile (path content : String) : Cli String := do
  match (← get).store.write path content with
  | .error f => crash f.name
  | .ok store =>
    modify fun r => { r with store := store }
    return Store.normalize path

/-- A path inside a directory. -/
def within (dir name : String) : String :=
  Store.normalize (dir ++ "/" ++ name)

/-- The failure name of a session halt, and the lines it leaves on the error stream. -/
def halted (h : Halt) : Cli α := do
  match h with
  | .endOfInput =>
    modify fun r => { r with errors := r.errors ++ "\nAborted.\n" }
    exit 1
  | .editorFailed =>
    modify fun r => { r with errors := r.errors ++ "Error: Editing failed\n" }
    exit 1
  | .fault f =>
    crash (match f with
      | .notAnInteger _ => "ValueError"
      | .indexOutOfRange _ _ => "IndexError"
      | .notAssignable => "TypeError"
      | .noMembers => "AttributeError"
      | .notIterable => "TypeError"
      | .notText => "TypeError"
      | .notTextValue => "AttributeError"
      | .notComparable => "TypeError"
      | .unknownLevel _ => "ValueError")
  | .limitNotPositive => crash "ValueError"
  | .noScriptedAnswer _ | .scriptExhausted _ | .outOfSteps => crash "RecursionError"

/-- Loads the schema of a command and its validator; a definition error ends the run. -/
def loadValidator (path : String) : Cli (Value × Validator) := do
  match Load.schema (← get).store path with
  | .error e =>
    printErr e.message
    exit 2
  | .ok schema =>
    match Validator.ofSchema schema with
    | .error m =>
      printErr m
      exit 2
    | .ok v => return (schema, v)

/-- Asks the questionnaire and writes the answers and the prompt. -/
def ask (cfg : Settings) (questionnaire schema outDir : Option String) : Cli Unit := do
  let qPath := Store.normalize (questionnaire.getD cfg.questionnairePath)
  let qs ← match Load.questions (← get).store qPath with
    | .error e => do
      printErr e.message
      exit 2
    | .ok (qs, records) => do
      emit records
      pure qs
  let (_, validator) ← loadValidator (Store.normalize (schema.getD cfg.schemaPath))
  out "\n[bright_cyan]▶ Prompt Factory: UI Builder[/bright_cyan]\n"
  let r ← get
  let session : Session Terminal := { answers := .obj [], respondent := r.terminal }
  match EStateM.run (Step.run Terminal.respondent qs validator (.int cfg.maxFixPasses)) session with
  | .error h s =>
    set { r with terminal := s.respondent }
    emit s.log.toList
    halted h
  | .ok outcome s =>
    set { r with terminal := s.respondent }
    emit s.log.toList
    emit [⟨.info, .command, "ask_finished status=" ++ outcome.status.name ++ " passes=" ++
      toString outcome.passes⟩]
    if outcome.status != .done then
      printErr "Could not validate after multiple passes. Please review the errors below."
      printIssues outcome.issues
      exit 1
    let dir := outDir.getD cfg.outDir
    let answersPath ← writeFile (within dir "answers.json") (Json.render .pretty outcome.answers)
    let promptPath ← writeFile (within dir "prompt.txt") (Prompt.build outcome.answers)
    printOk ("Answers saved to " ++ answersPath)
    printOk ("Prompt saved to " ++ promptPath)
    printWarn "Next: paste the prompt into your assistant of choice, or send it via API."

/-- Validates a saved answers file. -/
def validate (cfg : Settings) (answers : String) (schema : Option String) : Cli Unit := do
  let (schemaDoc, _) ← loadValidator (Store.normalize (schema.getD cfg.schemaPath))
  match readJson (← get).store answers with
  | .error why =>
    printErr why
    exit 2
  | .ok data =>
    match Schema.issues schemaDoc data with
    | .error _ => crash "Unresolvable"
    | .ok issues =>
      emit (Schema.issuesRecord issues)
      if issues.isEmpty then printOk "Valid"
      else
        printErr "Invalid"
        printIssues issues
        exit 1

/-- Writes the prompt of a saved answers file. -/
def renderPrompt (answers outPath : String) : Cli Unit := do
  match readJson (← get).store answers with
  | .error why =>
    printErr why
    exit 2
  | .ok data =>
    let path ← writeFile outPath (Prompt.build data)
    printOk ("Prompt written to " ++ path)

/-- A whole run of the program. -/
def main (inv : Invocation) : Cli Unit := do
  let (flags, rest) ← match readFlags inv.args {} with
    | .ok r => pure r
    | .error m => usageError none m
  let (name, args) ← match rest with
    | [] => usageError none "Missing command."
    | n :: args =>
      if n == "ask" || n == "validate" || n == "render" then pure (n, args)
      else usageError none ("No such command '" ++ n ++ "'.")
  let (settings, records) := Settings.load { env := inv.env, store := (← get).store }
  emit records
  let cfg ← match settings with
    | .ok c => pure c
    | .error _ => crash "ValidationError"
  let level := if flags.verbose then "DEBUG" else if flags.quiet then "ERROR" else cfg.logLevel.name
  match ({} : RootLogger).configure (some level) with
  | .ok l => modify fun r => { r with logger := some l }
  | .error _ => crash "ValueError"
  let command ← match readCommand name args with
    | .ok c => pure c
    | .error m => usageError (some name) m
  match command with
  | .ask q s o => ask cfg q s o
  | .validate a s => validate cfg a s
  | .render a o => renderPrompt a o

/-- What a run shows: its exit status, the failure that stopped it, the output and error
streams, the working directory after it and the texts the editor was opened on. -/
structure Outcome where
  code : Nat
  failure : Option String
  output : String
  errors : String
  store : Store
  editorSeen : List String

/-- Runs the program. -/
def run (inv : Invocation) : Outcome :=
  let start : Run := { store := inv.store, terminal := Terminal.reading inv.input inv.editor }
  let finish (e : Exit) (r : Run) : Outcome :=
    ⟨e.code, e.failure, r.terminal.output, r.errors, r.store, r.terminal.editorSeen.toList⟩
  match EStateM.run (main inv) start with
  | .ok () r => finish ⟨0, none⟩ r
  | .error e r => finish e r

end Questionnaire.Command

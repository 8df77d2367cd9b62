import Questionnaire.Command
/-!
# The program

The executable reads its arguments, its standard input and the `PROMPT_FACTORY_*` variables,
loads the files a run may read into a working-directory model (the settings files, the files its
arguments and settings name, and the default answers file), runs `Command.run`, writes both
streams, writes back the files the run created or changed, and exits with the run's status.
The editor is not available here: an editor session keeps the default.
-/

open Questionnaire

namespace Questionnaire.Program

/-- The names of the settings variables. -/
def settingVariables : List String :=
  ["PROMPT_FACTORY_QUESTIONNAIRE", "PROMPT_FACTORY_SCHEMA", "PROMPT_FACTORY_OUT_DIR",
   "PROMPT_FACTORY_MAX_FIX_PASSES", "PROMPT_FACTORY_LOG_LEVEL"]

/-- The files every run may read. -/
def settingsFiles : List String :=
  ["prompt_factory.json", "config/questionnaire.path", "config/schema.path", "config/out.dir",
   "config/repair.max_fix_passes", "config/log.level", "out/answers.json"]

/-- Reads all of a stream. -/
partial def readAll (h : IO.FS.Stream) (acc : String) : IO String := do
  let line ← h.getLine
  if line.isEmpty then return acc else readAll h (acc ++ line)

/-- Adds a path of the disk to the model, if it is there. -/
def load (store : Store) (path : String) : IO Store := do
  if path.isEmpty || path.startsWith Bundled.dataDir then return store
  try
    let bytes ← IO.FS.readBinFile path
    return store.put path (.file bytes.toList)
  catch e =>
    match e with
    | .inappropriateType _ _ _ => return store.put path .dir
    | _ => return store

end Questionnaire.Program

open Questionnaire.Program in
/-- Runs the command line. -/
def main (args : List String) : IO UInt32 := do
  let input ← readAll (← IO.getStdin) ""
  let mut env : List (String × String) := []
  for v in settingVariables do
    if let some x ← IO.getEnv v then env := env ++ [(v, x)]
  let mut store : Store := ({} : Store)
    |>.writeText (Bundled.dataDir ++ "/questionnaire.json") Bundled.questionnaireText
    |>.writeText (Bundled.dataDir ++ "/schema.json") Bundled.schemaText
  for p in settingsFiles ++ args do
    store ← load store p
  match (Settings.load { env := env, store := store }).1 with
  | .ok cfg =>
    for p in [cfg.questionnairePath, cfg.schemaPath] do
      store ← load store p
  | .error _ => pure ()
  let o := Command.run { args := args, input := input, env := env, store := store }
  let out ← IO.getStdout
  out.putStr o.output
  out.flush
  let err ← IO.getStderr
  err.putStr o.errors
  err.flush
  for (path, content) in Store.changedFiles store o.store do
    match Store.parent path with
    | some dir => IO.FS.createDirAll dir
    | none => pure ()
    IO.FS.writeFile path content
  return o.code.toUInt32

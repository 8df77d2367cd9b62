import Questionnaire.Log
import Questionnaire.Fault
import Questionnaire.Text.Case
/-!
# Where log records go

Records go to the handlers of the root logger, and are dropped below its threshold. The program
configures the root logger once: when it has no handler yet, a handler writing to the error stream
is installed (it passes every record, and writes `time LEVEL:channel:text`); when it already has
handlers, only the threshold changes. Levels are named in any case; a missing or empty name means
`WARNING`, and a name no level has is a fault.

Until then the root logger has no handler, and the records of level `WARNING` and above are
written bare, as their text alone.
-/

namespace Questionnaire

/-- A handler of the root logger. -/
inductive Handler where
  /-- Writes records to the error stream. -/
  | errorStream
  /-- Discards records. -/
  | discard
deriving DecidableEq, Repr

/-- The root logger: its handlers and its threshold. -/
structure RootLogger where
  handlers : List Handler := []
  threshold : Nat := 30
deriving Repr

/-- The number of a level name; `FATAL` and `WARN` are other names of `CRITICAL` and `WARNING`,
and `NOTSET` is zero. -/
def levelNumber? : String → Option Nat
  | "CRITICAL" => some 50
  | "FATAL" => some 50
  | "ERROR" => some 40
  | "WARN" => some 30
  | "WARNING" => some 30
  | "INFO" => some 20
  | "DEBUG" => some 10
  | "NOTSET" => some 0
  | _ => none

/-- The name of a level number. -/
def levelName (n : Nat) : String :=
  match n with
  | 50 => "CRITICAL"
  | 40 => "ERROR"
  | 30 => "WARNING"
  | 20 => "INFO"
  | 10 => "DEBUG"
  | 0 => "NOTSET"
  | _ => "Level " ++ toString n

namespace RootLogger

/-- Configures the root logger for a level name (none or empty for the default). -/
def configure (r : RootLogger) (level : Option String) : Except Fault RootLogger :=
  let name := match level with
    | some l => if l.isEmpty then "WARNING" else Text.upperForMatch l
    | none => "WARNING"
  match levelNumber? name with
  | none => .error (.unknownLevel name)
  | some n =>
    if r.handlers.isEmpty then .ok { handlers := [.errorStream], threshold := n }
    else .ok { r with threshold := n }

/-- Whether a record passes the threshold. -/
def passes (r : RootLogger) (record : LogRecord) : Bool :=
  decide (r.threshold ≤ record.level.rank)

/-- What the configured handlers write for a record: one line per handler that writes, with
the time in front. -/
def lines (r : RootLogger) (time : String) (record : LogRecord) : String :=
  if r.passes record then
    String.join (r.handlers.map fun h => match h with
      | .errorStream => time ++ " " ++ record.level.name ++ ":" ++ record.channel.name ++ ":" ++
        record.text ++ "\n"
      | .discard => "")
  else ""

end RootLogger

/-- What an unconfigured program writes for a record: its text alone, from `WARNING` on. -/
def bareLine (record : LogRecord) : String :=
  if record.level.rank ≥ 30 then record.text ++ "\n" else ""

end Questionnaire

import Questionnaire.Value.Literal
/-!
# Log records

The engine reports what it does as log records: a level, the part of the program that speaks,
and a line of text. A record is shown when its level is at least the configured one; the records
themselves do not depend on that setting.
-/

namespace Questionnaire

/-- The levels of log records, in increasing severity. -/
inductive Level where
  | debug
  | info
  | warning
  | error
  | critical
deriving DecidableEq, Repr, Inhabited

/-- The rank of a level: higher is more severe. -/
def Level.rank : Level → Nat
  | .debug => 10
  | .info => 20
  | .warning => 30
  | .error => 40
  | .critical => 50

/-- The name of a level in log lines. -/
def Level.name : Level → String
  | .debug => "DEBUG"
  | .info => "INFO"
  | .warning => "WARNING"
  | .error => "ERROR"
  | .critical => "CRITICAL"

/-- The part of the program a record comes from. -/
inductive Channel where
  | paths
  | conditions
  | acquisition
  | primaryPass
  | repair
  | reconciliation
  | validation
  | loading
  | configuration
  | engine
  | command
deriving DecidableEq, Repr

/-- The name a channel has in log lines. -/
def Channel.name : Channel → String
  | .paths => "prompt_factory.logic.deep_path"
  | .conditions => "prompt_factory.logic.conditions"
  | .acquisition => "prompt_factory.logic.field_acquirer"
  | .primaryPass => "prompt_factory.logic.questionnaire_runner"
  | .repair => "prompt_factory.logic.repair_loop"
  | .reconciliation => "prompt_factory.logic.error_reconciler"
  | .validation => "prompt_factory.logic.schema_validation"
  | .loading => "prompt_factory.logic.questionnaire_loader"
  | .configuration => "prompt_factory.config"
  | .engine => "prompt_factory.engine"
  | .command => "prompt_factory.cli"

/-- One log record. -/
structure LogRecord where
  level : Level
  channel : Channel
  text : String

/-- The text of an optional text in literal notation: `None` or the quoted text. -/
def optLiteral : Option String → String
  | none => "None"
  | some s => quoteText s

end Questionnaire

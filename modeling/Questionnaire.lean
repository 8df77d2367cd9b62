import Questionnaire.Value.Basic
import Questionnaire.Value.Literal
import Questionnaire.Value.Compare
import Questionnaire.Decimal.Shortest
import Questionnaire.Decimal.Notation
import Questionnaire.Text.Blank
import Questionnaire.Text.Digit
import Questionnaire.Text.Printable
import Questionnaire.Text.Case
import Questionnaire.Json.Reader
import Questionnaire.Json.Writer
import Questionnaire.Fault
import Questionnaire.Path
import Questionnaire.Condition
import Questionnaire.Record
import Questionnaire.Issue
import Questionnaire.Question
import Questionnaire.Descriptor
import Questionnaire.Answer
import Questionnaire.Log
import Questionnaire.Bundled
import Questionnaire.Session.Basic
import Questionnaire.Session.Acquire
import Questionnaire.Session.Repair
import Questionnaire.Session.Script
import Questionnaire.Text.Ranges
import Questionnaire.Text.Word
import Questionnaire.Pattern.Syntax
import Questionnaire.Pattern.Search
import Questionnaire.Schema.Format
import Questionnaire.Schema.Number
import Questionnaire.Schema.Evaluate
import Questionnaire.Schema.Meta
import Questionnaire.Schema.Check
import Questionnaire.Validation
import Questionnaire.Store
import Questionnaire.Yaml.Token
import Questionnaire.Yaml.Node
import Questionnaire.Yaml.Scalar
import Questionnaire.Yaml.Document
import Questionnaire.Load
import Questionnaire.Prompt
import Questionnaire.Settings
import Questionnaire.Logging
import Questionnaire.Text.Cells
import Questionnaire.Console.Markup
import Questionnaire.Console.Layout
import Questionnaire.Console.Terminal
import Questionnaire.Command
import Questionnaire.Main
import Questionnaire.Proofs.Steps
import Questionnaire.Proofs.Passes
import Questionnaire.Proofs.Reconcile
import Questionnaire.Proofs.Repair
import Questionnaire.Proofs.History
import Questionnaire.Proofs.ObjectPaths
import Questionnaire.Proofs.Separation
import Questionnaire.Proofs.Pointers
import Questionnaire.Proofs.Locations
import Questionnaire.Proofs.Coverage
import Questionnaire.Proofs.ReadAfterWrite
import Questionnaire.Proofs.Acquisition
import Questionnaire.Proofs.NearestFloat
import Questionnaire.Proofs.ShortestDigits
import Questionnaire.Proofs.DecimalText
import Questionnaire.Proofs.FlatLists
import Questionnaire.Proofs.ConditionLiterals
import Questionnaire.Proofs.PathFaults
import Questionnaire.Proofs.InPlaceWrite
import Questionnaire.Proofs.FloatText
import Questionnaire.Proofs.PrettyJson
import Questionnaire.Proofs.Reask
import Questionnaire.Proofs.Overwrite
import Questionnaire.Proofs.Choices
import Questionnaire.Proofs.Precedence
import Questionnaire.Proofs.QuotedText
import Questionnaire.Proofs.MissingProperty

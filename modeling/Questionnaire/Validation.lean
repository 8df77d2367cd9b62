import Questionnaire.Session.Basic
import Questionnaire.Schema.Check
/-!
# Schema validators for sessions

A session validates the whole answers document against a JSON schema: the validator reports the
schema's issues and notes them in the log when there are any. A schema is checked against the
metaschema before it is used; a schema that fails that check is refused with the message of its
most relevant failure.
-/

namespace Questionnaire

/-- The message of a schema that fails the metaschema. -/
def invalidSchemaMessage (detail : String) : String :=
  "invalid JSON schema: " ++ detail

/-- The validator of a schema, refused when the schema fails the metaschema. -/
def Validator.ofSchema (schema : Value) : Except String Validator :=
  match Schema.checkSchema schema with
  | .error e => .error (invalidSchemaMessage e)
  | .ok () =>
    .ok ⟨fun answers _ =>
      match Schema.issues schema answers with
      | .ok is => (is, Schema.issuesRecord is)
      | .error _ => ([], [])⟩

end Questionnaire

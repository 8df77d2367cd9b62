import Questionnaire.Schema.Evaluate
/-!
# The draft 2020-12 metaschema

A schema is itself checked against the metaschema of draft 2020-12 before it is used. The
metaschema is a top document that combines seven vocabulary documents (`meta/core`,
`meta/applicator`, …) with `allOf`, and refers back to itself through the dynamic reference
`#meta`, so that every subschema of a schema is checked against the whole metaschema.

The documents keep the keywords that check something, in the order of the published documents;
annotations such as titles, comments and defaults change no outcome and are left out.
-/

namespace Questionnaire.Schema.Meta

/-- A reference. -/
def ref (target : String) : Value :=
  .obj [("$ref", .str target)]

/-- The dynamic reference to the whole metaschema. -/
def whole : Value :=
  .obj [("$dynamicRef", .str "#meta")]

/-- A schema asking for one type. -/
def typed (t : String) : Value :=
  .obj [("type", .str t)]

/-- A schema for objects whose every member is a schema. -/
def schemaMap : Value :=
  .obj [("type", .str "object"), ("additionalProperties", whole)]

/-- A schema or a boolean: the type every vocabulary document asks for. -/
def objectOrBoolean : String × Value :=
  ("type", .arr [.str "object", .str "boolean"])

/-- The core vocabulary: identifiers, references, anchors and definitions. -/
def core : Value :=
  .obj [objectOrBoolean,
    ("properties", .obj [
      ("$id", .obj [("$ref", .str "#/$defs/uriReferenceString"),
        ("pattern", .str "^[^#]*#?$")]),
      ("$schema", ref "#/$defs/uriString"),
      ("$ref", ref "#/$defs/uriReferenceString"),
      ("$anchor", ref "#/$defs/anchorString"),
      ("$dynamicRef", ref "#/$defs/uriReferenceString"),
      ("$dynamicAnchor", ref "#/$defs/anchorString"),
      ("$vocabulary", .obj [("type", .str "object"),
        ("propertyNames", ref "#/$defs/uriString"),
        ("additionalProperties", typed "boolean")]),
      ("$comment", typed "string"),
      ("$defs", schemaMap)]),
    ("$defs", .obj [
      ("anchorString", .obj [("type", .str "string"),
        ("pattern", .str "^[A-Za-z_][-A-Za-z0-9._]*$")]),
      ("uriString", .obj [("type", .str "string"), ("format", .str "uri")]),
      ("uriReferenceString", .obj [("type", .str "string"), ("format", .str "uri-reference")])])]

/-- The applicator vocabulary: keywords that apply subschemas. -/
def applicator : Value :=
  .obj [objectOrBoolean,
    ("properties", .obj [
      ("prefixItems", ref "#/$defs/schemaArray"),
      ("items", whole),
      ("contains", whole),
      ("additionalProperties", whole),
      ("properties", schemaMap),
      ("patternProperties", .obj [("type", .str "object"), ("additionalProperties", whole),
        ("propertyNames", .obj [("format", .str "regex")])]),
      ("dependentSchemas", schemaMap),
      ("propertyNames", whole),
      ("if", whole),
      ("then", whole),
      ("else", whole),
      ("allOf", ref "#/$defs/schemaArray"),
      ("anyOf", ref "#/$defs/schemaArray"),
      ("oneOf", ref "#/$defs/schemaArray"),
      ("not", whole)]),
    ("$defs", .obj [
      ("schemaArray", .obj [("type", .str "array"), ("minItems", .int 1), ("items", whole)])])]

/-- The vocabulary of unevaluated items and properties. -/
def unevaluated : Value :=
  .obj [objectOrBoolean,
    ("properties", .obj [("unevaluatedItems", whole), ("unevaluatedProperties", whole)])]

/-- The validation vocabulary: types, values, sizes and requirements. -/
def validation : Value :=
  .obj [objectOrBoolean,
    ("properties", .obj [
      ("type", .obj [("anyOf", .arr [
        ref "#/$defs/simpleTypes",
        .obj [("type", .str "array"), ("items", ref "#/$defs/simpleTypes"),
          ("minItems", .int 1), ("uniqueItems", .bool true)]])]),
      ("const", .bool true),
      ("enum", .obj [("type", .str "array"), ("items", .bool true)]),
      ("multipleOf", .obj [("type", .str "number"), ("exclusiveMinimum", .int 0)]),
      ("maximum", typed "number"),
      ("exclusiveMaximum", typed "number"),
      ("minimum", typed "number"),
      ("exclusiveMinimum", typed "number"),
      ("maxLength", ref "#/$defs/nonNegativeInteger"),
      ("minLength", ref "#/$defs/nonNegativeIntegerDefault0"),
      ("pattern", .obj [("type", .str "string"), ("format", .str "regex")]),
      ("maxItems", ref "#/$defs/nonNegativeInteger"),
      ("minItems", ref "#/$defs/nonNegativeIntegerDefault0"),
      ("uniqueItems", typed "boolean"),
      ("maxContains", ref "#/$defs/nonNegativeInteger"),
      ("minContains", ref "#/$defs/nonNegativeInteger"),
      ("maxProperties", ref "#/$defs/nonNegativeInteger"),
      ("minProperties", ref "#/$defs/nonNegativeIntegerDefault0"),
      ("required", ref "#/$defs/stringArray"),
      ("dependentRequired", .obj [("type", .str "object"),
        ("additionalProperties", ref "#/$defs/stringArray")])]),
    ("$defs", .obj [
      ("nonNegativeInteger", .obj [("type", .str "integer"), ("minimum", .int 0)]),
      ("nonNegativeIntegerDefault0", ref "#/$defs/nonNegativeInteger"),
      ("simpleTypes", .obj [("enum", .arr ([ "array", "boolean", "integer", "null", "number",
        "object", "string"].map .str))]),
      ("stringArray", .obj [("type", .str "array"), ("items", typed "string"),
        ("uniqueItems", .bool true)])])]

/-- The meta-data vocabulary: titles, descriptions, defaults and examples. -/
def metaData : Value :=
  .obj [objectOrBoolean,
    ("properties", .obj [
      ("title", typed "string"),
      ("description", typed "string"),
      ("default", .bool true),
      ("deprecated", typed "boolean"),
      ("readOnly", typed "boolean"),
      ("writeOnly", typed "boolean"),
      ("examples", .obj [("type", .str "array"), ("items", .bool true)])])]

/-- The format vocabulary. -/
def formatAnnotation : Value :=
  .obj [objectOrBoolean, ("properties", .obj [("format", typed "string")])]

/-- The content vocabulary. -/
def content : Value :=
  .obj [objectOrBoolean,
    ("properties", .obj [
      ("contentEncoding", typed "string"),
      ("contentMediaType", typed "string"),
      ("contentSchema", whole)])]

/-- The top document: all vocabularies, and the keywords of earlier drafts still in use. -/
def top : Value :=
  .obj [
    ("allOf", .arr [ref "meta/core", ref "meta/applicator", ref "meta/unevaluated",
      ref "meta/validation", ref "meta/meta-data", ref "meta/format-annotation",
      ref "meta/content"]),
    objectOrBoolean,
    ("properties", .obj [
      ("definitions", schemaMap),
      ("dependencies", .obj [("type", .str "object"),
        ("additionalProperties", .obj [("anyOf", .arr [whole,
          ref "meta/validation#/$defs/stringArray"])])]),
      ("$recursiveAnchor", ref "meta/core#/$defs/anchorString"),
      ("$recursiveRef", ref "meta/core#/$defs/uriReferenceString")])]

/-- Where the references of the metaschema lead. -/
def env : Env where
  docs := [("meta/core", core), ("meta/applicator", applicator),
    ("meta/unevaluated", unevaluated), ("meta/validation", validation),
    ("meta/meta-data", metaData), ("meta/format-annotation", formatAnnotation),
    ("meta/content", content)]
  dynamicMeta := some top

end Questionnaire.Schema.Meta

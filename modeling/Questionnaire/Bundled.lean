import Questionnaire.Question
import Questionnaire.Json.Reader
/-!
# The bundled questionnaire and schema

The program ships with a questionnaire of thirty questions for describing a user interface to
build, and a JSON Schema for the answers it produces. Both are kept here as the text of their
files, which lives in the data directory `<DATA>`.
-/

namespace Questionnaire.Bundled

/-- The data directory of the bundled files, as paths show it. -/
def dataDir : String := "<DATA>"

/-- The text of the bundled questionnaire file. -/
def questionnaireText : String :=
  "[\n  \x7b\"id\": \"project.name\", \"label\": \"Project name\", \"type\": \"text\", \"requ" ++
  "ired\": true\x7d,\n  \x7b\"id\": \"project.description\", \"label\": \"Describe the produc" ++
  "t in a few sentences\", \"type\": \"textarea\", \"required\": true\x7d,\n  \x7b\"id\": \"p" ++
  "latform.targets\", \"label\": \"Target platforms\", \"type\": \"multiselect\", \"options\"" ++
  ": [\"web\", \"ios\", \"android\", \"desktop\", \"cross\"], \"default\": [\"web\"], \"requi" ++
  "red\": true\x7d,\n  \x7b\"id\": \"platform.responsive\", \"label\": \"Should the UI be res" ++
  "ponsive?\", \"type\": \"boolean\", \"default\": true, \"required\": true\x7d,\n  \x7b\"id" ++
  "\": \"platform.breakpoints\", \"label\": \"Breakpoints to design for\", \"type\": \"multis" ++
  "elect\", \"options\": [\"sm\", \"md\", \"lg\", \"xl\"], \"default\": [\"sm\", \"md\", \"lg" ++
  "\"], \"dependsOn\": \"platform.responsive = true\"\x7d,\n  \x7b\"id\": \"fidelity\", \"lab" ++
  "el\": \"Fidelity\", \"type\": \"select\", \"options\": [\"wireframe\", \"high-fidelity\", " ++
  "\"production-code\"], \"default\": \"high-fidelity\"\x7d,\n  \x7b\"id\": \"style.aesthetic" ++
  "\", \"label\": \"Aesthetic keywords\", \"type\": \"chips\", \"default\": [\"clean\", \"mod" ++
  "ern\"]\x7d,\n  \x7b\"id\": \"style.designSystem\", \"label\": \"Design system\", \"type\":" ++
  " \"select\", \"options\": [\"material\", \"fluent\", \"bootstrap\", \"tailwind\", \"chakra" ++
  "\", \"none\", \"custom\"], \"default\": \"tailwind\"\x7d,\n  \x7b\"id\": \"style.brand.pri" ++
  "maryColor\", \"label\": \"Primary brand color (hex)\", \"type\": \"text\", \"placeholder\"" ++
  ": \"#1E40AF\", \"dependsOn\": \"style.designSystem in ['custom', 'tailwind', 'none']\"\x7d" ++
  ",\n  \x7b\"id\": \"style.brand.fontFamily\", \"label\": \"Font family\", \"type\": \"text" ++
  "\", \"dependsOn\": \"style.designSystem = custom\"\x7d,\n  \x7b\"id\": \"style.modes\", \"" ++
  "label\": \"Color modes\", \"type\": \"multiselect\", \"options\": [\"light\", \"dark\", \"" ++
  "system\"], \"default\": [\"light\"]\x7d,\n  \x7b\"id\": \"users.accessControl\", \"label\"" ++
  ": \"Does the app need role-based access control?\", \"type\": \"boolean\", \"default\": fa" ++
  "lse\x7d,\n  \x7b\"id\": \"users.roles\", \"label\": \"User roles\", \"type\": \"chips\", " ++
  "\"required\": true, \"dependsOn\": \"users.accessControl = true\"\x7d,\n  \x7b\"id\": \"fl" ++
  "ows\", \"label\": \"Key user flows\", \"type\": \"chips\"\x7d,\n  \x7b\"id\": \"integratio" ++
  "ns\", \"label\": \"Integrations\", \"type\": \"multiselect\", \"options\": [\"maps\", \"pa" ++
  "yments\", \"calendar\", \"push\", \"analytics\", \"auth-oauth\", \"file-upload\"]\x7d,\n  " ++
  "\x7b\"id\": \"localization.i18n\", \"label\": \"Multiple languages?\", \"type\": \"boolean" ++
  "\", \"default\": false\x7d,\n  \x7b\"id\": \"localization.language\", \"label\": \"Primary" ++
  " language (e.g. en)\", \"type\": \"text\", \"default\": \"en\"\x7d,\n  \x7b\"id\": \"local" ++
  "ization.region\", \"label\": \"Region (e.g. US)\", \"type\": \"text\", \"dependsOn\": \"lo" ++
  "calization.i18n = true\"\x7d,\n  \x7b\"id\": \"accessibility.wcag\", \"label\": \"WCAG lev" ++
  "el\", \"type\": \"select\", \"options\": [\"A\", \"AA\", \"AAA\"], \"default\": \"AA\"\x7d" ++
  ",\n  \x7b\"id\": \"accessibility.features\", \"label\": \"Accessibility features\", \"type" ++
  "\": \"multiselect\", \"options\": [\"keyboard\", \"screen-reader\", \"contrast\", \"motion" ++
  "-reduce\"], \"default\": [\"keyboard\", \"screen-reader\"]\x7d,\n  \x7b\"id\": \"data.enti" ++
  "ties\", \"label\": \"Main data entities\", \"type\": \"chips\"\x7d,\n  \x7b\"id\": \"data." ++
  "sampleRecordsNeeded\", \"label\": \"Generate sample records?\", \"type\": \"boolean\", \"d" ++
  "efault\": true\x7d,\n  \x7b\"id\": \"screens\", \"label\": \"Screens (JSON array)\", \"typ" ++
  "e\": \"table\", \"columns\": [\"name\"], \"required\": true, \"default\": [\x7b\"name\": " ++
  "\"Home\", \"priority\": 1, \"mustHave\": true\x7d]\x7d,\n  \x7b\"id\": \"output.format\", " ++
  "\"label\": \"Output format\", \"type\": \"select\", \"options\": [\"description\", \"compo" ++
  "nent-spec\", \"code-react\", \"code-next\", \"code-vue\", \"code-flutter\", \"code-swiftui" ++
  "\"], \"default\": \"code-react\", \"required\": true\x7d,\n  \x7b\"id\": \"output.tech.rea" ++
  "ct.useTypescript\", \"label\": \"Use TypeScript?\", \"type\": \"boolean\", \"default\": tr" ++
  "ue, \"dependsOn\": \"output.format in [code-react, code-next]\"\x7d,\n  \x7b\"id\": \"outp" ++
  "ut.tech.react.useTailwind\", \"label\": \"Use Tailwind?\", \"type\": \"boolean\", \"defaul" ++
  "t\": true, \"dependsOn\": \"output.format in [code-react, code-next]\"\x7d,\n  \x7b\"id\":" ++
  " \"output.tech.react.state\", \"label\": \"State management\", \"type\": \"select\", \"opt" ++
  "ions\": [\"none\", \"zustand\", \"redux\", \"context\"], \"default\": \"context\", \"depen" ++
  "dsOn\": \"output.format in [code-react, code-next]\"\x7d,\n  \x7b\"id\": \"output.tech.flu" ++
  "tter.state\", \"label\": \"Flutter state management\", \"type\": \"select\", \"options\": " ++
  "[\"provider\", \"riverpod\", \"bloc\", \"none\"], \"default\": \"riverpod\", \"dependsOn\"" ++
  ": \"output.format = code-flutter\"\x7d,\n  \x7b\"id\": \"output.deliverables\", \"label\":" ++
  " \"Deliverables\", \"type\": \"multiselect\", \"options\": [\"component-files\", \"story-e" ++
  "xamples\", \"test-cases\", \"figma-json\", \"readme\"], \"default\": [\"component-files\"," ++
  " \"readme\"]\x7d,\n  \x7b\"id\": \"output.constraints\", \"label\": \"Constraints\", \"typ" ++
  "e\": \"multiselect\", \"options\": [\"no-external-icons\", \"no-third-party\", \"tree-shak" ++
  "eable\", \"a11y-annotations\", \"comments-why\"]\x7d\n]\n"

/-- The text of the bundled schema file. -/
def schemaText : String :=
  "\x7b\n  \"$schema\": \"https://json-schema.org/draft/2020-12/schema\",\n  \"title\": \"UIP" ++
  "romptRequest\",\n  \"type\": \"object\",\n  \"required\": [\"project\", \"platform\", \"sc" ++
  "reens\", \"output\"],\n  \"properties\": \x7b\n    \"project\": \x7b\n      \"type\": \"ob" ++
  "ject\",\n      \"required\": [\"name\", \"description\"],\n      \"properties\": \x7b\n   " ++
  "     \"name\": \x7b\"type\": \"string\", \"minLength\": 1\x7d,\n        \"description\": " ++
  "\x7b\"type\": \"string\", \"minLength\": 10\x7d\n      \x7d\n    \x7d,\n    \"platform\": " ++
  "\x7b\n      \"type\": \"object\",\n      \"required\": [\"targets\", \"responsive\"],\n   " ++
  "   \"properties\": \x7b\n        \"targets\": \x7b\"type\": \"array\", \"minItems\": 1, \"" ++
  "items\": \x7b\"enum\": [\"web\", \"ios\", \"android\", \"desktop\", \"cross\"]\x7d\x7d,\n " ++
  "       \"responsive\": \x7b\"type\": \"boolean\"\x7d,\n        \"breakpoints\": \x7b\"type" ++
  "\": \"array\", \"items\": \x7b\"enum\": [\"sm\", \"md\", \"lg\", \"xl\"]\x7d\x7d\n      " ++
  "\x7d\n    \x7d,\n    \"fidelity\": \x7b\"enum\": [\"wireframe\", \"high-fidelity\", \"prod" ++
  "uction-code\"]\x7d,\n    \"style\": \x7b\n      \"type\": \"object\",\n      \"properties" ++
  "\": \x7b\n        \"aesthetic\": \x7b\"type\": \"array\", \"items\": \x7b\"type\": \"strin" ++
  "g\"\x7d\x7d,\n        \"designSystem\": \x7b\"enum\": [\"material\", \"fluent\", \"bootstr" ++
  "ap\", \"tailwind\", \"chakra\", \"none\", \"custom\"]\x7d,\n        \"brand\": \x7b\n     " ++
  "     \"type\": \"object\",\n          \"properties\": \x7b\n            \"primaryColor\": " ++
  "\x7b\"type\": \"string\", \"pattern\": \"^(#[0-9A-Fa-f]\x7b3\x7d|#[0-9A-Fa-f]\x7b6\x7d)?$" ++
  "\"\x7d,\n            \"secondaryColor\": \x7b\"type\": \"string\"\x7d,\n            \"font" ++
  "Family\": \x7b\"type\": \"string\"\x7d,\n            \"logoUrl\": \x7b\"type\": \"string\"" ++
  ", \"format\": \"uri\"\x7d\n          \x7d\n        \x7d,\n        \"modes\": \x7b\"type\":" ++
  " \"array\", \"items\": \x7b\"enum\": [\"light\", \"dark\", \"system\"]\x7d\x7d\n      \x7d" ++
  "\n    \x7d,\n    \"users\": \x7b\n      \"type\": \"object\",\n      \"properties\": \x7b" ++
  "\n        \"roles\": \x7b\"type\": \"array\", \"items\": \x7b\"type\": \"string\"\x7d\x7d," ++
  "\n        \"accessControl\": \x7b\"type\": \"boolean\"\x7d\n      \x7d\n    \x7d,\n    \"f" ++
  "lows\": \x7b\"type\": \"array\", \"items\": \x7b\"type\": \"string\"\x7d\x7d,\n    \"integ" ++
  "rations\": \x7b\"type\": \"array\", \"items\": \x7b\"enum\": [\"maps\", \"payments\", \"ca" ++
  "lendar\", \"push\", \"analytics\", \"auth-oauth\", \"file-upload\"]\x7d\x7d,\n    \"locali" ++
  "zation\": \x7b\n      \"type\": \"object\",\n      \"properties\": \x7b\n        \"languag" ++
  "e\": \x7b\"type\": \"string\"\x7d,\n        \"region\": \x7b\"type\": \"string\"\x7d,\n   " ++
  "     \"i18n\": \x7b\"type\": \"boolean\"\x7d\n      \x7d\n    \x7d,\n    \"accessibility\"" ++
  ": \x7b\n      \"type\": \"object\",\n      \"properties\": \x7b\n        \"wcag\": \x7b\"e" ++
  "num\": [\"A\", \"AA\", \"AAA\"]\x7d,\n        \"features\": \x7b\"type\": \"array\", \"ite" ++
  "ms\": \x7b\"enum\": [\"keyboard\", \"screen-reader\", \"contrast\", \"motion-reduce\"]\x7d" ++
  "\x7d\n      \x7d\n    \x7d,\n    \"data\": \x7b\n      \"type\": \"object\",\n      \"prop" ++
  "erties\": \x7b\n        \"entities\": \x7b\"type\": \"array\", \"items\": \x7b\"type\": \"" ++
  "string\"\x7d\x7d,\n        \"sampleRecordsNeeded\": \x7b\"type\": \"boolean\"\x7d\n      " ++
  "\x7d\n    \x7d,\n    \"screens\": \x7b\n      \"type\": \"array\",\n      \"minItems\": 1," ++
  "\n      \"items\": \x7b\n        \"type\": \"object\",\n        \"required\": [\"name\"]," ++
  "\n        \"properties\": \x7b\n          \"name\": \x7b\"type\": \"string\", \"minLength" ++
  "\": 1\x7d,\n          \"priority\": \x7b\"type\": \"integer\", \"minimum\": 1\x7d,\n      " ++
  "    \"mustHave\": \x7b\"type\": \"boolean\"\x7d,\n          \"notes\": \x7b\"type\": \"str" ++
  "ing\"\x7d\n        \x7d\n      \x7d\n    \x7d,\n    \"output\": \x7b\n      \"type\": \"ob" ++
  "ject\",\n      \"required\": [\"format\"],\n      \"properties\": \x7b\n        \"format\"" ++
  ": \x7b\"enum\": [\"description\", \"component-spec\", \"code-react\", \"code-next\", \"cod" ++
  "e-vue\", \"code-flutter\", \"code-swiftui\"]\x7d,\n        \"tech\": \x7b\n          \"typ" ++
  "e\": \"object\",\n          \"properties\": \x7b\n            \"react\": \x7b\n           " ++
  "   \"type\": \"object\",\n              \"properties\": \x7b\n                \"useTypescr" ++
  "ipt\": \x7b\"type\": \"boolean\"\x7d,\n                \"useTailwind\": \x7b\"type\": \"bo" ++
  "olean\"\x7d,\n                \"state\": \x7b\"enum\": [\"none\", \"zustand\", \"redux\", " ++
  "\"context\"]\x7d\n              \x7d\n            \x7d,\n            \"flutter\": \x7b\n  " ++
  "            \"type\": \"object\",\n              \"properties\": \x7b\n                \"s" ++
  "tate\": \x7b\"enum\": [\"provider\", \"riverpod\", \"bloc\", \"none\"]\x7d\n              " ++
  "\x7d\n            \x7d\n          \x7d\n        \x7d,\n        \"deliverables\": \x7b\"typ" ++
  "e\": \"array\", \"items\": \x7b\"enum\": [\"component-files\", \"story-examples\", \"test-" ++
  "cases\", \"figma-json\", \"readme\"]\x7d\x7d,\n        \"constraints\": \x7b\"type\": \"ar" ++
  "ray\", \"items\": \x7b\"enum\": [\"no-external-icons\", \"no-third-party\", \"tree-shakeab" ++
  "le\", \"a11y-annotations\", \"comments-why\"]\x7d\x7d\n      \x7d\n    \x7d\n  \x7d\n\x7d" ++
  "\n"

/-- The bundled questions. -/
def questions : List Question :=
  match Json.read questionnaireText with
  | .ok doc => (parseQuestionnaire doc).toOption.getD []
  | .error _ => []

/-- The bundled schema document. -/
def schema : Value :=
  (Json.read schemaText).toOption.getD (.obj [])

end Questionnaire.Bundled

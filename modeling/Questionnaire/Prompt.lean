import Questionnaire.Json.Writer
/-!
# The generation prompt

The collected answers are handed on as a prompt of four parts separated by blank lines: the
system role, the user instruction, the answers as indented JSON between `<CONTEXT>` markers, and
the task rules. Non-ASCII characters of the answers are written as they are.
-/

namespace Questionnaire.Prompt

/-- The role the prompt gives the generator. -/
def systemRole : String :=
  "You are a senior product designer and front-end engineer. Produce UI that is consistent, " ++
  "accessible, and production-viable. When asked for code, ensure it compiles."

/-- What the prompt asks for. -/
def instruction : String :=
  "Build UI for a project with the following context (JSON follows). Interpret missing values " ++
  "sensibly."

/-- The rules of the task, by output format. -/
def taskRules : String :=
  "TASK:\n" ++
  "1) If output.format is \"description\": produce a concise, hierarchical UI spec (navigation, " ++
  "layouts, components, states, error/empty/loading).\n" ++
  "2) If output.format is \"component-spec\": list atomic components, props, events, variants, " ++
  "accessibility notes, and state diagrams where useful.\n" ++
  "3) If output.format starts with \"code-\": generate complete, minimal, production-ready code " ++
  "for the requested framework with:\n" ++
  "   - folder structure\n" ++
  "   - at least the top N screens by priority from 'screens'\n" ++
  "   - form validation, empty/error/loading states\n" ++
  "   - basic a11y (labels, alt text, focus management)\n" ++
  "   - comments explaining non-obvious decisions\n" ++
  "   - sample data when data.sampleRecordsNeeded=true\n" ++
  "   - honor designSystem (e.g., Tailwind classes or Material components)\n" ++
  "   - respect constraints and deliverables\n" ++
  "\n" ++
  "RULES:\n" ++
  "- Follow style.modes, localization, accessibility, and integrations (e.g., Maps on vehicle " ++
  "detail, Payments on checkout).\n" ++
  "- Use the platform.targets and responsive behavior responsibly.\n" ++
  "- If something is ambiguous, choose reasonable defaults and state assumptions at the top.\n" ++
  "- Avoid external libraries unless permitted; prefer built-ins and the specified design " ++
  "system.\n" ++
  "- Keep code cohesive and idiomatic for the chosen stack."

/-- The prompt for some answers. -/
def build (answers : Value) : String :=
  "\n\n".intercalate
    ["SYSTEM:\n" ++ systemRole,
     "USER:\n" ++ instruction,
     "<CONTEXT>\n" ++ Json.render .pretty answers ++ "\n</CONTEXT>",
     taskRules]

end Questionnaire.Prompt

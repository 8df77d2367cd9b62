import Questionnaire.Console.Markup
import Questionnaire.Console.Layout
import Questionnaire.Session.Basic
import Questionnaire.Text.Digit
import Questionnaire.Text.Case
import Questionnaire.Store
/-!
# The console respondent

On the console, a prompt is answered by a line of input, or by an editor session for tables. The
console is 80 cells wide; everything printed is laid out on its own (`Console.shown`), and what
the user types is not part of the printed text.

* A label shows bold, with ` *` after it when an answer is required, then the suffix.
* Yes/no questions print `label [y/n] (y): ` (or `(n)`), and take `y` or `n` in any case and with
  blanks around; an empty line takes the default, anything else prints `Please enter Y or N` and
  asks again.
* Text questions print `label (default): ` when the default is a text, and `label: ` otherwise;
  an empty line takes the default (or the empty text), any other line is taken without its blanks.
* Choice questions print the label, the numbered options, then `Choice` (or
  `Choices (comma-separated)`) as a text question; a number from 1 to the number of options
  stands for that option, any other token is taken as it is.
* Table questions print the label and the keys each row needs, then open the editor on the
  default; a session left without saving keeps the default.

A rejected answer prints `<message> Let's try again.` and an empty line. The input ending stops
the session, and so does an editor that fails.
-/

namespace Questionnaire.Console

/-- What the editor does when it is opened. -/
inductive EditorStep where
  /-- Saves this text. -/
  | save (text : String)
  /-- Closes without saving. -/
  | leave
  /-- Fails. -/
  | fail
deriving DecidableEq, Repr

/-- The console: the input not read yet, what was printed, what the editor will do, and the
texts it was opened on. -/
structure Terminal where
  input : List Char
  output : String := ""
  editor : List EditorStep := []
  editorSeen : Array String := #[]

/-- The width of the console in cells. -/
def consoleWidth : Nat := 80

namespace Terminal

/-- A console reading the given input, with line endings unified. -/
def reading (input : String) (editor : List EditorStep) : Terminal :=
  { input := Store.unifyNewlines input.toList, editor := editor }

/-- Prints plain text followed by `ending`. -/
def print (t : Terminal) (text : String) (ending : String) : Terminal :=
  { t with output := t.output ++ shown consoleWidth (dropControls text) ending }

/-- Prints markup followed by `ending`; markup that does not render prints as it is. -/
def printMarkup (t : Terminal) (markup : String) (ending : String) : Terminal :=
  match render markup with
  | .ok text => { t with output := t.output ++ shown consoleWidth text ending }
  | .error _ => t.print markup ending

/-- Reads a line: the characters up to the next line break, which is consumed; nothing at the
end of the input. -/
def readLine (t : Terminal) : Option (String × Terminal) :=
  match t.input with
  | [] => none
  | cs =>
    let line := cs.takeWhile (· != '\n')
    some (String.ofList line, { t with input := cs.drop (line.length + 1) })

/-- The number of lines left to read. -/
def linesLeft (t : Terminal) : Nat :=
  t.input.count '\n' + 1

end Terminal

/-- A step of a dialog on the console. -/
abbrev Dialog := EStateM Halt Terminal

namespace Dialog

/-- Prints a line of markup. -/
def say (markup : String) : Dialog Unit :=
  modify fun t => t.printMarkup markup "\n"

/-- Shows a prompt and reads the answer line; the end of the input stops. -/
def prompt (text : String) : Dialog String := do
  modify fun t => t.print text ""
  match (← get).readLine with
  | none => throw .endOfInput
  | some (line, t) =>
    set t
    return line

/-- The markup of a descriptor's label. -/
def labelMarkup (d : Descriptor) : String :=
  "[bold]" ++ escape d.label ++ "[/bold]" ++ (if d.required then " [red]*[/red]" else "") ++
    escape (d.suffix.getD "")

/-- The label as printed. -/
def labelText (d : Descriptor) : String :=
  match render (labelMarkup d) with
  | .ok t => t
  | .error _ => d.label

/-- A text prompt with an optional default: the line without its blanks, or the default (none
when it is not given) for an empty line. -/
def askText (label : String) (dflt : Option String) : Dialog (Option String) := do
  let shownDefault := match dflt with
    | some s => " (" ++ s ++ ")"
    | none => ""
  let line ← prompt (label ++ shownDefault ++ ": ")
  if line.isEmpty then return dflt
  return some (Text.strip line)

/-- A yes/no prompt, asked again until the answer is `y` or `n`; at most `fuel` times. -/
def askYesNo (label : String) (dflt : Bool) : Nat → Dialog Bool
  | 0 => throw .outOfSteps
  | fuel + 1 => do
    let line ← prompt (label ++ " [y/n] " ++ (if dflt then "(y)" else "(n)") ++ ": ")
    if line.isEmpty then return dflt
    match Text.lowerForMatch (Text.strip line) with
    | "y" => return true
    | "n" => return false
    | _ =>
      say "[prompt.invalid]Please enter Y or N"
      askYesNo label dflt fuel

/-- The option a token stands for: a number from 1 to the number of options, written in
decimal digits of any script, stands for that option; any other token stands for itself. A
token of digit-like characters that are not all decimal digits is no number at all. -/
def resolveOption (token : String) (options : List String) : Except Fault String :=
  let t := Text.strip token
  if Text.isDigitText t then
    match Text.digitsValue? t.toList with
    | none => .error (.notAnInteger t)
    | some n => .ok (if 1 ≤ n && n ≤ options.length then (options[n - 1]?).getD t else t)
  else .ok t

/-- The default of a select prompt: the default when it is a text among the options. -/
def selectDefault (options : List String) : Value → Option String
  | .str s => if options.contains s then some s else none
  | _ => none

/-- The tokens of a checkbox answer: the pieces between commas that are not blank. -/
def choiceTokens (answer : String) : List String :=
  ((Path.splitOn ',' answer.toList).map String.ofList).filter fun tok => !(Text.strip tok).isEmpty

/-- Lists the options, numbered from 1. -/
def showOptions (options : List String) : Dialog Unit := do
  for (o, i) in options.zip (List.range options.length) do
    say ("  [cyan]" ++ toString (i + 1) ++ "[/cyan]. " ++ escape o)

/-- The default of a checkbox prompt: the default items joined by `, ` (a text counts as the list
of its characters, an object as the list of its keys), or none when that is empty. -/
def checkboxDefault (v : Value) : Except Fault (Option String) := do
  let items ← match v with
    | .arr xs => xs.mapM fun x => match x with
      | .str s => Except.ok s
      | _ => Except.error Fault.notText
    | .str s => pure (s.toList.map Char.toString)
    | .obj fs => pure (fs.map (·.1))
    | w => if w.truthy then Except.error Fault.notIterable else pure []
  let joined := ", ".intercalate items
  return if joined.isEmpty then none else some joined

/-- Opens the editor on a text; the text saved, or none when the editor closed without
saving. -/
def edit (text : Value) : Dialog (Option String) := do
  let content ← match text with
    | .str s => pure (if s.isEmpty || s.endsWith "\n" then s else s ++ "\n")
    | v => if v.truthy then throw (.fault .notTextValue) else pure ""
  modify fun t => { t with editorSeen := t.editorSeen.push content }
  let t ← get
  let (step, rest) := match t.editor with
    | s :: rest => (s, rest)
    | [] => (EditorStep.leave, [])
  set { t with editor := rest }
  match step with
  | .save s =>
    let s := if s.startsWith "\uFEFF" then (s.drop 1).toString else s
    return some (s.replace "\r\n" "\n")
  | .leave => return none
  | .fail => throw .editorFailed

/-- Asks one prompt. -/
def ask (d : Descriptor) : Dialog Value := do
  let label := labelText d
  match d.kind with
  | .confirm =>
    let fuel := (← get).linesLeft + 1
    return .bool (← askYesNo label d.default.truthy fuel)
  | .select =>
    let options := d.options.getD []
    say (labelMarkup d)
    showOptions options
    let answer ← askText "Choice" (selectDefault options d.default)
    match resolveOption (answer.getD "") options with
    | .ok o => return .str o
    | .error f => throw (.fault f)
  | .checkbox =>
    let options := d.options.getD []
    say (labelMarkup d)
    showOptions options
    let dflt ← match checkboxDefault d.default with
      | .ok o => pure o
      | .error f => throw (.fault f)
    let answer := (← askText "Choices (comma-separated)" dflt).getD ""
    match (choiceTokens answer).mapM (resolveOption · options) with
    | .ok os => return Value.ofStrings os
    | .error f => throw (.fault f)
  | .editor =>
    say (labelMarkup d)
    match d.columns with
    | some (c :: cs) => say ("[dim]Rows need keys: " ++ escape (", ".intercalate (c :: cs)) ++ "[/dim]")
    | _ => pure ()
    match ← edit d.default with
    | some s => return .str s
    | none => return d.default
  | .text =>
    let dflt := match d.default with
      | .str s => some s
      | _ => none
    return .str ((← askText label dflt).getD "")

/-- Prints a rejection. -/
def reject (message : String) : Dialog Unit :=
  say ("[red]" ++ escape message ++ "[/red] Let's try again.\n")

end Dialog

/-- The console as a respondent. At the start of a repair pass it prints the pass number, the
limit and the issues. -/
def Terminal.respondent : Respondent Terminal where
  ask d t := Dialog.ask d t
  reject d message t :=
    let _ := d
    match Dialog.reject message t with
    | .ok () t' => t'
    | .error _ t' => t'
  passStarted n limit issues t :=
    let t := t.printMarkup ("\n[yellow]Some inputs need fixes (pass " ++ toString n ++ "/" ++
      limit.text ++ "):[/yellow]") "\n"
    issues.foldl (fun t i => t.print (" - " ++ i.describe) "\n") t
  budget t := t.linesLeft + t.editor.length + 1

end Questionnaire.Console

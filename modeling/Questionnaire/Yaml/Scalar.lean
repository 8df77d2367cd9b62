import Questionnaire.Yaml.Node
import Questionnaire.Pattern.Search
import Questionnaire.Json.Writer
import Questionnaire.Json.Reader
/-!
# YAML scalars

A plain scalar's tag is resolved from its text by the rules of YAML 1.1: the words `yes`, `no`,
`true`, `false`, `on`, `off` (in three casings) are booleans, `~`, `null` and the empty text are
null, integers may be written in binary (`0b`), octal (a leading `0`), hexadecimal (`0x`) or base
60 (`1:30`), floats need a dot (`1.0`, `.5`, `1.5e+3`, `.inf`, `.nan`), and `2001-12-14` is a
date. Each rule is tried only for the first characters it can start with, in a fixed order.

A scalar's value is then read from its text as its tag says; a tag with no meaning here, or a
text its tag cannot read (`!!int x`), is an error.
-/

namespace Questionnaire.Yaml

/-! ## Resolving plain scalars -/

/-- The texts that are booleans. -/
def boolPattern : String :=
  "^(?:yes|Yes|YES|no|No|NO|true|True|TRUE|false|False|FALSE|on|On|ON|off|Off|OFF)$"

/-- The texts that are floats. -/
def floatPattern : String :=
  "^(?:[-+]?(?:[0-9][0-9_]*)\\.[0-9_]*(?:[eE][-+][0-9]+)?|\\.[0-9][0-9_]*(?:[eE][-+][0-9]+)?" ++
  "|[-+]?[0-9][0-9_]*(?::[0-5]?[0-9])+\\.[0-9_]*|[-+]?\\.(?:inf|Inf|INF)|\\.(?:nan|NaN|NAN))$"

/-- The texts that are integers. -/
def intPattern : String :=
  "^(?:[-+]?0b[0-1_]+|[-+]?0[0-7_]+|[-+]?(?:0|[1-9][0-9_]*)|[-+]?0x[0-9a-fA-F_]+" ++
  "|[-+]?[1-9][0-9_]*(?::[0-5]?[0-9])+)$"

/-- The texts that are null. -/
def nullPattern : String :=
  "^(?:~|null|Null|NULL|)$"

/-- The texts that are timestamps. -/
def timestampPattern : String :=
  "^(?:[0-9][0-9][0-9][0-9]-[0-9][0-9]-[0-9][0-9]|[0-9][0-9][0-9][0-9]-[0-9][0-9]?-[0-9][0-9]?" ++
  "(?:[Tt]|[ \\t]+)[0-9][0-9]?:[0-9][0-9]:[0-9][0-9](?:\\.[0-9]*)?" ++
  "(?:[ \\t]*(?:Z|[-+][0-9][0-9]?(?::[0-9][0-9])?))?)$"

/-- The resolution rules: a tag, the characters its texts may start with (the empty text counts
as starting with `\x00`), and the pattern of its texts, in the order they are tried. -/
def resolvers : List (String × List Char × String) :=
  [("bool", "yYnNtTfFoO".toList, boolPattern),
   ("float", "-+0123456789.".toList, floatPattern),
   ("int", "-+0123456789".toList, intPattern),
   ("merge", ['<'], "^(?:<<)$"),
   ("null", "~nN\x00".toList, nullPattern),
   ("timestamp", "0123456789".toList, timestampPattern),
   ("value", ['='], "^(?:=)$")]

/-- The tag a plain scalar's text resolves to. -/
def resolve (text : String) : String :=
  let first := (text.toList.head?).getD '\x00'
  match resolvers.find? fun (_, starts, pattern) =>
      starts.contains first && Pattern.search pattern text == some true with
  | some (tag, _, _) => stdTag tag
  | none => stdTag "str"

/-! ## Reading scalars -/

/-- The value of a digit in a base up to 16. -/
def digitIn (base : Nat) (c : Char) : Option Nat :=
  let d := if c.isDigit then c.toNat - 48
    else if 'a' ≤ c && c ≤ 'f' then c.toNat - 87
    else if 'A' ≤ c && c ≤ 'F' then c.toNat - 55
    else 99
  if d < base then some d else none

/-- The number written by some digits in a base; none when there are none or one is not a digit
of the base. -/
def digitsIn (base : Nat) (cs : List Char) : Option Nat :=
  if cs.isEmpty then none
  else cs.foldlM (fun acc c => (digitIn base c).map (acc * base + ·)) 0

/-- The sign of a number's text and the rest. -/
def splitSign (cs : List Char) : Bool × List Char :=
  match cs with
  | '-' :: rest => (true, rest)
  | '+' :: rest => (false, rest)
  | _ => (false, cs)

/-- The integer of an integer scalar: underscores are ignored; `0b`, `0x`, a leading `0` and
colons choose the base. -/
def readInt (text : String) : Option Int := do
  let cs := text.toList.filter (· != '_')
  let (neg, body) := splitSign cs
  let n ← match body with
    | ['0'] => some 0
    | '0' :: 'b' :: ds => digitsIn 2 ds
    | '0' :: 'x' :: ds => digitsIn 16 ds
    | '0' :: _ => digitsIn 8 body
    | _ =>
      if body.contains ':' then
        let parts := (String.ofList body).splitOn ":"
        parts.foldlM (fun acc p => (digitsIn 10 p.toList).map (acc * 60 + ·)) 0
      else digitsIn 10 body
  return if neg then -(n : Int) else n

/-- A decimal number text `digits[.digits][e[sign]digits]` as a float, nearest. -/
def readDecimal (neg : Bool) (cs : List Char) : Option Float := do
  let whole := cs.takeWhile Char.isDigit
  let rest := cs.drop whole.length
  let (frac, rest) := match rest with
    | '.' :: more => (more.takeWhile Char.isDigit, more.drop (more.takeWhile Char.isDigit).length)
    | _ => ([], rest)
  if whole.isEmpty && frac.isEmpty then none
  let exp ← match rest with
    | [] => some (0 : Int)
    | e :: more =>
      if e == 'e' then
        let (eneg, ds) := splitSign more
        (digitsIn 10 ds).map fun n => if eneg then -(n : Int) else n
      else none
  let m := (whole ++ frac).foldl (fun a c => a * 10 + (c.toNat - 48)) 0
  return Json.floatOfDecimal neg m (exp - frac.length)

/-- The float of a float scalar: underscores are ignored, case too; `.inf`, `.nan` and base-60
texts are read as such. -/
def readFloat (text : String) : Option Float := do
  let cs := (text.toList.filter (· != '_')).map Char.toLower
  let (neg, body) := splitSign cs
  let sign (x : Float) : Float := if neg then -x else x
  if body == ".inf".toList || body == "inf".toList || body == "infinity".toList then
    return sign (1.0 / 0.0)
  if body == ".nan".toList || body == "nan".toList then return 0.0 / 0.0
  if body.contains ':' then
    let parts := ((String.ofList body).splitOn ":").reverse
    let (total, _) ← parts.foldlM (fun (acc : Float × Float) p => do
      let x ← readDecimal false p.toList
      return (acc.1 + x * acc.2, acc.2 * 60)) (0.0, 1.0)
    return sign total
  readDecimal neg body

/-- The value of a boolean scalar. -/
def readBool (text : String) : Option Bool :=
  let t := text.toLower
  if t == "yes" || t == "true" || t == "on" then some true
  else if t == "no" || t == "false" || t == "off" then some false
  else none

/-- Whether a date text names a day of the calendar. -/
def isCalendarDate (text : String) : Bool :=
  match text.splitOn "-" with
  | [y, m, d] =>
    match digitsIn 10 y.toList, digitsIn 10 m.toList, digitsIn 10 d.toList with
    | some y, some m, some d =>
      let leap := y % 4 == 0 && (y % 100 != 0 || y % 400 == 0)
      let days := if m == 2 then (if leap then 29 else 28)
        else if m == 4 || m == 6 || m == 9 || m == 11 then 30 else 31
      1 ≤ y && 1 ≤ m && m ≤ 12 && 1 ≤ d && d ≤ days
    | _, _, _ => false
  | _ => true

/-- The value of a scalar under its tag. -/
def scalarValue (tag text : String) : Except String Value :=
  let fail : Except String Value := .error ("cannot read " ++ text ++ " as " ++ tag)
  if tag == stdTag "null" then .ok .null
  else if tag == stdTag "bool" then
    match readBool text with
    | some b => .ok (.bool b)
    | none => fail
  else if tag == stdTag "int" then
    match readInt text with
    | some n => .ok (.int n)
    | none => fail
  else if tag == stdTag "float" then
    match readFloat text with
    | some x => .ok (.float x)
    | none => fail
  else if tag == stdTag "str" then .ok (.str text)
  else if tag == stdTag "timestamp" then
    if isCalendarDate (text.take 10).toString then .ok (.str text) else fail
  else .error ("unknown tag " ++ tag)

/-- The text a key stands for in an object. -/
def keyText : Value → Option String
  | .str s => some s
  | .null => some "null"
  | .bool b => some (if b then "true" else "false")
  | .int n => some (toString n)
  | .float x => some (Json.render .compact (.float x))
  | .arr _ => none
  | .obj _ => none

end Questionnaire.Yaml

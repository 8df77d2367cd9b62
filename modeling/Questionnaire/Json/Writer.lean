import Questionnaire.Value.Literal
/-!
# Writing JSON text

A `Layout` fixes the written form: compact on one line, or one item per line indented by a number
of spaces per level; whether characters outside ASCII are written as `\u` escapes (as UTF-16
units, so a character above U+FFFF becomes a surrogate pair); and the two separators. Floats use
the shortest digits that read back, with the words `NaN`, `Infinity` and `-Infinity` for the
non-finite values; empty arrays and objects are `[]` and `{}` in every layout.
-/

namespace Questionnaire.Json

open Decimal

/-- The choices of a written form. -/
structure Layout where
  indent : Option Nat
  asciiOnly : Bool
  itemSep : String
  keySep : String

/-- One line, `, ` between items and `: ` after keys, non-ASCII characters kept. -/
def Layout.compact : Layout := ⟨none, false, ", ", ": "⟩

/-- Two spaces per level, `,` at line ends and `: ` after keys, non-ASCII characters kept. -/
def Layout.pretty : Layout := ⟨some 2, false, ",", ": "⟩

/-- Like `Layout.pretty`, with every character outside ASCII escaped. -/
def Layout.prettyAscii : Layout := ⟨some 2, true, ",", ": "⟩

/-- Floats in JSON text: the shortest digits, positional from `1e-4` below `1e16`, `.0` on
integral values, a signed two-digit exponent, and the words of the extended syntax. -/
def jsonFloatStyle : FloatStyle :=
  { positionalLo := -4, positionalHi := 16, keepPointZero := true, expMark := "e",
    expPlus := true, expDigits := 2, nanText := "NaN", infText := "Infinity",
    negInfText := "-Infinity" }

/-- A `\u` escape of a UTF-16 unit. -/
def unitEscape (u : Nat) : String :=
  "\\u" ++ hexDigits u 4

/-- The written form of one character inside a JSON string. -/
def escapeJsonChar (asciiOnly : Bool) (c : Char) : String :=
  match c with
  | '"' => "\\\""
  | '\\' => "\\\\"
  | '\n' => "\\n"
  | '\r' => "\\r"
  | '\t' => "\\t"
  | '\x08' => "\\b"
  | '\x0c' => "\\f"
  | _ =>
    let n := c.toNat
    if n < 0x20 then unitEscape n
    else if asciiOnly && n > 0x7e then
      if n < 0x10000 then unitEscape n
      else
        let m := n - 0x10000
        unitEscape (0xd800 + m / 0x400) ++ unitEscape (0xdc00 + m % 0x400)
    else String.singleton c

/-- A string in JSON notation. -/
def quoteJson (asciiOnly : Bool) (s : String) : String :=
  "\"" ++ String.join (s.toList.map (escapeJsonChar asciiOnly)) ++ "\""

/-- The line break and indentation before an item at `depth`, or nothing on one line. -/
def Layout.newline (l : Layout) (depth : Nat) : String :=
  match l.indent with
  | some n => "\n" ++ String.ofList (List.replicate (n * depth) ' ')
  | none => ""

mutual

/-- The text of a value at nesting `depth`. -/
def write (l : Layout) (depth : Nat) : Value → String
  | .null => "null"
  | .bool true => "true"
  | .bool false => "false"
  | .int n => toString n
  | .float x => renderFloat jsonFloatStyle x
  | .str s => quoteJson l.asciiOnly s
  | .arr [] => "[]"
  | .arr items => "[" ++ writeItems l (depth + 1) items ++ l.newline depth ++ "]"
  | .obj [] => "\x7b\x7d"
  | .obj fields => "\x7b" ++ writeFields l (depth + 1) fields ++ l.newline depth ++ "\x7d"

/-- Items, each after its line break, separated by the item separator. -/
def writeItems (l : Layout) (depth : Nat) : List Value → String
  | [] => ""
  | [v] => l.newline depth ++ write l depth v
  | v :: rest => l.newline depth ++ write l depth v ++ l.itemSep ++ writeItems l depth rest

/-- Fields as `key: value`, each after its line break, separated by the item separator. -/
def writeFields (l : Layout) (depth : Nat) : List (String × Value) → String
  | [] => ""
  | [(k, v)] => l.newline depth ++ quoteJson l.asciiOnly k ++ l.keySep ++ write l depth v
  | (k, v) :: rest =>
    l.newline depth ++ quoteJson l.asciiOnly k ++ l.keySep ++ write l depth v ++ l.itemSep ++
      writeFields l depth rest

end

/-- The JSON text of a value in a layout. -/
def render (l : Layout) (v : Value) : String :=
  write l 0 v

example : render .compact (.arr [.int 1, .str "é"]) = "[1, \"é\"]" := by decide
example : render .prettyAscii (.obj [("a", .arr [])]) = "\x7b\n  \"a\": []\n\x7d" := by decide

end Questionnaire.Json

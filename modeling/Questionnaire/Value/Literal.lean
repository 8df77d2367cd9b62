import Questionnaire.Value.Basic
import Questionnaire.Decimal.Notation
import Questionnaire.Text.Printable
/-!
# Literal notation of values

Messages, log lines and option labels show values in literal notation: `None`, `True`, `3`,
`2.5`, `'text'`, `[1, 'a']`, `{'k': None}`. A string literal is quoted with `'` unless the string
contains `'` and no `"`; inside it the backslash, the chosen quote, tab, line feed and carriage
return are escaped by a backslash, and other non-printable characters by `\x`, `\u` or `\U`
with lower-case hexadecimal digits.

`Value.text` is the plain text of a value: a string stands for itself, every other value for its
literal.
-/

namespace Questionnaire

open Decimal

/-- Floats in literals: positional from `1e-4` below `1e16`, an integral value keeps `.0`, the
exponent is signed with at least two digits, and the non-finite values are `nan`, `inf` and
`-inf`. -/
def literalFloatStyle : FloatStyle :=
  { positionalLo := -4, positionalHi := 16, keepPointZero := true, expMark := "e",
    expPlus := true, expDigits := 2, nanText := "nan", infText := "inf", negInfText := "-inf" }

/-- Lower-case hexadecimal digits of `n`, padded with zeros to `width`. -/
def hexDigits (n width : Nat) : String :=
  let ds := Nat.toDigits 16 n
  String.ofList (List.replicate (width - ds.length) '0' ++ ds)

/-- The escape of one character inside a literal quoted by `q`. -/
def escapeChar (q : Char) (c : Char) : String :=
  if c = q || c = '\\' then String.ofList ['\\', c]
  else if c = '\t' then "\\t"
  else if c = '\n' then "\\n"
  else if c = '\r' then "\\r"
  else if c.toNat < 0x20 || c.toNat == 0x7f then "\\x" ++ hexDigits c.toNat 2
  else if c.toNat < 0x7f || Text.isPrintable c then String.singleton c
  else if c.toNat < 0x100 then "\\x" ++ hexDigits c.toNat 2
  else if c.toNat < 0x10000 then "\\u" ++ hexDigits c.toNat 4
  else "\\U" ++ hexDigits c.toNat 8

/-- The quote character of a string literal: `"` when the text holds `'` and no `"`. -/
def quoteFor (s : String) : Char :=
  if s.toList.contains '\'' && !s.toList.contains '"' then '"' else '\''

/-- A string in literal notation. -/
def quoteText (s : String) : String :=
  let q := quoteFor s
  String.singleton q ++ String.join (s.toList.map (escapeChar q)) ++ String.singleton q

namespace Value

mutual

/-- The literal notation of a value. -/
def literal : Value → String
  | .null => "None"
  | .bool true => "True"
  | .bool false => "False"
  | .int n => toString n
  | .float x => renderFloat literalFloatStyle x
  | .str s => quoteText s
  | .arr items => "[" ++ literalItems items ++ "]"
  | .obj fields => "\x7b" ++ literalFields fields ++ "\x7d"

/-- Items in literal notation, separated by `, `. -/
def literalItems : List Value → String
  | [] => ""
  | [v] => literal v
  | v :: rest => literal v ++ ", " ++ literalItems rest

/-- Fields in literal notation, `key: value`, separated by `, `. -/
def literalFields : List (String × Value) → String
  | [] => ""
  | [(k, v)] => quoteText k ++ ": " ++ literal v
  | (k, v) :: rest => quoteText k ++ ": " ++ literal v ++ ", " ++ literalFields rest

end

/-- The plain text of a value: a string itself, any other value its literal. -/
def text : Value → String
  | .str s => s
  | v => v.literal

end Value

/-- A list of texts in literal notation, `['a', 'b']`. -/
def listLiteral (xs : List String) : String :=
  (Value.ofStrings xs).literal

example : quoteText "it's" = "\"it's\"" ∧ quoteText "a\nb" = "'a\\nb'" := by decide

end Questionnaire

/-!
# Letter case for comparisons with ASCII words

The library lower-cases or upper-cases a text only to compare it with a fixed ASCII word
(`yes`, `true`, `WARNING`, …). For that purpose a case map only has to be right on the characters
whose full Unicode case mapping is ASCII; every other character maps to something that contains a
non-ASCII character and so never equals such a word. `lowerForMatch` and `upperForMatch` map those
characters as Unicode 14 does and keep all others.
-/

namespace Questionnaire.Text

/-- The full lower case of a character, where it is ASCII: ASCII capitals and the Kelvin sign. -/
def lowerChar (c : Char) : List Char :=
  if c.isUpper then [c.toLower]
  else if c.toNat == 0x212a then ['k']
  else [c]

/-- The full upper case of a character, where it is ASCII: ASCII small letters, dotless i, long s,
sharp s and the Latin ligatures. -/
def upperChar (c : Char) : List Char :=
  if c.isLower then [c.toUpper]
  else match c.toNat with
    | 0xdf => ['S', 'S']
    | 0x131 => ['I']
    | 0x17f => ['S']
    | 0xfb00 => ['F', 'F']
    | 0xfb01 => ['F', 'I']
    | 0xfb02 => ['F', 'L']
    | 0xfb03 => ['F', 'F', 'I']
    | 0xfb04 => ['F', 'F', 'L']
    | 0xfb05 => ['S', 'T']
    | 0xfb06 => ['S', 'T']
    | _ => [c]

/-- A text lower-cased for comparison with ASCII words. -/
def lowerForMatch (s : String) : String :=
  String.ofList (s.toList.flatMap lowerChar)

/-- A text upper-cased for comparison with ASCII words. -/
def upperForMatch (s : String) : String :=
  String.ofList (s.toList.flatMap upperChar)

example : upperForMatch "ınfo" = "INFO" ∧ lowerForMatch "YeS" = "yes" := by decide

end Questionnaire.Text

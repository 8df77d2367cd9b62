import Questionnaire.Text.Blank
/-!
# Digits

Two classes of digit characters (Unicode 14):

* decimal digits (general category Nd): every script's 0 to 9, always in runs of ten consecutive
  code points starting at the digit zero. These are the digits that number reading accepts and
  that the digit class of patterns matches;
* digit-like characters: the decimal digits together with the characters whose numeric type is
  Digit, such as superscripts and circled digits. A text of digit-like characters looks like a
  number, yet reading it as a number fails when it holds one of the latter.

`readInt` reads an integer the way integer texts are read everywhere in the library: blanks around
it, an optional sign, decimal digits of any script, single underscores between digits.
-/

namespace Questionnaire.Text

/-- The code points of the digit zero of every run of decimal digits. -/
def decimalZeros : List Nat :=
  [0x30, 0x660, 0x6f0, 0x7c0, 0x966, 0x9e6, 0xa66, 0xae6, 0xb66, 0xbe6, 0xc66, 0xce6, 0xd66,
   0xde6, 0xe50, 0xed0, 0xf20, 0x1040, 0x1090, 0x17e0, 0x1810, 0x1946, 0x19d0, 0x1a80, 0x1a90,
   0x1b50, 0x1bb0, 0x1c40, 0x1c50, 0xa620, 0xa8d0, 0xa900, 0xa9d0, 0xa9f0, 0xaa50, 0xabf0, 0xff10,
   0x104a0, 0x10d30, 0x11066, 0x110f0, 0x11136, 0x111d0, 0x112f0, 0x11450, 0x114d0, 0x11650,
   0x116c0, 0x11730, 0x118e0, 0x11950, 0x11c50, 0x11d50, 0x11da0, 0x16a60, 0x16ac0, 0x16b50,
   0x1d7ce, 0x1d7d8, 0x1d7e2, 0x1d7ec, 0x1d7f6, 0x1e140, 0x1e2f0, 0x1e950, 0x1fbf0]

/-- Inclusive code point ranges of the characters of numeric type Digit that are not decimal
digits. -/
def digitOnlyRanges : List (Nat × Nat) :=
  [(0xb2, 0xb3), (0xb9, 0xb9), (0x1369, 0x1371), (0x19da, 0x19da), (0x2070, 0x2070),
   (0x2074, 0x2079), (0x2080, 0x2089), (0x2460, 0x2468), (0x2474, 0x247c), (0x2488, 0x2490),
   (0x24ea, 0x24ea), (0x24f5, 0x24fd), (0x24ff, 0x24ff), (0x2776, 0x277e), (0x2780, 0x2788),
   (0x278a, 0x2792), (0x10a40, 0x10a43), (0x10e60, 0x10e68), (0x11052, 0x1105a),
   (0x1f100, 0x1f10a)]

/-- The value of a decimal digit of any script. -/
def decimalValue? (c : Char) : Option Nat :=
  let n := c.toNat
  (decimalZeros.find? (fun z => z ≤ n && n < z + 10)).map (fun z => n - z)

/-- Whether a character is a decimal digit. -/
def isDecimal (c : Char) : Bool :=
  (decimalValue? c).isSome

/-- Whether a character is digit-like: a decimal digit or a character of numeric type Digit. -/
def isDigitLike (c : Char) : Bool :=
  isDecimal c || digitOnlyRanges.any (fun r => r.1 ≤ c.toNat && c.toNat ≤ r.2)

/-- Whether a text is non-empty and digit-like throughout. -/
def isDigitText (s : String) : Bool :=
  !s.isEmpty && s.toList.all isDigitLike

/-- The number written by decimal digits, most significant first; none if one is not a digit. -/
def digitsValue? : List Char → Option Nat
  | [] => some 0
  | cs => cs.foldl (fun acc c => acc.bind fun a => (decimalValue? c).map (a * 10 + ·)) (some 0)

/-- Digits with single underscores between them: the digits, or none. -/
def underscoredDigits : List Char → Option (List Char)
  | [] => none
  | [c] => if isDecimal c then some [c] else none
  | c :: '_' :: d :: more =>
    if isDecimal c && isDecimal d then (underscoredDigits (d :: more)).map (c :: ·) else none
  | c :: d :: more => if isDecimal c then (underscoredDigits (d :: more)).map (c :: ·) else none

/-- Reads an integer: optional blanks, an optional `+` or `-`, decimal digits of any script with
single underscores between digits, optional blanks. -/
def readInt (s : String) : Option Int :=
  let body := dropTrailingBlanks (dropBlanks s.toList)
  let (neg, rest) := match body with
    | '-' :: r => (true, r)
    | '+' :: r => (false, r)
    | r => (false, r)
  match underscoredDigits rest with
  | none => none
  | some ds => (digitsValue? ds).map fun n => if neg then -(n : Int) else n

example : decimalValue? '٣' = some 3 ∧ decimalValue? '３' = some 3 ∧ decimalValue? '²' = none := by
  decide

example : isDigitLike '²' ∧ isDigitLike '①' ∧ !isDecimal '²' := by decide

example : decimalZeros.length = 66 := rfl

end Questionnaire.Text

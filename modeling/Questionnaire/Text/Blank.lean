/-!
# Blank characters

A character is blank when it separates words: the 25 characters of the Unicode White_Space
property together with the four information separators U+001C to U+001F (Unicode 14). This is the
class that trimming, splitting on blanks and the blank class of patterns use throughout the
library. Core's `Char.isWhitespace` knows only six of them.

The main statement: every character that core calls whitespace is blank
(`isBlank_of_isWhitespace`).
-/

namespace Questionnaire.Text

/-- The code points of the blank characters, in increasing order. -/
def blankCodes : List Nat :=
  [0x09, 0x0a, 0x0b, 0x0c, 0x0d, 0x1c, 0x1d, 0x1e, 0x1f, 0x20, 0x85, 0xa0, 0x1680,
   0x2000, 0x2001, 0x2002, 0x2003, 0x2004, 0x2005, 0x2006, 0x2007, 0x2008, 0x2009, 0x200a,
   0x2028, 0x2029, 0x202f, 0x205f, 0x3000]

/-- Whether a character is blank. -/
def isBlank (c : Char) : Bool :=
  blankCodes.contains c.toNat

/-- The characters after the leading blanks. -/
def dropBlanks (cs : List Char) : List Char :=
  cs.dropWhile isBlank

/-- The characters before the trailing blanks. -/
def dropTrailingBlanks (cs : List Char) : List Char :=
  (dropBlanks cs.reverse).reverse

/-- A text without its leading and trailing blanks. -/
def strip (s : String) : String :=
  String.ofList (dropTrailingBlanks (dropBlanks s.toList))

/-- Whether a character has the Unicode White_Space property: a blank other than the four
information separators U+001C to U+001F. -/
def isWhiteSpace (c : Char) : Bool :=
  isBlank c && !(0x1c ≤ c.toNat && c.toNat ≤ 0x1f)

/-- A text without its leading and trailing White_Space characters. -/
def trimWhiteSpace (s : String) : String :=
  String.ofList ((s.toList.dropWhile isWhiteSpace).reverse.dropWhile isWhiteSpace).reverse

/-- A text without its leading blanks. -/
def stripStart (s : String) : String :=
  String.ofList (dropBlanks s.toList)

/-- A text without its trailing blanks. -/
def stripEnd (s : String) : String :=
  String.ofList (dropTrailingBlanks s.toList)

/-- Whether a text holds blanks only (the empty text included). -/
def isBlankText (s : String) : Bool :=
  s.toList.all isBlank

/-- Every character that core's `Char.isWhitespace` accepts is blank. -/
theorem isBlank_of_isWhitespace (c : Char) (h : c.isWhitespace = true) : isBlank c = true := by
  simp only [Char.isWhitespace, Bool.or_eq_true, decide_eq_true_eq] at h
  rcases h with ((h | h) | h) | h <;> subst h <;> decide

example : isBlank ' ' ∧ isBlank '　' ∧ isBlank '\x1c' ∧ !isBlank 'a' ∧ !isBlank '​' := by
  decide

example : blankCodes.length = 29 := rfl

end Questionnaire.Text

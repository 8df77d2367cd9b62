import Questionnaire.Path
import Questionnaire.Value.Compare
import Questionnaire.Value.Literal
import Questionnaire.Json.Reader
import Questionnaire.Text.Case
/-!
# Conditions

A question may depend on an earlier answer through a condition text of one of two forms:

* `path = literal`: the answer at `path` equals the literal;
* `path in [a, b, …]` (the word `in` in any case, with blanks around it): the answer equals one
  of the items.

The grammar, read from the left: blanks; the path, the shortest run of non-blank characters after
which the rest fits; blanks; then either `=`, or a blank, `in` and a blank; then the right side,
the rest without the blanks around it, which must not hold a line break between its first and last
non-blank characters. A right side of blanks only is its last character that is no line break.
A text that does not fit keeps the question always active, and so does an empty or blank one.

A literal is a boolean (`true`/`false` in any case), a number (optional sign, decimal digits of
any script, optional fraction; a float when it has a point), or else a text with one surrounding
quote removed at each end. A list is read as JSON (single quotes taken as double quotes) when
that gives an array, and otherwise cut at commas into quote-stripped texts.

A comparison holds when the answer at the path is present, not null, and strictly equal to the
literal (or to one of the items).
-/

namespace Questionnaire

/-- A parsed condition. -/
inductive Condition where
  /-- Always active; `source` is the text that did not parse, if any. -/
  | always (source : Option String)
  /-- The answer at `left` equals `right`. -/
  | equals (left : String) (right : Value)
  /-- The answer at `left` equals one of `items`. -/
  | oneOf (left : String) (items : List Value)

namespace Condition

open Text

/-- Whether the character matches the letter `i` in any case: `i`, `I`, dotted capital I and
dotless small i. -/
def isLetterI (c : Char) : Bool :=
  c = 'i' || c = 'I' || c.toNat == 0x130 || c.toNat == 0x131

/-- Whether the character matches the letter `n` in any case. -/
def isLetterN (c : Char) : Bool :=
  c = 'n' || c = 'N'

/-- The right side: the text between the first and last non-blank characters when it holds no
line break; for blanks only, the last character that is no line break. -/
def rightSide (cs : List Char) : Option (List Char) :=
  let body := dropTrailingBlanks (dropBlanks cs)
  if body.isEmpty then
    match (cs.reverse.find? (· ≠ '\n')) with
    | some c => some [c]
    | none => none
  else if body.contains '\n' then none
  else some body

/-- The operator and right side after the path: blanks, then `=`, or a blank, `in` and a blank. -/
def afterPath (cs : List Char) : Option (Bool × List Char) :=
  let w := (cs.takeWhile isBlank).length
  let rest := cs.drop w
  let viaEq := match rest with
    | '=' :: t => (rightSide t).map (true, ·)
    | _ => none
  match viaEq with
  | some r => some r
  | none =>
    match rest with
    | i :: n :: b :: t =>
      if 0 < w && isLetterI i && isLetterN n && isBlank b then (rightSide t).map (false, ·)
      else none
    | _ => none

/-- Tries paths of growing length: `taken` is the path so far (reversed), `cs` the rest. -/
def splitFrom : List Char → List Char → Option (List Char × Bool × List Char)
  | _, [] => none
  | taken, c :: rest =>
    if isBlank c then none
    else
      let path := c :: taken
      match afterPath rest with
      | some (isEq, right) => some (path.reverse, isEq, right)
      | none => splitFrom path rest

/-- The path, whether the operator is `=`, and the right side of a condition text. -/
def split (s : String) : Option (String × Bool × String) :=
  (splitFrom [] (dropBlanks s.toList)).map fun (p, e, r) => (String.ofList p, e, String.ofList r)

/-- Removes one quote character (`'` or `"`) at the start and one at the end; the end is the last
character, or the one before a final line break. -/
def stripQuotes (s : String) : String :=
  let isQuote (c : Char) : Bool := c = '"' || c = '\''
  let (front, cs) := match s.toList with
    | c :: rest => if isQuote c then ([], rest) else ([c], rest)
    | [] => ([], [])
  let back := match cs.reverse with
    | '\n' :: c :: restRev => if isQuote c then ('\n' :: restRev).reverse else cs
    | c :: restRev => if isQuote c then restRev.reverse else cs
    | [] => cs
  String.ofList (front ++ back)

/-- Whether a text is `true` or `false` in any case, with the long s matching `s`. -/
def isBoolWord (s : String) : Bool :=
  let fits (word : List Char) : Bool :=
    s.length == word.length &&
      (s.toList.zip word).all fun (c, w) =>
        c.toLower == w || (w = 's' && c.toNat == 0x17f)
  fits "true".toList || fits "false".toList

/-- A number literal: an optional sign, decimal digits, and optionally a point and more digits.
The sign, the integer digits and the fraction digits. -/
def numberParts (cs : List Char) : Option (Bool × List Char × Option (List Char)) :=
  let (neg, body) := match cs with
    | '-' :: r => (true, r)
    | '+' :: r => (false, r)
    | r => (false, r)
  let ints := body.takeWhile isDecimal
  let rest := body.drop ints.length
  if ints.isEmpty then none
  else match rest with
    | [] => some (neg, ints, none)
    | '.' :: frac =>
      if !frac.isEmpty && frac.all isDecimal then some (neg, ints, some frac) else none
    | _ => none

/-- The value of decimal digits of any script. -/
def digitsValue (ds : List Char) : Nat :=
  ds.foldl (fun acc c => acc * 10 + (decimalValue? c).getD 0) 0

/-- A literal: boolean, then number, then quote-stripped text. -/
def literal (token : String) : Value :=
  let t := strip token
  if isBoolWord t then .bool (lowerForMatch t == "true")
  else match numberParts t.toList with
    | some (neg, ints, none) =>
      let n : Int := digitsValue ints
      .int (if neg then -n else n)
    | some (neg, ints, some frac) =>
      .float (Json.floatOfDecimal neg (digitsValue (ints ++ frac)) (-(frac.length : Int)))
    | none => .str (stripQuotes t)

/-- The characters strictly between the first and the last. -/
def inner (s : String) : List Char :=
  (s.toList.drop 1).dropLast

/-- A list literal: JSON with single quotes taken as double quotes when that reads as an array;
otherwise the text between the brackets cut at commas, each part trimmed and quote-stripped, empty
parts dropped. -/
def listLiteral (token : String) : List Value :=
  let asJson := String.ofList (token.toList.map fun c => if c = '\'' then '"' else c)
  match Json.read asJson with
  | .ok (.arr items) => items
  | _ =>
    (Path.splitOn ',' (inner token)).filterMap fun part =>
      let item := stripQuotes (strip (String.ofList part))
      if item.isEmpty then none else some (.str item)

/-- Parses a condition text. -/
def parse (text : String) : Condition :=
  if isBlankText text then .always none
  else match split text with
    | none => .always (some text)
    | some (left, true, right) => .equals left (literal right)
    | some (left, false, right) =>
      if right.startsWith "[" && right.endsWith "]" then .oneOf left (listLiteral right)
      else .oneOf left [.str (stripQuotes right)]

/-- Whether a condition holds for the answers. A comparison needs the answer at its path to be
present and not null. -/
def holds (c : Condition) (answers : Value) : Except Fault Bool :=
  match c with
  | .always _ => .ok true
  | .equals left right =>
    (answers.lookup left).map fun
      | none | some .null => false
      | some v => v.strictEq right
  | .oneOf left items =>
    (answers.lookup left).map fun
      | none | some .null => false
      | some v => items.any v.strictEq

end Condition

/-- Whether a question with the optional condition text is active for the answers. -/
def isActive (dependsOn : Option String) (answers : Value) : Except Fault Bool :=
  match dependsOn with
  | none => .ok true
  | some text => (Condition.parse text).holds answers

end Questionnaire

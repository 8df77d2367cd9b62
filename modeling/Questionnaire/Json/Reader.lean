import Questionnaire.Value.Basic
/-!
# Reading JSON text

The reader accepts JSON together with the three words `NaN`, `Infinity` and `-Infinity`; a number
with a fraction or an exponent is a float, correctly rounded (so `1e400` is infinite), any other
number an integer of any size. Blanks between tokens are space, tab, line feed and carriage
return. A key that appears twice keeps the place of its first occurrence and the value of its
last. Characters below U+0020 are refused inside strings; `\u` escapes combine surrogate pairs.

A failure names what was expected and where, as a character index into the text; its message
adds the line and column (`Expecting value: line 1 column 1 (char 0)`).
-/

namespace Questionnaire.Json

/-- What the reader expected when it failed. -/
inductive ReadErrorKind where
  | expectingValue
  | expectingPropertyName
  | expectingColon
  | expectingComma
  | unterminatedString
  | invalidControlCharacter
  | invalidEscape
  | invalidUnicodeEscape
  | extraData
  | unexpectedBom
deriving DecidableEq, Repr

/-- A reading failure at a character index. -/
structure ReadError where
  kind : ReadErrorKind
  pos : Nat
deriving DecidableEq, Repr

/-- The words of each failure. -/
def ReadErrorKind.words : ReadErrorKind → String
  | .expectingValue => "Expecting value"
  | .expectingPropertyName => "Expecting property name enclosed in double quotes"
  | .expectingColon => "Expecting ':' delimiter"
  | .expectingComma => "Expecting ',' delimiter"
  | .unterminatedString => "Unterminated string starting at"
  | .invalidControlCharacter => "Invalid control character at"
  | .invalidEscape => "Invalid \\escape"
  | .invalidUnicodeEscape => "Invalid \\uXXXX escape"
  | .extraData => "Extra data"
  | .unexpectedBom => "Unexpected UTF-8 BOM (decode using utf-8-sig)"

/-- The message of a failure in `text`: the words, then the line and column of the index (both
counted from one) and the index itself. -/
def ReadError.message (e : ReadError) (text : String) : String :=
  let before := text.toList.take e.pos
  let line := before.count '\n' + 1
  let col := match (before.reverse.findIdx? (· = '\n')) with
    | some i => i + 1
    | none => e.pos + 1
  e.kind.words ++ ": line " ++ toString line ++ " column " ++ toString col ++ " (char " ++
    toString e.pos ++ ")"

/-- The rest of the text with its index. -/
abbrev Cursor := List Char × Nat

/-- Blanks between tokens. -/
def isJsonBlank (c : Char) : Bool :=
  c = ' ' || c = '\t' || c = '\n' || c = '\r'

/-- Skips blanks. -/
def skipBlanks : Cursor → Cursor
  | (c :: rest, i) => if isJsonBlank c then skipBlanks (rest, i + 1) else (c :: rest, i)
  | ([], i) => ([], i)

/-- The value of a hexadecimal digit. -/
def hexValue? (c : Char) : Option Nat :=
  if '0' ≤ c && c ≤ '9' then some (c.toNat - '0'.toNat)
  else if 'a' ≤ c && c ≤ 'f' then some (c.toNat - 'a'.toNat + 10)
  else if 'A' ≤ c && c ≤ 'F' then some (c.toNat - 'A'.toNat + 10)
  else none

/-- Four hexadecimal digits as a number. -/
def hex4? : List Char → Option Nat
  | [a, b, c, d] => do
    let a ← hexValue? a
    let b ← hexValue? b
    let c ← hexValue? c
    let d ← hexValue? d
    pure (((a * 16 + b) * 16 + c) * 16 + d)
  | _ => none

/-- The character of a code point; a lone surrogate, which no text can hold, becomes U+FFFD. -/
def charOfCode (n : Nat) : Char :=
  if 0xd800 ≤ n && n < 0xe000 then Char.ofNat 0xfffd else Char.ofNat n

/-- The character a one-letter escape stands for. -/
def simpleEscape? : Char → Option Char
  | '"' => some '"'
  | '\\' => some '\\'
  | '/' => some '/'
  | 'b' => some '\x08'
  | 'f' => some '\x0c'
  | 'n' => some '\n'
  | 'r' => some '\r'
  | 't' => some '\t'
  | _ => none

/-- Reads the body of a string that opened at index `start`, up to and including the closing
quote; `total` is the length of the whole text and `i` the index of the first character given. -/
def readStringBody (total start : Nat) : List Char → Nat → List Char →
    Except ReadError (String × Cursor)
  | [], _, _ => .error ⟨.unterminatedString, start⟩
  | '"' :: rest, i, acc => .ok (String.ofList acc.reverse, (rest, i + 1))
  | ['\\'], _, _ => .error ⟨.unterminatedString, start⟩
  | '\\' :: 'u' :: a :: b :: c :: d :: tail, i, acc =>
    -- the four digits must be followed by at least one more character
    if i + 6 ≥ total then .error ⟨.invalidUnicodeEscape, i + 1⟩
    else
      match hex4? [a, b, c, d] with
      | none => .error ⟨.invalidUnicodeEscape, i + 1⟩
      | some hi =>
        let single := readStringBody total start tail (i + 6) (charOfCode hi :: acc)
        if 0xd800 ≤ hi && hi < 0xdc00 && i + 12 < total then
          match _hT : tail with
          | '\\' :: 'u' :: e :: f :: g :: h :: tail2 =>
            match hex4? [e, f, g, h] with
            | none => .error ⟨.invalidUnicodeEscape, i + 7⟩
            | some lo =>
              if 0xdc00 ≤ lo && lo < 0xe000 then
                let code := 0x10000 + (hi - 0xd800) * 0x400 + (lo - 0xdc00)
                readStringBody total start tail2 (i + 12) (Char.ofNat code :: acc)
              else single
          | _ => single
        else single
  | '\\' :: 'u' :: _, i, _ => .error ⟨.invalidUnicodeEscape, i + 1⟩
  | '\\' :: e :: more, i, acc =>
    match simpleEscape? e with
    | some c => readStringBody total start more (i + 2) (c :: acc)
    | none => .error ⟨.invalidEscape, i⟩
  | c :: rest, i, acc =>
    if c.toNat < 0x20 then .error ⟨.invalidControlCharacter, i⟩
    else readStringBody total start rest (i + 1) (c :: acc)
termination_by cs => cs.length
decreasing_by all_goals (simp_all; try omega)

/-- Whether a character is an ASCII digit. -/
def isAsciiDigit (c : Char) : Bool := '0' ≤ c && c ≤ '9'

/-- The number written by ASCII digits. -/
def asciiDigitsValue (ds : List Char) : Nat :=
  ds.foldl (fun acc c => acc * 10 + (c.toNat - '0'.toNat)) 0

/-- The float nearest to `m · 10^e`, with the sign; far out of range it is infinite or zero. -/
def floatOfDecimal (neg : Bool) (m : Nat) (e : Int) : Float :=
  let digits : Int := (toString m).length
  let x :=
    if m == 0 then 0.0
    else if e + digits > 400 then Float.ofScientific 1 false 400
    else if e + digits < -400 then 0.0
    else if e ≥ 0 then Float.ofScientific m false e.toNat
    else Float.ofScientific m true (-e).toNat
  if neg then -x else x

/-- Reads a number: an optional minus, an integer part without leading zeros, an optional
fraction and an optional exponent; a fraction or exponent without digits is left unread. -/
def readNumber (cs : List Char) (i : Nat) : Option (Value × Cursor) :=
  let (neg, afterSign) := match cs with
    | '-' :: r => (true, r)
    | r => (false, r)
  let signLen := if neg then 1 else 0
  let intDigits := match afterSign with
    | '0' :: _ => ['0']
    | r => r.takeWhile isAsciiDigit
  if intDigits.isEmpty then none
  else
    let r1 := afterSign.drop intDigits.length
    let (fracDigits, r2) := match r1 with
      | '.' :: d :: more =>
        if isAsciiDigit d then
          let ds := d :: more.takeWhile isAsciiDigit
          (some ds, r1.drop (ds.length + 1))
        else (none, r1)
      | _ => (none, r1)
    let fracLen := match fracDigits with
      | some ds => ds.length + 1
      | none => 0
    let (expPart, r3) := match r2 with
      | e :: more =>
        if e = 'e' || e = 'E' then
          let (eneg, signed, afterExpSign) := match more with
            | '-' :: r => (true, 1, r)
            | '+' :: r => (false, 1, r)
            | r => (false, 0, r)
          let ds := afterExpSign.takeWhile isAsciiDigit
          if ds.isEmpty then (none, r2)
          else (some (eneg, ds), r2.drop (1 + signed + ds.length))
        else (none, r2)
      | [] => (none, r2)
    let expLen := match expPart with
      | some (_, ds) => ds.length + 1 + (r2.length - r3.length - ds.length - 1)
      | none => 0
    let consumed := signLen + intDigits.length + fracLen + expLen
    match fracDigits, expPart with
    | none, none =>
      let n : Int := asciiDigitsValue intDigits
      some (.int (if neg then -n else n), (r3, i + consumed))
    | _, _ =>
      let frac := fracDigits.getD []
      let m := asciiDigitsValue (intDigits ++ frac)
      let e10 : Int := match expPart with
        | some (eneg, ds) => if eneg then -(asciiDigitsValue ds : Int) else asciiDigitsValue ds
        | none => 0
      some (.float (floatOfDecimal neg m (e10 - frac.length)), (r3, i + consumed))

/-- Whether `word` starts the characters. -/
def startsWith (cs word : List Char) : Bool :=
  cs.take word.length == word

mutual

/-- Reads one value at the cursor (no blanks skipped). `fuel` bounds the nesting and the number of
items, each of which consumes input, so the length of the text plus one always suffices. -/
def readValue (total : Nat) : Nat → Cursor → Except ReadError (Value × Cursor)
  | 0, (_, i) => .error ⟨.expectingValue, i⟩
  | fuel + 1, (cs, i) =>
    match cs with
    | '"' :: rest => (readStringBody total i rest (i + 1) []).map fun (s, c) => (.str s, c)
    | '{' :: rest => readObject total fuel (skipBlanks (rest, i + 1)) []
    | '[' :: rest => readArray total fuel (skipBlanks (rest, i + 1)) []
    | _ =>
      if startsWith cs "null".toList then .ok (.null, (cs.drop 4, i + 4))
      else if startsWith cs "true".toList then .ok (.bool true, (cs.drop 4, i + 4))
      else if startsWith cs "false".toList then .ok (.bool false, (cs.drop 5, i + 5))
      else if startsWith cs "NaN".toList then .ok (.float (0.0 / 0.0), (cs.drop 3, i + 3))
      else if startsWith cs "Infinity".toList then
        .ok (.float (1.0 / 0.0), (cs.drop 8, i + 8))
      else if startsWith cs "-Infinity".toList then
        .ok (.float (-1.0 / 0.0), (cs.drop 9, i + 9))
      else
        match readNumber cs i with
        | some r => .ok r
        | none => .error ⟨.expectingValue, i⟩

/-- Reads array items after `[` and its blanks; `acc` holds the items so far, reversed. -/
def readArray (total : Nat) : Nat → Cursor → List Value → Except ReadError (Value × Cursor)
  | 0, (_, i), _ => .error ⟨.expectingValue, i⟩
  | fuel + 1, (cs, i), acc =>
    match cs, acc with
    | ']' :: rest, [] => .ok (.arr [], (rest, i + 1))
    | _, _ =>
      match readValue total fuel (cs, i) with
      | .error e => .error e
      | .ok (v, c) =>
        match skipBlanks c with
        | (']' :: rest, j) => .ok (.arr (v :: acc).reverse, (rest, j + 1))
        | (',' :: rest, j) => readArray total fuel (skipBlanks (rest, j + 1)) (v :: acc)
        | (_, j) => .error ⟨.expectingComma, j⟩

/-- Reads object members after `{` and its blanks; `acc` holds the fields so far. -/
def readObject (total : Nat) : Nat → Cursor → List (String × Value) →
    Except ReadError (Value × Cursor)
  | 0, (_, i), _ => .error ⟨.expectingValue, i⟩
  | fuel + 1, (cs, i), acc =>
    match cs, acc with
    | '}' :: rest, [] => .ok (.obj [], (rest, i + 1))
    | '"' :: rest, _ =>
      match readStringBody total i rest (i + 1) [] with
      | .error e => .error e
      | .ok (key, c) =>
        match skipBlanks c with
        | (':' :: rest', j) =>
          match readValue total fuel (skipBlanks (rest', j + 1)) with
          | .error e => .error e
          | .ok (v, c') =>
            let acc' := Value.fieldSet acc key v
            match skipBlanks c' with
            | ('}' :: rest'', k) => .ok (.obj acc', (rest'', k + 1))
            | (',' :: rest'', k) => readObject total fuel (skipBlanks (rest'', k + 1)) acc'
            | (_, k) => .error ⟨.expectingComma, k⟩
        | (_, j) => .error ⟨.expectingColon, j⟩
    | _, _ => .error ⟨.expectingPropertyName, i⟩

end

/-- Reads a whole text as one value, with blanks allowed around it. -/
def read (text : String) : Except ReadError Value :=
  let cs := text.toList
  match cs with
  | '﻿' :: _ => .error ⟨.unexpectedBom, 0⟩
  | _ =>
    let total := cs.length
    match readValue total (total + 1) (skipBlanks (cs, 0)) with
    | .error e => .error e
    | .ok (v, c) =>
      match skipBlanks c with
      | ([], _) => .ok v
      | (_, j) => .error ⟨.extraData, j⟩

end Questionnaire.Json

import Questionnaire.Pattern.Search
import Questionnaire.Text.Case
/-!
# String formats

The `format` keyword names a kind of string; a string of another kind fails the check, and values
that are not strings always pass. The kinds checked are those of the reference checker with its
optional libraries: addresses (`ipv4`, `ipv6`), dates and times in RFC 3339 form, URIs and URI
references in RFC 3986 form, e-mail addresses (anything with an `@`), host names, JSON pointers,
UUIDs and regular expressions. Other format names are not checked.

Where the reference library matches with an anchored regular expression whose `$` also matches
before a final newline, the checks here accept that one trailing newline too.
-/

namespace Questionnaire.Schema.Format

/-- Whether a character is an ASCII letter. -/
def isAsciiAlpha (c : Char) : Bool :=
  ('a' ≤ c && c ≤ 'z') || ('A' ≤ c && c ≤ 'Z')

/-- Whether a character is an ASCII digit. -/
def isAsciiDigit (c : Char) : Bool :=
  '0' ≤ c && c ≤ '9'

/-- Whether a character is a hexadecimal digit. -/
def isHexDigit (c : Char) : Bool :=
  isAsciiDigit c || ('a' ≤ c && c ≤ 'f') || ('A' ≤ c && c ≤ 'F')

/-- The value of ASCII decimal digits. -/
def digitsValue (cs : List Char) : Nat :=
  cs.foldl (fun acc c => acc * 10 + (c.toNat - '0'.toNat)) 0

/-- A text without the one newline that may end it. -/
def dropFinalNewline (s : String) : List Char :=
  match s.toList.reverse with
  | '\n' :: rest => rest.reverse
  | _ => s.toList

/-! ## Addresses -/

/-- One octet of a dotted IPv4 address: one to three ASCII digits, no leading zero, at most
255. -/
def isOctet (cs : List Char) : Bool :=
  !cs.isEmpty && cs.all isAsciiDigit && cs.length ≤ 3 &&
    (cs == ['0'] || cs.head? != some '0') && digitsValue cs ≤ 255

/-- Whether a text is a dotted IPv4 address: four octets. -/
def isIpv4Chars (cs : List Char) : Bool :=
  match cs.splitOn '.' with
  | [a, b, c, d] => isOctet a && isOctet b && isOctet c && isOctet d
  | _ => false

/-- Whether a text is an IPv4 address. -/
def isIpv4 (s : String) : Bool :=
  isIpv4Chars s.toList

/-- One group of an IPv6 address as the address reader takes it: one to four hexadecimal
digits. -/
def isHextet (cs : List Char) : Bool :=
  !cs.isEmpty && cs.length ≤ 4 && cs.all isHexDigit

/-- Whether the colon-separated parts of an IPv6 address (an IPv4 tail already counted as two
parts) form an address: eight groups, or fewer with one `::` standing for the missing ones. -/
def ipv6Parts (parts : List (List Char)) : Bool :=
  let n := parts.length
  if n < 3 || n > 9 then false
  else
    let inner := (parts.drop 1).take (n - 2)
    let gaps := (List.range inner.length).filter fun i => (inner[i]?).getD [] == []
    match gaps with
    | [] =>
      n == 8 && parts.all isHextet
    | [g] =>
      let skip := g + 1
      let hiCount := if parts.head? == some [] then skip - 1 else skip
      let loCount := if parts.getLast? == some [] then n - skip - 2 else n - skip - 1
      let leadOk := parts.head? != some [] || hiCount == 0
      let trailOk := parts.getLast? != some [] || loCount == 0
      leadOk && trailOk && hiCount + loCount < 8 &&
        (parts.take skip).all (fun p => p == [] || isHextet p) &&
        ((parts.take skip).filter (· != [])).length == hiCount &&
        (parts.drop (skip + 1)).all (fun p => p == [] || isHextet p) &&
        ((parts.drop (skip + 1)).filter (· != [])).length == loCount
    | _ => false

/-- Whether a text is an IPv6 address without a zone. -/
def isIpv6 (s : String) : Bool :=
  let cs := s.toList
  if cs.contains '%' || cs.contains '/' || cs.isEmpty then false
  else
    let parts := cs.splitOn ':'
    if parts.length < 3 then false else
    match parts.getLast? with
    | some last =>
      if last.contains '.' then
        isIpv4Chars last && ipv6Parts (parts.dropLast ++ [['0'], ['0']])
      else ipv6Parts parts
    | none => false

/-! ## Dates and times -/

/-- Whether a year is a leap year. -/
def isLeap (y : Nat) : Bool :=
  y % 4 == 0 && (y % 100 != 0 || y % 400 == 0)

/-- The number of days of a month. -/
def daysIn (y m : Nat) : Nat :=
  match m with
  | 2 => if isLeap y then 29 else 28
  | 4 | 6 | 9 | 11 => 30
  | _ => 31

/-- Whether year, month and day name a day of the calendar. -/
def isDay (y m d : Nat) : Bool :=
  y ≥ 1 && 1 ≤ m && m ≤ 12 && 1 ≤ d && d ≤ daysIn y m

/-- Whether a text is a date `YYYY-MM-DD`. -/
def isDate (s : String) : Bool :=
  match s.toList with
  | [y1, y2, y3, y4, '-', m1, m2, '-', d1, d2] =>
    [y1, y2, y3, y4, m1, m2, d1, d2].all isAsciiDigit &&
      isDay (digitsValue [y1, y2, y3, y4]) (digitsValue [m1, m2]) (digitsValue [d1, d2])
  | _ => false

/-- Whether two characters are digits making an hour `00` to `23`. -/
def isHour (a b : Char) : Bool :=
  isAsciiDigit a && isAsciiDigit b && digitsValue [a, b] ≤ 23

/-- Whether two characters are digits making a minute or second `00` to `59`. -/
def isSixty (a b : Char) : Bool :=
  isAsciiDigit a && isAsciiDigit b && digitsValue [a, b] ≤ 59

/-- Whether the text after the seconds of an RFC 3339 time is a fraction and an offset. -/
def isFractionAndOffset (cs : List Char) : Bool :=
  let rest := match cs with
    | '.' :: more =>
      let ds := more.takeWhile isAsciiDigit
      if ds.isEmpty then none else some (more.drop ds.length)
    | _ => some cs
  match rest with
  | some ['Z'] => true
  | some [sign, h1, h2, ':', m1, m2] =>
    (sign == '+' || sign == '-') && isHour h1 h2 && isAsciiDigit m2 && '0' ≤ m1 && m1 ≤ '5'
  | _ => false

/-- Whether an upper-cased text is an RFC 3339 date-time. -/
def isDateTimeUpper (cs : List Char) : Bool :=
  match cs with
  | y1 :: y2 :: y3 :: y4 :: '-' :: m1 :: m2 :: '-' :: d1 :: d2 :: 'T' ::
      h1 :: h2 :: ':' :: n1 :: n2 :: ':' :: s1 :: s2 :: rest =>
    [y1, y2, y3, y4, m1, m2, d1, d2].all isAsciiDigit &&
      ((m1 == '0' && '1' ≤ m2) || (m1 == '1' && m2 ≤ '2')) &&
      isHour h1 h2 && isSixty n1 n2 && isSixty s1 s2 && isFractionAndOffset rest &&
      isDay (digitsValue [y1, y2, y3, y4]) (digitsValue [m1, m2]) (digitsValue [d1, d2])
  | _ => false

/-- Whether a text is an RFC 3339 date-time, letters in either case. -/
def isDateTime (s : String) : Bool :=
  isDateTimeUpper (dropFinalNewline (Text.upperForMatch s))

/-- Whether a text is an RFC 3339 time, with its offset. -/
def isTime (s : String) : Bool :=
  isDateTime ("1970-01-01T" ++ s)

/-! ## URIs -/

/-- Whether a character is unreserved in a URI. -/
def isUnreserved (c : Char) : Bool :=
  isAsciiAlpha c || isAsciiDigit c || c == '-' || c == '.' || c == '_' || c == '~'

/-- Whether a character is a sub-delimiter in a URI. -/
def isSubDelim (c : Char) : Bool :=
  "!$&'()*+,;=".toList.contains c

/-- Whether a text consists of characters allowed by `ok` and percent-encoded octets. -/
def allEncoded (ok : Char → Bool) : List Char → Bool
  | [] => true
  | '%' :: a :: b :: rest => isHexDigit a && isHexDigit b && allEncoded ok rest
  | '%' :: _ => false
  | c :: rest => ok c && allEncoded ok rest

/-- Whether a character may stand in a path segment. -/
def isPathChar (c : Char) : Bool :=
  isUnreserved c || isSubDelim c || c == ':' || c == '@'

/-- Whether a character may stand in a query or a fragment. -/
def isQueryChar (c : Char) : Bool :=
  isPathChar c || c == '/' || c == '?'

/-- Whether a text is an IPv6 address in the URI grammar. -/
def isUriIpv6 (cs : List Char) : Bool :=
  let isH16 (p : List Char) : Bool := !p.isEmpty && p.length ≤ 4 && p.all isHexDigit
  let isStrictOctet (p : List Char) : Bool :=
    !p.isEmpty && p.length ≤ 3 && p.all isAsciiDigit && (p.length == 1 || p.head? != some '0') &&
      digitsValue p ≤ 255
  let isStrictIpv4 (p : List Char) : Bool :=
    match p.splitOn '.' with
    | [a, b, c, d] => isStrictOctet a && isStrictOctet b && isStrictOctet c && isStrictOctet d
    | _ => false
  -- the units of a run of groups; the last group may be an IPv4 address counting two
  let units (p : List Char) (tailMayBeIpv4 : Bool) : Option Nat :=
    if p.isEmpty then some 0
    else
      let gs := p.splitOn ':'
      let front := gs.dropLast
      match gs.getLast? with
      | some last =>
        if front.all isH16 then
          if isH16 last then some gs.length
          else if tailMayBeIpv4 && isStrictIpv4 last then some (gs.length + 1)
          else none
        else none
      | none => none
  let rec findGap : List Char → List Char → Option (List Char × List Char)
    | ':' :: ':' :: rest, acc => some (acc.reverse, rest)
    | c :: rest, acc => findGap rest (c :: acc)
    | [], _ => none
  match findGap cs [] with
  | none => units cs true == some 8
  | some (left, right) =>
    match units left false, units right true with
    | some l, some r =>
      l + r ≤ 7
    | _, _ => false

/-- Whether a text is an authority: optional user information and `@`, a host, and optionally a
colon with decimal digits. -/
def isAuthority (cs : List Char) : Bool :=
  let (userinfo, hostport) := match cs.splitOn '@' with
    | [h] => (none, h)
    | [u, h] => (some u, h)
    | _ => (some ['@'], [])
  let userOk := match userinfo with
    | none => true
    | some u => !u.contains '@' && allEncoded (fun c => isUnreserved c || isSubDelim c || c == ':') u
  let suffixOk (p : List Char) : Bool :=
    match p with
    | [] => true
    | ':' :: ds => ds.all isAsciiDigit
    | _ => false
  let hostOk := match hostport with
    | '[' :: rest =>
      let inside := rest.takeWhile (· != ']')
      let after := rest.drop inside.length
      match after with
      | ']' :: suffix =>
        suffixOk suffix &&
          (isUriIpv6 inside ||
            match inside with
            | 'v' :: more =>
              let hex := more.takeWhile isHexDigit
              match more.drop hex.length with
              | '.' :: tail => !hex.isEmpty && !tail.isEmpty &&
                  tail.all fun c => isUnreserved c || isSubDelim c || c == ':'
              | _ => false
            | _ => false)
      | _ => false
    | _ =>
      let name := hostport.takeWhile (· != ':')
      allEncoded (fun c => isUnreserved c || isSubDelim c) name &&
        suffixOk (hostport.drop name.length)
  userOk && hostOk

/-- Whether a text is the part of a URI before its query: an authority and a path, or a path. -/
def isHierPart (cs : List Char) (noScheme : Bool) : Bool :=
  match cs with
  | '/' :: '/' :: rest =>
    let auth := rest.takeWhile (· != '/')
    isAuthority auth && allEncoded (fun c => isPathChar c || c == '/') (rest.drop auth.length)
  | _ =>
    allEncoded (fun c => isPathChar c || c == '/') cs &&
      (!noScheme || cs.head? == some '/' || !(cs.takeWhile (· != '/')).contains ':')

/-- Whether a text is a query and fragment part, each optional: `?query`, `#fragment`. -/
def splitQuery (cs : List Char) : List Char × Bool :=
  let hier := cs.takeWhile fun c => c != '?' && c != '#'
  let rest := cs.drop hier.length
  (hier, allEncoded (fun c => isQueryChar c || c == '#') rest &&
    (match rest with | [] => true | c :: _ => c == '?' || c == '#') &&
    ((rest.dropWhile (· != '#')).drop 1).all (· != '#'))

/-- Whether a text is an absolute URI. -/
def isUriChars (cs : List Char) : Bool :=
  let scheme := cs.takeWhile (· != ':')
  match cs.drop scheme.length with
  | ':' :: rest =>
    match scheme with
    | c :: more =>
      isAsciiAlpha c && more.all (fun d => isAsciiAlpha d || isAsciiDigit d || d == '+' ||
        d == '-' || d == '.') &&
        let (hier, tailOk) := splitQuery rest
        tailOk && isHierPart hier false
    | [] => false
  | _ => false

/-- Whether a text is a URI. -/
def isUri (s : String) : Bool :=
  isUriChars (dropFinalNewline s)

/-- Whether a text is a URI reference: a URI or a relative reference. -/
def isUriReference (s : String) : Bool :=
  let cs := dropFinalNewline s
  isUriChars cs ||
    let (hier, tailOk) := splitQuery cs
    tailOk && isHierPart hier true

/-! ## Other formats -/

/-- Whether a text is a JSON pointer: empty, or `/`-separated tokens where `~` is always followed
by `0` or `1`. -/
def isJsonPointer (s : String) : Bool :=
  let rec escapesOk : List Char → Bool
    | '~' :: c :: rest => (c == '0' || c == '1') && escapesOk rest
    | ['~'] => false
    | _ :: rest => escapesOk rest
    | [] => true
  escapesOk s.toList && (s.isEmpty || s.front == '/')

/-- Whether a text is a relative JSON pointer: a number without leading zeros, then `#` or a JSON
pointer. -/
def isRelativeJsonPointer (s : String) : Bool :=
  let cs := s.toList
  let ds := cs.takeWhile Text.isDigitLike
  let rest := cs.drop ds.length
  !ds.isEmpty && (ds.zip ds.tail).all (fun (a, _) => Text.decimalValue? a != some 0) &&
    (rest == ['#'] || isJsonPointer (String.ofList rest))

/-- Hexadecimal digits after the first one, single underscores allowed between them. -/
def hexDigitsAfter : List Char → Bool
  | [] => true
  | '_' :: c :: rest => isHexDigit c && hexDigitsAfter rest
  | c :: rest => isHexDigit c && hexDigitsAfter rest

/-- A run of hexadecimal digits with single underscores between them. -/
def hexRun : List Char → Bool
  | c :: rest => isHexDigit c && hexDigitsAfter rest
  | [] => false

/-- Whether a text reads as a hexadecimal number: blanks around, a sign, a `0x` prefix (which
may be followed by an underscore) and single underscores between digits allowed. -/
def isHexNumber (s : String) : Bool :=
  let cs := (Text.strip s).toList
  let cs := match cs with
    | '+' :: r => r
    | '-' :: r => r
    | r => r
  match cs with
  | '0' :: x :: r =>
    if x == 'x' || x == 'X' then
      match r with
      | '_' :: r' => hexRun r'
      | _ => hexRun r
    else hexRun cs
  | _ => hexRun cs

/-- Whether a text is a UUID in its hyphenated form. -/
def isUuid (s : String) : Bool :=
  let t := (s.replace "urn:" "").replace "uuid:" ""
  let t := String.ofList ((t.toList.dropWhile (fun c => c == '{' || c == '}')).reverse.dropWhile
    (fun c => c == '{' || c == '}')).reverse
  let t := t.replace "-" ""
  t.length == 32 && isHexNumber t &&
    [8, 13, 18, 23].all fun i => s.toList[i]? == some '-'

/-- Whether a text is a host name: dot-separated labels of letters, digits and hyphens, none
starting or ending with a hyphen, at most 253 characters without a final dot. -/
def isHostName (s : String) : Bool :=
  let lowered := Text.lowerForMatch s
  let length := if lowered.endsWith "." then lowered.length - 1 else lowered.length
  !s.isEmpty && length ≤ 253 &&
    (Pattern.search "(?i)^((?![-])[-A-Z\\d]{1,63}(?<!-)[.])*(?!-)[-A-Z\\d]{1,63}(?<!-)[.]?$"
      lowered == some true)

/-- Whether a text passes the check of a format; unknown formats pass. -/
def conforms (format s : String) : Bool :=
  match format with
  | "email" | "idn-email" => s.toList.contains '@'
  | "ipv4" => isIpv4 s
  | "ipv6" => isIpv6 s
  | "date" => isDate s
  | "date-time" => isDateTime s
  | "time" => isTime s
  | "uri" => isUri s
  | "uri-reference" => isUriReference s
  | "regex" => Pattern.isValid s
  | "json-pointer" => isJsonPointer s
  | "relative-json-pointer" => isRelativeJsonPointer s
  | "uuid" => isUuid s
  | "hostname" => isHostName s
  | _ => true

example : isUri "https://example.com/logo.png" ∧ !isUri "not a uri at all" ∧
    !isUri "/relative/path" ∧ isUriReference "/relative/path" ∧ !isUri "x y" ∧
    isDate "2024-02-29" ∧ !isDate "2023-02-29" ∧ isIpv4 "1.2.3.4" ∧ !isIpv4 "1.2.3" ∧
    !isIpv4 "01.2.3.4" ∧ isIpv6 "::1" ∧ isIpv6 "1:2:3:4:5:6:7:8" ∧ !isIpv6 "1:2:3:4:5:6:7:8:9" ∧
    isIpv6 "::ffff:1.2.3.4" ∧ !isIpv6 ":1::2" ∧ isDateTime "2024-01-01t10:00:00z" := by
  decide +kernel

end Questionnaire.Schema.Format

/-!
# YAML tokens

A YAML text is read as tokens, then as a tree of nodes, then as values. This module holds the
tokens and reads them off the text.

Block structure is carried by indentation. Reading keeps a stack of indentation columns; a
token at a column deeper than the current one opens a block mapping or sequence
(`blockMappingStart`, `blockSequenceStart`), and a token at a shallower column closes blocks
(`blockEnd`). Inside `[...]` and `{...}` (the flow context) indentation plays no part.

A mapping key is usually written without the `?` indicator: `name: value`. Such a *simple key*
is only known to be a key when the `:` after it is seen, so reading remembers, per flow
level, where the last token that may start a simple key stands, and inserts the `key` token
there when the `:` comes. A simple key must fit on one line and in 1024 characters; a remembered
position that no longer can be a key is dropped, or is an error when a key was required there
(a token at the very indentation column of a block mapping).

Errors are reported as a text; the reader of a document only needs to know that the text is not
YAML.
-/

namespace Questionnaire.Yaml

/-- A YAML token. -/
inductive Token where
  | streamStart
  | streamEnd
  | directive (name : String) (value : List String)
  | documentStart
  | documentEnd
  | blockSequenceStart
  | blockMappingStart
  | blockEnd
  | flowSequenceStart
  | flowSequenceEnd
  | flowMappingStart
  | flowMappingEnd
  | blockEntry
  | flowEntry
  | key
  | value
  | alias (name : String)
  | anchor (name : String)
  | tag (handle : Option String) (suffix : String)
  /-- A scalar: its text, whether it was written plain, and its style character. -/
  | scalar (text : String) (plain : Bool) (style : Char)
deriving DecidableEq, Repr, Inhabited

/-- A remembered position that may start a simple key. -/
structure SimpleKey where
  tokenNumber : Nat
  required : Bool
  index : Nat
  line : Nat
  column : Nat
deriving Repr

/-- The state of reading tokens: the text and position, the flow level, the tokens so far, the
indentation stack and the possible simple keys. -/
structure TokenState where
  text : Array Char
  index : Nat := 0
  line : Nat := 0
  column : Nat := 0
  flowLevel : Nat := 0
  tokens : Array Token := #[Token.streamStart]
  indent : Int := -1
  indents : List Int := []
  allowSimpleKey : Bool := true
  /-- The possible simple keys, by flow level. -/
  keys : List (Nat × SimpleKey) := []
  done : Bool := false

/-- A step of reading tokens. -/
abbrev Tokenizing := StateT TokenState (Except String)

/-- Whether a character ends a line. -/
def isBreak (c : Char) : Bool :=
  c == '\r' || c == '\n' || c == '\x85' || c == '\u2028' || c == '\u2029'

/-- Whether a character ends a line or the text (`\x00` stands for the end). -/
def isBreakOrEnd (c : Char) : Bool :=
  c == '\x00' || isBreak c

/-- Whether a character is blank, ends a line or ends the text. -/
def isBlankOrEnd (c : Char) : Bool :=
  c == ' ' || c == '\t' || isBreakOrEnd c

/-- Whether a character is a hexadecimal digit. -/
def isHexChar (c : Char) : Bool :=
  c.isDigit || ('a' ≤ c && c ≤ 'f') || ('A' ≤ c && c ≤ 'F')

/-- Whether a character may stand in an anchor name. -/
def isAnchorChar (c : Char) : Bool :=
  c.isAlphanum && c.toNat < 128 || c == '-' || c == '_'

/-- Whether a character may stand in the text at all: tab, line ends and printable
characters. -/
def isAcceptable (c : Char) : Bool :=
  let n := c.toNat
  n == 0x9 || n == 0xa || n == 0xd || (0x20 ≤ n && n ≤ 0x7e) || n == 0x85 ||
    (0xa0 ≤ n && n ≤ 0xd7ff) || (0xe000 ≤ n && n ≤ 0xfffd) || (0x10000 ≤ n && n ≤ 0x10ffff)

namespace Tokenizing

/-- The character `k` places ahead; `\x00` past the end. -/
def peekAt (k : Nat) : Tokenizing Char := do
  let s ← get
  return (s.text[s.index + k]?).getD '\x00'

/-- The next character. -/
def peek : Tokenizing Char := peekAt 0

/-- The next `n` characters. -/
def prefixText (n : Nat) : Tokenizing String := do
  let s ← get
  return String.ofList ((List.range n).filterMap fun k => s.text[s.index + k]?)

/-- Moves past `n` characters, counting lines and columns. -/
def forward : Nat → Tokenizing Unit
  | 0 => pure ()
  | n + 1 => do
    let s ← get
    match s.text[s.index]? with
    | none => pure ()
    | some c =>
      let next := (s.text[s.index + 1]?).getD '\x00'
      if c == '\n' || c == '\x85' || c == '\u2028' || c == '\u2029' || (c == '\r' && next != '\n') then
        set { s with index := s.index + 1, line := s.line + 1, column := 0 }
      else if c == '\uFEFF' then
        set { s with index := s.index + 1 }
      else
        set { s with index := s.index + 1, column := s.column + 1 }
      forward n

/-- Consumes a line break, returning it as the text reads it (`\n` for `\r\n`, `\r`, `\n` and
`\x85`); nothing when there is none. -/
def lineBreak : Tokenizing String := do
  let c ← peek
  if c == '\r' || c == '\n' || c == '\x85' then
    if (← prefixText 2) == "\r\n" then forward 2 else forward 1
    return "\n"
  else if c == '\u2028' || c == '\u2029' then
    forward 1
    return c.toString
  else return ""

/-- Consumes characters while `p` holds, at most `fuel` of them. -/
def skipWhile (p : Char → Bool) : Nat → Tokenizing Unit
  | 0 => pure ()
  | fuel + 1 => do
    if p (← peek) then
      forward 1
      skipWhile p fuel
    else pure ()

/-- The number of characters from the current one on that satisfy `p`. -/
def countWhile (p : Char → Bool) : Tokenizing Nat := do
  let s ← get
  return ((s.text.toList.drop s.index).takeWhile p).length

/-- The number of characters left. -/
def remaining : Tokenizing Nat := do
  let s ← get
  return s.text.size - s.index + 1

/-- Appends a token. -/
def emit (t : Token) : Tokenizing Unit :=
  modify fun s => { s with tokens := s.tokens.push t }

/-! ## Indentation and simple keys -/

/-- Closes the blocks deeper than a column (nothing in the flow context). -/
def unwindIndent (column : Int) : Tokenizing Unit := do
  let s ← get
  if s.flowLevel != 0 then return
  let rec go : List Int → Int → Array Token → Nat → (List Int × Int × Array Token)
    | stack, indent, toks, 0 => (stack, indent, toks)
    | stack, indent, toks, fuel + 1 =>
      if indent > column then
        match stack with
        | top :: rest => go rest top (toks.push .blockEnd) fuel
        | [] => (stack, indent, toks)
      else (stack, indent, toks)
  let (stack, indent, toks) := go s.indents s.indent s.tokens (s.indents.length + 1)
  set { s with indents := stack, indent := indent, tokens := toks }

/-- Opens a block at a column deeper than the current one; whether it did. -/
def addIndent (column : Int) : Tokenizing Bool := do
  let s ← get
  if s.indent < column then
    set { s with indents := s.indent :: s.indents, indent := column }
    return true
  else return false

/-- Drops the remembered simple keys that can no longer be keys; an error when one of them was
required. -/
def staleKeys : Tokenizing Unit := do
  let s ← get
  let stale := s.keys.filter fun (_, k) => k.line != s.line || s.index - k.index > 1024
  if stale.any (·.2.required) then throw "could not find expected ':'"
  set { s with keys := s.keys.filter fun (_, k) => k.line == s.line && s.index - k.index ≤ 1024 }

/-- Forgets the simple key of the current flow level; an error when it was required. -/
def removeKey : Tokenizing Unit := do
  let s ← get
  match s.keys.lookup s.flowLevel with
  | some k =>
    if k.required then throw "could not find expected ':'"
    set { s with keys := s.keys.filter (·.1 != s.flowLevel) }
  | none => pure ()

/-- Remembers that the next token may start a simple key. -/
def saveKey : Tokenizing Unit := do
  let s ← get
  let required := s.flowLevel == 0 && s.indent == s.column
  if s.allowSimpleKey then
    removeKey
    let s ← get
    let k : SimpleKey := ⟨s.tokens.size, required, s.index, s.line, s.column⟩
    set { s with keys := (s.flowLevel, k) :: s.keys.filter (·.1 != s.flowLevel) }

/-- Sets whether a simple key may start here. -/
def allowKey (b : Bool) : Tokenizing Unit :=
  modify fun s => { s with allowSimpleKey := b }

/-- Inserts a token at a position of the token list. -/
def insertAt (i : Nat) (t : Token) : Tokenizing Unit :=
  modify fun s =>
    { s with tokens := ((s.tokens.toList.take i) ++ [t] ++ (s.tokens.toList.drop i)).toArray }

/-! ## Whitespace and comments -/

/-- Skips blanks, comments and line breaks up to the next token. -/
def toNextToken : Nat → Tokenizing Unit
  | 0 => pure ()
  | fuel + 1 => do
    let s ← get
    if s.index == 0 && (← peek) == '\uFEFF' then forward 1
    skipWhile (· == ' ') (← remaining)
    if (← peek) == '#' then skipWhile (fun c => !isBreakOrEnd c) (← remaining)
    if (← lineBreak) != "" then
      if (← get).flowLevel == 0 then allowKey true
      toNextToken fuel
    else pure ()

/-! ## Scalars -/

/-- The spaces and line breaks inside a plain scalar: what they fold to, or `none` when they end
it (a document marker at the start of a line). -/
def plainSpaces : Tokenizing (Option String) := do
  let n ← countWhile (· == ' ')
  let spaces ← prefixText n
  forward n
  let c ← peek
  if isBreak c then
    let first ← lineBreak
    allowKey true
    let pre ← prefixText 3
    if (pre == "---" || pre == "...") && isBlankOrEnd (← peekAt 3) then return none
    let rec breaks : Nat → List String → Tokenizing (Option (List String))
      | 0, acc => pure (some acc)
      | fuel + 1, acc => do
        let c ← peek
        if c == ' ' then
          forward 1
          breaks fuel acc
        else if isBreak c then
          let b ← lineBreak
          let pre ← prefixText 3
          if (pre == "---" || pre == "...") && isBlankOrEnd (← peekAt 3) then pure none
          else breaks fuel (acc ++ [b])
        else pure (some acc)
    match ← breaks (← remaining) [] with
    | none => return none
    | some bs =>
      let joined := String.join bs
      if first != "\n" then return some (first ++ joined)
      else if bs.isEmpty then return some " "
      else return some joined
  else return some spaces

/-- Reads a plain scalar. -/
def plain : Tokenizing Token := do
  let indent := (← get).indent + 1
  let rec chunks : Nat → String → String → Tokenizing String
    | 0, acc, _ => pure acc
    | fuel + 1, acc, pendingSpaces => do
      if (← peek) == '#' then return acc
      let s ← get
      let flow := s.flowLevel != 0
      let rest := s.text.toList.drop s.index
      let rec len : List Char → Nat
        | c :: d :: more =>
          if isBlankOrEnd c || (c == ':' && (isBlankOrEnd d || (flow && ",[]\x7b\x7d".toList.contains d))) ||
              (flow && ",?[]\x7b\x7d".toList.contains c) then 0
          else len (d :: more) + 1
        | [c] =>
          if isBlankOrEnd c || c == ':' || (flow && ",?[]\x7b\x7d".toList.contains c) then 0 else 1
        | [] => 0
      let n := len rest
      if n == 0 then return acc
      allowKey false
      let piece ← prefixText n
      forward n
      let acc := acc ++ pendingSpaces ++ piece
      match ← plainSpaces with
      | none => return acc
      | some sp =>
        let s ← get
        if sp.isEmpty || (← peek) == '#' || (s.flowLevel == 0 && (s.column : Int) < indent) then
          return acc
        chunks fuel acc sp
  let text ← chunks (← remaining) "" ""
  return .scalar text true ' '

/-- The escapes of double-quoted scalars that stand for one character. -/
def escapeReplacement : Char → Option String
  | '0' => some "\x00"
  | 'a' => some "\x07"
  | 'b' => some "\x08"
  | 't' => some "\t"
  | '\t' => some "\t"
  | 'n' => some "\n"
  | 'v' => some "\x0b"
  | 'f' => some "\x0c"
  | 'r' => some "\r"
  | 'e' => some "\x1b"
  | ' ' => some " "
  | '"' => some "\""
  | '\\' => some "\\"
  | '/' => some "/"
  | 'N' => some "\x85"
  | '_' => some "\u00A0"
  | 'L' => some "\u2028"
  | 'P' => some "\u2029"
  | _ => none

/-- The line breaks inside a quoted scalar after the first; a document marker there is an
error. -/
def quotedBreaks : Nat → List String → Tokenizing (List String)
  | 0, acc => pure acc
  | fuel + 1, acc => do
    let pre ← prefixText 3
    if (pre == "---" || pre == "...") && isBlankOrEnd (← peekAt 3) then
      throw "found unexpected document separator"
    skipWhile (fun c => c == ' ' || c == '\t') (← remaining)
    if isBreak (← peek) then
      let b ← lineBreak
      quotedBreaks fuel (acc ++ [b])
    else pure acc

/-- The characters of a quoted scalar up to blanks, a line break or the closing quote. -/
def quotedText (double : Bool) : Nat → String → Tokenizing String
  | 0, acc => pure acc
  | fuel + 1, acc => do
    let n ← countWhile fun c => !(c == '\'' || c == '"' || c == '\\' || isBlankOrEnd c)
    let piece ← prefixText n
    forward n
    let acc := acc ++ piece
    let c ← peek
    if !double && c == '\'' && (← peekAt 1) == '\'' then
      forward 2
      quotedText double fuel (acc ++ "'")
    else if (double && c == '\'') || (!double && (c == '"' || c == '\\')) then
      forward 1
      quotedText double fuel (acc.push c)
    else if double && c == '\\' then
      forward 1
      let e ← peek
      match escapeReplacement e with
      | some r =>
        forward 1
        quotedText double fuel (acc ++ r)
      | none =>
        let width := if e == 'x' then 2 else if e == 'u' then 4 else if e == 'U' then 8 else 0
        if width != 0 then
          forward 1
          let digits ← prefixText width
          if digits.length != width || !digits.all isHexChar then
            throw "expected escape sequence of hexadecimal numbers"
          let code := digits.foldl (fun a d => a * 16 + (if d.isDigit then d.toNat - 48
            else if d ≤ 'F' then d.toNat - 55 else d.toNat - 87)) 0
          if code > 0x10ffff || (0xd800 ≤ code && code ≤ 0xdfff) then
            throw "escaped character out of range"
          forward width
          quotedText double fuel (acc.push (Char.ofNat code))
        else if isBreak e then
          let _ ← lineBreak
          let bs ← quotedBreaks (← remaining) []
          quotedText double fuel (acc ++ String.join bs)
        else throw "found unknown escape character"
    else return acc

/-- The blanks and line breaks inside a quoted scalar, folded. -/
def quotedSpaces : Tokenizing String := do
  let n ← countWhile fun c => c == ' ' || c == '\t'
  let spaces ← prefixText n
  forward n
  let c ← peek
  if c == '\x00' then throw "found unexpected end of stream"
  else if isBreak c then
    let first ← lineBreak
    let bs ← quotedBreaks (← remaining) []
    if first != "\n" then return first ++ String.join bs
    else if bs.isEmpty then return " "
    else return String.join bs
  else return spaces

/-- Reads a single- or double-quoted scalar. -/
def quoted (double : Bool) : Tokenizing Token := do
  let quote ← peek
  forward 1
  let first ← quotedText double (← remaining) ""
  let rec more : Nat → String → Tokenizing String
    | 0, _ => throw "found unexpected end of stream"
    | fuel + 1, acc => do
      if (← peek) == quote then return acc
      let sp ← quotedSpaces
      let t ← quotedText double (← remaining) ""
      more fuel (acc ++ sp ++ t)
  let text ← more (← remaining) first
  forward 1
  return .scalar text false quote

/-- Reads the indicators of a block scalar: chomping (`+` keep, `-` strip) and indentation. -/
def blockIndicators : Tokenizing (Option Bool × Option Nat) := do
  let c ← peek
  let digit (d : Char) : Option Nat := if d.isDigit then some (d.toNat - 48) else none
  let result ← if c == '+' || c == '-' then do
      forward 1
      let d ← peek
      match digit d with
      | some 0 => throw "expected indentation indicator in the range 1-9, but found 0"
      | some n =>
        forward 1
        pure (some (c == '+'), some n)
      | none => pure (some (c == '+'), none)
    else match digit c with
      | some 0 => throw "expected indentation indicator in the range 1-9, but found 0"
      | some n => do
        forward 1
        let e ← peek
        if e == '+' || e == '-' then
          forward 1
          pure (some (e == '+'), some n)
        else pure (none, some n)
      | none => pure (none, none)
  let c ← peek
  if !(c == '\x00' || c == ' ' || isBreak c) then
    throw "expected chomping or indentation indicators"
  return result

/-- The line breaks before the first line of a block scalar, and the deepest indentation met. -/
def blockIndentation : Nat → List String → Nat → Tokenizing (List String × Nat)
  | 0, acc, m => pure (acc, m)
  | fuel + 1, acc, m => do
    let c ← peek
    if c == ' ' then
      forward 1
      let col := (← get).column
      blockIndentation fuel acc (max m col)
    else if isBreak c then
      let b ← lineBreak
      blockIndentation fuel (acc ++ [b]) m
    else pure (acc, m)

/-- The line breaks inside a block scalar, skipping indentation up to `indent`. -/
def blockBreaks (indent : Nat) : Nat → List String → Tokenizing (List String)
  | 0, acc => pure acc
  | fuel + 1, acc => do
    skipWhile (· == ' ') (indent - (← get).column)
    if isBreak (← peek) then
      let b ← lineBreak
      blockBreaks indent fuel (acc ++ [b])
    else pure acc

/-- Reads a literal (`|`) or folded (`>`) block scalar. -/
def block (folded : Bool) : Tokenizing Token := do
  let style ← peek
  forward 1
  let (chomping, increment) ← blockIndicators
  skipWhile (· == ' ') (← remaining)
  if (← peek) == '#' then skipWhile (fun c => !isBreakOrEnd c) (← remaining)
  if !isBreakOrEnd (← peek) then throw "expected a comment or a line break"
  let _ ← lineBreak
  let minIndent := max ((← get).indent + 1) 1 |>.toNat
  let (breaks, indent) ← match increment with
    | none => do
      let (bs, m) ← blockIndentation (← remaining) [] 0
      pure (bs, max minIndent m)
    | some inc => do
      let indent := minIndent + inc - 1
      let bs ← blockBreaks indent (← remaining) []
      pure (bs, indent)
  let rec lines : Nat → String → List String → String → Tokenizing (String × List String × String)
    | 0, acc, bs, lb => pure (acc, bs, lb)
    | fuel + 1, acc, bs, lb => do
      if (← get).column != indent || (← peek) == '\x00' then return (acc, bs, lb)
      let acc := acc ++ String.join bs
      let leadingNonSpace := !((← peek) == ' ' || (← peek) == '\t')
      let n ← countWhile fun c => !isBreakOrEnd c
      let piece ← prefixText n
      forward n
      let acc := acc ++ piece
      let lb ← lineBreak
      let bs ← blockBreaks indent (← remaining) []
      if (← get).column == indent && (← peek) != '\x00' then
        let c ← peek
        if folded && lb == "\n" && leadingNonSpace && !(c == ' ' || c == '\t') then
          lines fuel (if bs.isEmpty then acc ++ " " else acc) bs lb
        else lines fuel (acc ++ lb) bs lb
      else return (acc, bs, lb)
  let (text, bs, lb) ← lines (← remaining) "" breaks ""
  let text := if chomping != some false then text ++ lb else text
  let text := if chomping == some true then text ++ String.join bs else text
  return .scalar text false style

/-! ## Anchors, tags and directives -/

/-- Reads the name of an anchor or alias after its indicator. -/
def anchorName : Tokenizing String := do
  forward 1
  let n ← countWhile isAnchorChar
  if n == 0 then throw "expected alphabetic or numeric character"
  let name ← prefixText n
  forward n
  let c ← peek
  if !(isBlankOrEnd c || "?:,]\x7d%@`".toList.contains c) then
    throw "expected alphabetic or numeric character"
  return name

/-- Whether a character may stand in a tag. -/
def isTagChar (c : Char) : Bool :=
  (c.isAlphanum && c.toNat < 128) || "-;/?:@&=+$,_.!~*'()[]%".toList.contains c

/-- Reads a tag: `!<uri>`, `!`, `!suffix` or `!handle!suffix`. -/
def tagToken : Tokenizing Token := do
  let c ← peekAt 1
  if c == '<' then
    forward 2
    let n ← countWhile isTagChar
    let suffix ← prefixText n
    forward n
    if n == 0 then throw "expected URI"
    if (← peek) != '>' then throw "expected '>'"
    forward 1
    if !(c == '\x00' || (← peek) == ' ' || isBreakOrEnd (← peek)) then throw "expected ' '"
    return .tag none suffix
  else if isBlankOrEnd c then
    forward 1
    return .tag none "!"
  else
    let s ← get
    let rest := s.text.toList.drop (s.index + 1)
    let word := rest.takeWhile fun d => !(d == ' ' || isBreakOrEnd d)
    let (handle, skip) :=
      match word.findIdx? (· == '!') with
      | some i => ("!" ++ String.ofList (word.take (i + 1)), i + 2)
      | none => ("!", 1)
    forward skip
    let n ← countWhile isTagChar
    let suffix ← prefixText n
    forward n
    if n == 0 then throw "expected URI"
    let d ← peek
    if !(d == ' ' || isBreakOrEnd d) then throw "expected ' '"
    return .tag (some handle) suffix

/-- Reads a directive line. -/
def directiveToken : Tokenizing Token := do
  forward 1
  let n ← countWhile fun c => c.isAlphanum || c == '-' || c == '_'
  if n == 0 then throw "expected alphabetic or numeric character"
  let name ← prefixText n
  forward n
  let c ← peek
  if !(c == ' ' || isBreakOrEnd c) then throw "expected alphabetic or numeric character"
  skipWhile (· == ' ') (← remaining)
  let m ← countWhile fun c => !isBreakOrEnd c && c != '#'
  let body ← prefixText m
  forward m
  if (← peek) == '#' then skipWhile (fun c => !isBreakOrEnd c) (← remaining)
  let _ ← lineBreak
  let words := (body.splitOn " ").filter (!·.isEmpty)
  if name == "YAML" then
    match words with
    | [v] =>
      match v.splitOn "." with
      | [a, b] =>
        if a.isEmpty || b.isEmpty || !a.all Char.isDigit || !b.all Char.isDigit then
          throw "expected a digit"
      | _ => throw "expected a digit or '.'"
    | _ => throw "expected a digit"
  if name == "TAG" && words.length != 2 then throw "expected a tag handle and prefix"
  return .directive name words

/-! ## The token loop -/

/-- Reads the next tokens. -/
def fetch : Tokenizing Unit := do
  toNextToken (← remaining)
  staleKeys
  unwindIndent (← get).column
  let c ← peek
  let s ← get
  let flow := s.flowLevel != 0
  let next ← peekAt 1
  let atLineStart := s.column == 0
  if c == '\x00' then
    unwindIndent (-1)
    removeKey
    modify fun s => { s with allowSimpleKey := false, keys := [], done := true }
    emit .streamEnd
  else if c == '%' && atLineStart then
    unwindIndent (-1)
    removeKey
    allowKey false
    emit (← directiveToken)
  else if (c == '-' || c == '.') && atLineStart &&
      (← prefixText 3) == String.ofList [c, c, c] && isBlankOrEnd (← peekAt 3) then
    unwindIndent (-1)
    removeKey
    allowKey false
    forward 3
    emit (if c == '-' then .documentStart else .documentEnd)
  else if c == '[' || c == '{' then
    saveKey
    modify fun s => { s with flowLevel := s.flowLevel + 1 }
    allowKey true
    forward 1
    emit (if c == '[' then .flowSequenceStart else .flowMappingStart)
  else if c == ']' || c == '}' then
    removeKey
    modify fun s => { s with flowLevel := s.flowLevel - 1 }
    allowKey false
    forward 1
    emit (if c == ']' then .flowSequenceEnd else .flowMappingEnd)
  else if c == ',' then
    allowKey true
    removeKey
    forward 1
    emit .flowEntry
  else if c == '-' && isBlankOrEnd next then
    if !flow then
      if !s.allowSimpleKey then throw "sequence entries are not allowed here"
      if ← addIndent s.column then emit .blockSequenceStart
    allowKey true
    removeKey
    forward 1
    emit .blockEntry
  else if c == '?' && (flow || isBlankOrEnd next) then
    if !flow then
      if !s.allowSimpleKey then throw "mapping keys are not allowed here"
      if ← addIndent s.column then emit .blockMappingStart
    allowKey !flow
    removeKey
    forward 1
    emit .key
  else if c == ':' && (flow || isBlankOrEnd next) then
    match s.keys.lookup s.flowLevel with
    | some k =>
      modify fun s => { s with keys := s.keys.filter (·.1 != s.flowLevel) }
      insertAt k.tokenNumber .key
      if !flow then
        if ← addIndent k.column then insertAt k.tokenNumber .blockMappingStart
      allowKey false
    | none =>
      if !flow then
        if !s.allowSimpleKey then throw "mapping values are not allowed here"
        if ← addIndent s.column then emit .blockMappingStart
      allowKey !flow
      removeKey
    forward 1
    emit .value
  else if c == '*' || c == '&' then
    saveKey
    allowKey false
    let name ← anchorName
    emit (if c == '*' then .alias name else .anchor name)
  else if c == '!' then
    saveKey
    allowKey false
    emit (← tagToken)
  else if (c == '|' || c == '>') && !flow then
    allowKey true
    removeKey
    emit (← block (c == '>'))
  else if c == '\'' || c == '"' then
    saveKey
    allowKey false
    emit (← quoted (c == '"'))
  else if !(isBlankOrEnd c || "-?:,[]\x7b\x7d#&*!|>'\"%@`".toList.contains c) ||
      (!isBlankOrEnd next && (c == '-' || (!flow && (c == '?' || c == ':')))) then
    saveKey
    allowKey false
    emit (← plain)
  else throw "found character that cannot start any token"

/-- Reads tokens until the end of the text. -/
def fetchAll : Nat → Tokenizing Unit
  | 0 => throw "the text does not end"
  | fuel + 1 => do
    if (← get).done then return
    let before := (← get).index
    fetch
    let s ← get
    if s.done then return
    if s.index == before && !(s.tokens.back? == some .streamEnd) then
      -- every token but the end of the stream consumes text; a step that consumed nothing
      -- has produced closing tokens only, and the next step will consume
      fetchAll fuel
    else fetchAll fuel

end Tokenizing

/-- The tokens of a text, or why it is not YAML. -/
def tokenize (text : String) : Except String (List Token) :=
  let chars := text.toList
  if !chars.all isAcceptable then .error "special characters are not allowed"
  else
    let run : Tokenizing Unit := Tokenizing.fetchAll (2 * chars.length + 4)
    (run.run { text := chars.toArray }).map fun ((), s) => s.tokens.toList

end Questionnaire.Yaml

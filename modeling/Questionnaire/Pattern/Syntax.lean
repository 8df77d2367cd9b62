import Questionnaire.Text.Digit
import Questionnaire.Text.Word
/-!
# Pattern syntax

Schemas constrain strings with regular expressions (groups, classes, look-around, atomic groups,
possessive and lazy quantifiers, inline flags, conditional groups), and the `regex` format asks
whether a string is such an expression at all. This module reads a pattern
into a `Node` tree, rejecting exactly the texts that syntax rejects, with its error messages.

The reader follows the structure of that syntax: an alternation of sequences, each item an atom
with an optional quantifier. A backslash and the character after it always form one token, so an
escaped character never acts as a metacharacter. Flags are resolved while reading: every node
that matches characters carries the case folding, dot and anchor modes that apply at its place,
and the tree needs no flags to be matched. Each node comes with its width, the least and greatest
number of characters it can match; a look-behind must have a fixed width.
-/

namespace Questionnaire.Pattern

/-- A character class shorthand: `\d`, `\s` or `\w`. -/
inductive Category where
  | digit
  | space
  | word
deriving DecidableEq, Repr

/-- How characters are compared: exactly, or without regard to case in the ASCII or the Unicode
sense. -/
inductive Fold where
  | exact
  | ascii
  | unicode
deriving DecidableEq, Repr

/-- An item of a bracketed set. -/
inductive SetItem where
  | code (n : Nat)
  | range (lo hi : Nat)
  | category (c : Category) (negated : Bool) (ascii : Bool)
deriving DecidableEq, Repr

/-- A zero-width test on the position. -/
inductive Anchor where
  /-- `^`: the start of the text, or of any line in multi-line mode. -/
  | lineStart (multiline : Bool)
  /-- `$`: the end of the text or just before a final newline, or the end of any line in
  multi-line mode. -/
  | lineEnd (multiline : Bool)
  /-- `\A` -/
  | textStart
  /-- `\Z` -/
  | textEnd
  /-- `\b` -/
  | boundary (ascii : Bool)
  /-- `\B` -/
  | nonBoundary (ascii : Bool)
deriving DecidableEq, Repr

/-- How a quantifier chooses its count: most first, fewest first, or most and never fewer. -/
inductive Greed where
  | greedy
  | lazy
  | possessive
deriving DecidableEq, Repr

/-- A parsed pattern. -/
inductive Node where
  | code (n : Nat) (fold : Fold)
  | any (dotAll : Bool)
  | set (negated : Bool) (items : List SetItem) (fold : Fold)
  | category (c : Category) (negated : Bool) (ascii : Bool)
  | anchor (a : Anchor)
  /-- A group: capturing when it has an index. -/
  | group (index : Option Nat) (body : Node)
  | backref (index : Nat) (fold : Fold)
  /-- A look-ahead, or a look-behind over `width` characters. -/
  | look (behind : Bool) (negated : Bool) (width : Nat) (body : Node)
  /-- A repetition; no upper bound when `max` is `none`. -/
  | rep (min : Nat) (max : Option Nat) (greed : Greed) (body : Node)
  | atomic (body : Node)
  /-- `(?(n)yes|no)`: `yes` when group `n` has matched, else `no`. -/
  | cond (index : Nat) (yes : Node) (no : Node)
  | seq (items : List Node)
  | alt (branches : List Node)
deriving Repr, Inhabited

/-- The largest repetition count, which also stands for "unbounded" in widths. -/
def maxRepeat : Nat := 4294967295

/-- The least and greatest number of characters a node matches. -/
abbrev Width := Nat × Nat

/-- A width as stored after a sub-pattern: both ends capped. -/
def Width.cap (w : Width) : Width :=
  (min w.1 (maxRepeat - 1), min w.2 maxRepeat)

/-- An inline flag letter. -/
inductive Flag where
  | ignoreCase
  | locale
  | multiline
  | dotAll
  | verbose
  | ascii
  | template
  | unicode
deriving DecidableEq, Repr

/-- The flag of a letter. -/
def Flag.ofChar? : Char → Option Flag
  | 'i' => some .ignoreCase
  | 'L' => some .locale
  | 'm' => some .multiline
  | 's' => some .dotAll
  | 'x' => some .verbose
  | 'a' => some .ascii
  | 't' => some .template
  | 'u' => some .unicode
  | _ => none

/-- The flags that choose the character model. -/
def Flag.isType (f : Flag) : Bool :=
  f == .ascii || f == .locale || f == .unicode

/-- The flags that can only apply to the whole pattern. -/
def Flag.isGlobal (f : Flag) : Bool :=
  f == .template

/-- The flags in force inside a group that turns on `add` and turns off `del`; turning on a
character model replaces the one in force. -/
def combineFlags (flags add del : List Flag) : List Flag :=
  let kept := if add.any Flag.isType then flags.filter (!·.isType) else flags
  (kept ++ add).filter (!del.contains ·)

/-- The case folding for a set of flags. -/
def foldOf (flags : List Flag) : Fold :=
  if !flags.contains .ignoreCase then .exact
  else if flags.contains .ascii then .ascii
  else .unicode

/-- A pattern token: a plain character or a backslash with the character after it. -/
inductive Tok where
  | plain (c : Char)
  | esc (c : Char)
deriving DecidableEq, Repr

/-- The text of a token. -/
def Tok.text : Tok → String
  | .plain c => c.toString
  | .esc c => "\\" ++ c.toString

/-- Splits a pattern into tokens; a backslash at the very end is an error. -/
def tokenize : List Char → Except String (List Tok)
  | [] => .ok []
  | ['\\'] => .error "bad escape (end of pattern)"
  | '\\' :: c :: rest => (tokenize rest).map (Tok.esc c :: ·)
  | c :: rest => (tokenize rest).map (Tok.plain c :: ·)

/-- The state of the reader: the tokens left, the global flags, and what is known of the groups
so far. -/
structure Reader where
  toks : List Tok
  flags : List Flag := []
  /-- The number the next capturing group will get. -/
  groups : Nat := 1
  /-- The widths of the groups closed so far. -/
  widths : List (Nat × Width) := []
  names : List (String × Nat) := []
  /-- Inside a look-behind: the first group opened in it. -/
  lookbehindFrom : Option Nat := none
  /-- Groups named by number in conditions, checked once the whole pattern is read. -/
  condRefs : List Nat := []

/-- A reading step. -/
abbrev Parse := StateT Reader (Except String)

namespace Parse

/-- The next token, not consumed. -/
def peek : Parse (Option Tok) := do
  return (← get).toks.head?

/-- Consumes one token. -/
def advance : Parse Unit :=
  modify fun r => { r with toks := r.toks.tail }

/-- Consumes and returns the next token. -/
def next : Parse (Option Tok) := do
  let t ← peek
  advance
  return t

/-- Consumes the next token when it is the plain character `c`. -/
def accept (c : Char) : Parse Bool := do
  match ← peek with
  | some (.plain d) => if d == c then advance; return true else return false
  | _ => return false

/-- Consumes up to `n` plain characters satisfying `p`. -/
def takeWhile (p : Char → Bool) : Nat → Parse (List Char)
  | 0 => return []
  | n + 1 => do
    match ← peek with
    | some (.plain c) =>
      if p c then
        advance
        return c :: (← takeWhile p n)
      else return []
    | _ => return []

/-- Reads the text up to the plain character `term`, which is consumed; `what` names the text in
the error messages. -/
def takeUntil (term : Char) (what : String) : Nat → String → Parse String
  | 0, _ => throw ("missing " ++ what)
  | fuel + 1, acc => do
    match ← next with
    | none =>
      if acc.isEmpty then throw ("missing " ++ what)
      else throw ("missing " ++ term.toString ++ ", unterminated name")
    | some t =>
      if t == .plain term then
        if acc.isEmpty then throw ("missing " ++ what) else return acc
      else takeUntil term what fuel (acc ++ t.text)

/-- Whether a group has been closed. -/
def isClosed (gid : Nat) : Parse Bool := do
  let r ← get
  return gid < r.groups && (r.widths.lookup gid).isSome

/-- Inside a look-behind a reference must name a group closed before the look-behind began. -/
def checkLookbehindRef (gid : Nat) : Parse Unit := do
  match (← get).lookbehindFrom with
  | none => pure ()
  | some first =>
    unless ← isClosed gid do throw "cannot refer to an open group"
    if gid ≥ first then
      throw "cannot refer to group defined in the same lookbehind subpattern"

end Parse

open Parse

/-- Whether a group name is an identifier. -/
def isIdentifier (s : String) : Bool :=
  match s.toList with
  | [] => false
  | c :: rest => (c == '_' || (Text.isAlnum c && !c.isDigit && !Text.isDecimal c)) &&
      rest.all Text.isWordChar

/-- The value of hexadecimal digits. -/
def hexValue (cs : List Char) : Nat :=
  cs.foldl (fun acc c =>
    acc * 16 + (if c.isDigit then c.toNat - '0'.toNat
      else if 'a' ≤ c && c ≤ 'f' then c.toNat - 'a'.toNat + 10
      else c.toNat - 'A'.toNat + 10)) 0

/-- The value of octal digits. -/
def octValue (cs : List Char) : Nat :=
  cs.foldl (fun acc c => acc * 8 + (c.toNat - '0'.toNat)) 0

/-- Whether a character is a hexadecimal digit. -/
def isHex (c : Char) : Bool :=
  c.isDigit || ('a' ≤ c && c ≤ 'f') || ('A' ≤ c && c ≤ 'F')

/-- Whether a character is an octal digit. -/
def isOct (c : Char) : Bool :=
  '0' ≤ c && c ≤ '7'

/-- The code of a one-letter control escape such as `\n`. -/
def controlEscape? : Char → Option Nat
  | 'a' => some 7
  | 'f' => some 12
  | 'n' => some 10
  | 'r' => some 13
  | 't' => some 9
  | 'v' => some 11
  | '\\' => some 92
  | _ => none

/-- The class shorthand of an escape letter, with whether it is negated. -/
def categoryEscape? : Char → Option (Category × Bool)
  | 'd' => some (.digit, false)
  | 'D' => some (.digit, true)
  | 's' => some (.space, false)
  | 'S' => some (.space, true)
  | 'w' => some (.word, false)
  | 'W' => some (.word, true)
  | _ => none

/-- Reads the digits of a `\x`, `\u` or `\U` escape: exactly `n` hexadecimal digits. -/
def hexEscape (letter : Char) (n : Nat) : Parse Nat := do
  let ds ← takeWhile isHex n
  if ds.length != n then
    throw ("incomplete escape \\" ++ letter.toString ++ String.ofList ds)
  let v := hexValue ds
  if v > 0x10ffff then throw ("bad escape \\" ++ letter.toString ++ String.ofList ds)
  return v

/-- What an escape inside a bracketed set stands for. -/
def classEscape (c : Char) (flags : List Flag) : Parse SetItem := do
  if c == 'b' then return .code 8
  match controlEscape? c with
  | some n => return .code n
  | none =>
  match categoryEscape? c with
  | some (cat, neg) => return .category cat neg (flags.contains .ascii)
  | none =>
  if c == 'x' then return .code (← hexEscape 'x' 2)
  if c == 'u' then return .code (← hexEscape 'u' 4)
  if c == 'U' then return .code (← hexEscape 'U' 8)
  if c == 'N' then throw "bad escape \\N"
  if isOct c then
    let ds ← takeWhile isOct 2
    let v := octValue (c :: ds)
    if v > 0o377 then
      throw ("octal escape value \\" ++ String.ofList (c :: ds) ++ " outside of range 0-0o377")
    return .code v
  if c.isDigit || (c.toNat < 128 && c.isAlpha) then throw ("bad escape \\" ++ c.toString)
  return .code c.toNat

/-- What an escape outside a set stands for, with its width. -/
def escape (c : Char) (flags : List Flag) : Parse (Node × Width) := do
  let ascii := flags.contains .ascii
  let fold := foldOf flags
  match c with
  | 'A' => return (.anchor .textStart, (0, 0))
  | 'Z' => return (.anchor .textEnd, (0, 0))
  | 'b' => return (.anchor (.boundary ascii), (0, 0))
  | 'B' => return (.anchor (.nonBoundary ascii), (0, 0))
  | _ =>
  match categoryEscape? c with
  | some (cat, neg) => return (.category cat neg ascii, (1, 1))
  | none =>
  match controlEscape? c with
  | some n => return (.code n fold, (1, 1))
  | none =>
  if c == 'x' then return (.code (← hexEscape 'x' 2) fold, (1, 1))
  if c == 'u' then return (.code (← hexEscape 'u' 4) fold, (1, 1))
  if c == 'U' then return (.code (← hexEscape 'U' 8) fold, (1, 1))
  if c == 'N' then throw "bad escape \\N"
  if c == '0' then
    let ds ← takeWhile isOct 2
    return (.code (octValue ds) fold, (1, 1))
  if c.isDigit then
    let more ← takeWhile Char.isDigit 1
    let digits := c :: more
    let third ← if more.length == 1 && isOct c && more.all isOct then takeWhile isOct 1
      else pure []
    if third.length == 1 then
      let v := octValue (digits ++ third)
      if v > 0o377 then
        throw ("octal escape value \\" ++ String.ofList (digits ++ third) ++
          " outside of range 0-0o377")
      return (.code v fold, (1, 1))
    let gid := digits.foldl (fun acc d => acc * 10 + (d.toNat - '0'.toNat)) 0
    if gid < (← get).groups then
      unless ← isClosed gid do throw "cannot refer to an open group"
      checkLookbehindRef gid
      let w := ((← get).widths.lookup gid).getD (0, 0)
      return (.backref gid fold, w)
    throw ("invalid group reference " ++ toString gid)
  if c.toNat < 128 && c.isAlpha then throw ("bad escape \\" ++ c.toString)
  return (.code c.toNat fold, (1, 1))

/-- The width of the alternatives of a branch. -/
def branchWidth (ws : List Width) : Width :=
  (ws.foldl (fun acc w => min acc w.1) (maxRepeat - 1), ws.foldl (fun acc w => max acc w.2) 0)

/-- The width of a sequence. -/
def seqWidth (ws : List Width) : Width :=
  (ws.foldl (fun acc w => acc + w.1) 0, ws.foldl (fun acc w => acc + w.2) 0)

/-- A sequence of items with its capped width. -/
def seqOf (items : Array (Node × Width)) : Node × Width :=
  match items.toList with
  | [one] => (one.1, one.2.cap)
  | xs => (.seq (xs.map (·.1)), (seqWidth (xs.map (·.2))).cap)

/-- The width of a repetition of an item. -/
def repWidth (w : Width) (lo : Nat) (hi : Option Nat) : Width :=
  (w.1 * lo, match hi with
    | none => if w.2 == 0 then 0 else maxRepeat
    | some m => w.2 * m)

/-- Reads the inline flags after `(?` up to `)` (global flags, the result is `none`) or `:`
(flags of the group, the result is the flags turned on and off). -/
def readFlags (first : Char) : Nat → Parse (Option (List Flag × List Flag))
  | fuel => do
    let rec adding : Nat → Char → List Flag → Parse (Char × List Flag)
      | 0, _, _ => throw "missing -, : or )"
      | n + 1, c, add => do
        let some f := Flag.ofChar? c | throw "unknown flag"
        if f == .locale then throw "bad inline flag: cannot use 'L' flag with a str pattern"
        let add := add ++ [f]
        if f.isType && (add.filter Flag.isType).any (· != f) then
          throw "bad inline flag: flags 'a', 'u' and 'L' are incompatible"
        match ← next with
        | none => throw "missing -, : or )"
        | some (.plain d) =>
          if d == ')' || d == '-' || d == ':' then return (d, add)
          else if (Flag.ofChar? d).isSome then adding n d add
          else throw (if d.isAlpha then "unknown flag" else "missing -, : or )")
        | some (.esc _) => throw "missing -, : or )"
    let rec removing : Nat → Char → List Flag → Parse (List Flag)
      | 0, _, _ => throw "missing :"
      | n + 1, c, del => do
        let some f := Flag.ofChar? c | throw "unknown flag"
        if f.isType then throw "bad inline flag: cannot turn off flags 'a', 'u' and 'L'"
        let del := del ++ [f]
        match ← next with
        | none => throw "missing :"
        | some (.plain ':') => return del
        | some (.plain d) =>
          if (Flag.ofChar? d).isSome then removing n d del
          else throw (if d.isAlpha then "unknown flag" else "missing :")
        | some (.esc _) => throw "missing :"
    let (stop, add) ← if first == '-' then pure ('-', []) else adding fuel first []
    if stop == ')' then
      modify fun r => { r with flags := r.flags ++ add }
      return none
    if add.any Flag.isGlobal then throw "bad inline flag: cannot turn on global flag"
    let del ← if stop == '-' then do
        match ← next with
        | none => throw "missing flag"
        | some (.plain d) =>
          if (Flag.ofChar? d).isSome then removing fuel d []
          else throw (if d.isAlpha then "unknown flag" else "missing flag")
        | some (.esc _) => throw "missing flag"
      else pure []
    if del.any Flag.isGlobal then throw "bad inline flag: cannot turn off global flag"
    if add.any del.contains then throw "bad inline flag: flag turned on and off"
    return some (add, del)

/-- Reads a bracketed set after its `[`. -/
def readSet (flags : List Flag) : Nat → Array SetItem → Parse (Array SetItem)
  | 0, _ => throw "unterminated character set"
  | fuel + 1, items => do
    let some this ← next | throw "unterminated character set"
    if this == .plain ']' && !items.isEmpty then return items
    let first ← match this with
      | .esc c => classEscape c flags
      | .plain c => pure (SetItem.code c.toNat)
    if ← accept '-' then
      let some that ← next | throw "unterminated character set"
      if that == .plain ']' then
        return (items.push first).push (.code '-'.toNat)
      let second ← match that with
        | .esc c => classEscape c flags
        | .plain c => pure (SetItem.code c.toNat)
      match first, second with
      | .code lo, .code hi =>
        if hi < lo then throw ("bad character range " ++ this.text ++ "-" ++ that.text)
        readSet flags fuel (items.push (.range lo hi))
      | _, _ => throw ("bad character range " ++ this.text ++ "-" ++ that.text)
    else readSet flags fuel (items.push first)

/-- Whether an item can be repeated, and what is repeated: an error for an anchor or a
repetition. -/
def repeatable (item : Node) : Except String Node :=
  match item with
  | .anchor _ => .error "nothing to repeat"
  | .rep .. => .error "multiple repeat"
  | .group none body => .ok body
  | other => .ok other

/-- Reads the bounds of a `{m,n}` quantifier after its `{`; `none` when the brace is a plain
character. -/
def readBounds : Parse (Option (Nat × Option Nat)) := do
  let saved := (← get).toks
  if (← peek) == some (.plain '}') then return none
  let lo ← takeWhile Char.isDigit saved.length
  let hasComma ← accept ','
  let hi ← if hasComma then takeWhile Char.isDigit saved.length else pure lo
  if !(← accept '}') then
    modify fun r => { r with toks := saved }
    return none
  let toNum (ds : List Char) : Nat := ds.foldl (fun a d => a * 10 + (d.toNat - '0'.toNat)) 0
  let min := if lo.isEmpty then 0 else toNum lo
  if !lo.isEmpty && min ≥ maxRepeat then throw "the repetition number is too large"
  let max : Option Nat := if hi.isEmpty then (if hasComma then none else some min)
    else some (toNum hi)
  match max with
  | some m =>
    if !hi.isEmpty && m ≥ maxRepeat then throw "the repetition number is too large"
    if m < min then throw "min repeat greater than max repeat"
  | none => pure ()
  return some (min, max)

/-- Whether a token is blank in verbose mode. -/
def isVerboseBlank (c : Char) : Bool :=
  c == ' ' || c == '\t' || c == '\n' || c == '\r' || c == '\x0b' || c == '\x0c'

/-- Skips a verbose-mode comment up to the end of the line. -/
def skipComment : Nat → Parse Unit
  | 0 => pure ()
  | n + 1 => do
    match ← next with
    | none => pure ()
    | some (.plain '\n') => pure ()
    | some _ => skipComment n

/-- Skips a `(?#...)` comment up to its `)`. -/
def skipGroupComment : Nat → Parse Unit
  | 0 => throw "missing ), unterminated comment"
  | n + 1 => do
    match ← next with
    | none => throw "missing ), unterminated comment"
    | some (.plain ')') => pure ()
    | some _ => skipGroupComment n

mutual

/-- Reads an alternation up to an unmatched `)` or the end. -/
def readAlternation : Nat → Bool → Nat → List Flag → Parse (Node × Width)
  | 0, _, _, _ => throw "pattern too deeply nested"
  | fuel + 1, verbose, nested, flags => readBranches fuel verbose nested flags #[]

/-- Reads the branches of an alternation. At the top level every branch sees the global flags,
and the branches after the first are read in the verbose mode the pattern started with. -/
def readBranches : Nat → Bool → Nat → List Flag → Array (Node × Width) → Parse (Node × Width)
  | 0, _, _, _, _ => throw "pattern too deeply nested"
  | fuel + 1, verbose, nested, flags, branches => do
    let top := nested == 0
    let r ← get
    let branchFlags := if top then r.flags else flags
    let v := if top && !branches.isEmpty then false else verbose
    let b ← readSequence fuel v (nested + 1) branchFlags #[]
    let branches := branches.push b
    if ← accept '|' then readBranches fuel verbose nested flags branches
    else
      match branches.toList with
      | [one] => return one
      | bs => return (.alt (bs.map (·.1)), (branchWidth (bs.map (·.2))).cap)

/-- Reads the items of one branch, up to `|`, an unmatched `)` or the end. -/
def readSequence : Nat → Bool → Nat → List Flag → Array (Node × Width) → Parse (Node × Width)
  | 0, _, _, _, _ => throw "pattern too deeply nested"
  | fuel + 1, verbose, nested, flags, items => do
    match ← peek with
    | none => return seqOf items
    | some (.plain '|') => return seqOf items
    | some (.plain ')') => return seqOf items
    | some tok =>
      advance
      let fold := foldOf flags
      match tok with
      | .esc c =>
        let item ← escape c flags
        readSequence fuel verbose nested flags (items.push item)
      | .plain c =>
        if verbose && isVerboseBlank c then
          readSequence fuel verbose nested flags items
        else if verbose && c == '#' then
          skipComment (← get).toks.length
          readSequence fuel verbose nested flags items
        else if c == '[' then
          let negated ← accept '^'
          let set ← readSet flags ((← get).toks.length + 1) #[]
          readSequence fuel verbose nested flags
            (items.push (.set negated set.toList fold, (1, 1)))
        else if c == '.' then
          readSequence fuel verbose nested flags
            (items.push (.any (flags.contains .dotAll), (1, 1)))
        else if c == '^' then
          readSequence fuel verbose nested flags
            (items.push (.anchor (.lineStart (flags.contains .multiline)), (0, 0)))
        else if c == '$' then
          readSequence fuel verbose nested flags
            (items.push (.anchor (.lineEnd (flags.contains .multiline)), (0, 0)))
        else if c == '*' || c == '+' || c == '?' || c == '{' then
          let bounds ← if c == '*' then pure (some (0, none))
            else if c == '+' then pure (some (1, none))
            else if c == '?' then pure (some (0, some 1))
            else readBounds
          match bounds with
          | none =>
            readSequence fuel verbose nested flags (items.push (.code c.toNat fold, (1, 1)))
          | some (lo, hi) =>
            let some (last, w) := items.back? | throw "nothing to repeat"
            let body ← match repeatable last with
              | .ok b => pure b
              | .error e => throw e
            let lazy ← accept '?'
            let possessive ← if lazy then pure false else accept '+'
            let greed := if lazy then Greed.lazy else if possessive then .possessive else .greedy
            readSequence fuel verbose nested flags
              (items.pop.push (.rep lo hi greed body, repWidth w lo hi))
        else if c == '(' then
          match ← readGroup fuel verbose nested flags with
          | some item => readSequence fuel verbose nested flags (items.push item)
          | none => readSequence fuel verbose nested flags items
        else
          readSequence fuel verbose nested flags (items.push (.code c.toNat fold, (1, 1)))

/-- Reads a group after its `(`; `none` for a comment or global flags. -/
def readGroup : Nat → Bool → Nat → List Flag → Parse (Option (Node × Width))
  | 0, _, _, _ => throw "pattern too deeply nested"
  | fuel + 1, verbose, nested, flags => do
    let close : Parse Unit := do
      unless ← accept ')' do throw "missing ), unterminated subpattern"
    let body (v : Bool) (fl : List Flag) : Parse (Node × Width) :=
      readAlternation fuel v (nested + 1) fl
    let capture (name : Option String) : Parse (Option (Node × Width)) := do
      let r ← get
      let gid := r.groups
      if let some n := name then
        if let some old := r.names.lookup n then
          throw ("redefinition of group name '" ++ n ++ "' as group " ++ toString gid ++
            "; was group " ++ toString old)
      set { r with groups := gid + 1,
                   names := match name with | some n => (n, gid) :: r.names | none => r.names }
      let (p, w) ← body verbose flags
      close
      modify fun r => { r with widths := (gid, w) :: r.widths }
      return some (.group (some gid) p, w)
    if !(← accept '?') then return ← capture none
    let some tok ← next | throw "unexpected end of pattern"
    match tok with
    | .esc c => throw ("unknown extension ?\\" ++ c.toString)
    | .plain 'P' =>
      if ← accept '<' then
        let name ← takeUntil '>' "group name" ((← get).toks.length + 1) ""
        unless isIdentifier name do throw ("bad character in group name '" ++ name ++ "'")
        capture (some name)
      else if ← accept '=' then
        let name ← takeUntil ')' "group name" ((← get).toks.length + 1) ""
        unless isIdentifier name do throw ("bad character in group name '" ++ name ++ "'")
        let some gid := (← get).names.lookup name | throw ("unknown group name '" ++ name ++ "'")
        unless ← isClosed gid do throw "cannot refer to an open group"
        checkLookbehindRef gid
        let w := ((← get).widths.lookup gid).getD (0, 0)
        return some (.backref gid (foldOf flags), w)
      else
        match ← next with
        | none => throw "unexpected end of pattern"
        | some t => throw ("unknown extension ?P" ++ t.text)
    | .plain ':' =>
      let (p, w) ← body verbose flags
      close
      return some (.group none p, w)
    | .plain '#' =>
      skipGroupComment ((← get).toks.length + 1)
      return none
    | .plain '>' =>
      let (p, w) ← body verbose flags
      close
      return some (.atomic p, w)
    | .plain '(' =>
      let cname ← takeUntil ')' "group name" ((← get).toks.length + 1) ""
      let gid ← if isIdentifier cname then
          match (← get).names.lookup cname with
          | some g => pure g
          | none => throw ("unknown group name '" ++ cname ++ "'")
        else
          match Text.readInt cname with
          | some n =>
            if n < 0 then throw ("bad character in group name '" ++ cname ++ "'")
            else if n == 0 then throw "bad group number"
            else
              modify fun r => { r with condRefs := n.toNat :: r.condRefs }
              pure n.toNat
          | none => throw ("bad character in group name '" ++ cname ++ "'")
      checkLookbehindRef gid
      let (yes, wy) ← readSequence fuel verbose (nested + 1) flags #[]
      let (no, w) ← if ← accept '|' then do
          let (no, wn) ← readSequence fuel verbose (nested + 1) flags #[]
          if (← peek) == some (.plain '|') then
            throw "conditional backref with more than two branches"
          pure (no, (min wy.1 wn.1, max wy.2 wn.2))
        else pure (.seq [], (0, wy.2))
      close
      return some (.cond gid yes no, w)
    | .plain c =>
      if c == '=' || c == '!' || c == '<' then
        let (behind, negated) ← if c == '<' then do
            match ← next with
            | some (.plain '=') => pure (true, false)
            | some (.plain '!') => pure (true, true)
            | some t => throw ("unknown extension ?<" ++ t.text)
            | none => throw "unexpected end of pattern"
          else pure (false, c == '!')
        let outer := (← get).lookbehindFrom
        if behind && outer.isNone then
          modify fun r => { r with lookbehindFrom := some r.groups }
        let (p, w) ← body verbose flags
        if behind && outer.isNone then
          modify fun r => { r with lookbehindFrom := none }
        close
        if behind && w.1 != w.2 then throw "look-behind requires fixed-width pattern"
        return some (.look behind negated w.1 p, (0, 0))
      else if (Flag.ofChar? c).isSome || c == '-' then
        match ← readFlags c ((← get).toks.length + 1) with
        | none =>
          throw "global flags not at the start of the expression"
        | some (add, del) =>
          let inner := combineFlags flags add del
          let v := (verbose || add.contains .verbose) && !del.contains .verbose
          let (p, w) ← body v inner
          close
          return some (.group none p, w)
      else throw ("unknown extension ?" ++ c.toString)

end

/-- Reads what may stand before the first item of the pattern: global `(?flags)` groups,
`(?#...)` comments and, in verbose mode, blanks and comments. A group of local flags is left
unread. -/
def readLeadingFlags : Nat → Parse Unit
  | 0 => pure ()
  | n + 1 => do
    let r ← get
    let verbose := r.flags.contains .verbose
    match r.toks with
    | .plain '(' :: .plain '?' :: .plain '#' :: rest =>
      set { r with toks := rest }
      skipGroupComment (rest.length + 1)
      readLeadingFlags n
    | .plain '(' :: .plain '?' :: .plain c :: rest =>
      if (Flag.ofChar? c).isSome then
        set { r with toks := rest }
        match ← readFlags c (rest.length + 1) with
        | none => readLeadingFlags n
        | some _ => set r
      else pure ()
    | .plain c :: rest =>
      if verbose && isVerboseBlank c then
        set { r with toks := rest }
        readLeadingFlags n
      else if verbose && c == '#' then
        set { r with toks := rest }
        skipComment (rest.length + 1)
        readLeadingFlags n
      else pure ()
    | _ => pure ()

/-- Whether a pattern has a repetition anywhere. -/
def Node.repeats : Node → Bool
  | .rep .. => true
  | .group _ b => b.repeats
  | .look _ _ _ b => b.repeats
  | .atomic b => b.repeats
  | .cond _ y n => y.repeats || n.repeats
  | .seq items => items.attach.any fun ⟨x, _⟩ => x.repeats
  | .alt items => items.attach.any fun ⟨x, _⟩ => x.repeats
  | _ => false

/-- Reads a whole pattern. -/
def parse (pattern : String) : Except String Node := do
  let toks ← tokenize pattern.toList
  let run : Parse Node := do
    readLeadingFlags (toks.length + 1)
    let r ← get
    let (node, _) ← readAlternation (4 * toks.length + 8) (r.flags.contains .verbose) 0 r.flags
    if (← peek).isSome then throw "unbalanced parenthesis"
    let r ← get
    for g in r.condRefs do
      if g ≥ r.groups then throw ("invalid group reference " ++ toString g)
    if r.flags.contains .template && node.repeats then
      throw "internal: unsupported template operator"
    if r.flags.contains .ascii && r.flags.contains .unicode then
      throw "ASCII and UNICODE flags are incompatible"
    return node
  (run.run { toks := toks }).map (·.1)

/-- Whether a text is a valid pattern. -/
def isValid (pattern : String) : Bool :=
  (parse pattern).toOption.isSome

end Questionnaire.Pattern

import Questionnaire.Pattern.Syntax
import Questionnaire.Text.Blank
/-!
# Pattern search

`search p s` says whether the pattern `p` matches somewhere in `s`, trying every start position
from the left as a backtracking matcher does. Matching is written in continuation-passing style:
`matchAt` matches a node at a position and hands the end position and the groups captured so far
to a continuation, which reports the final outcome; trying another alternative is trying the next
option when the continuation fails. Atomic groups, possessive repetitions and look-arounds keep
only the first way their body matches.

Every call takes one unit of an explicit step budget; the budget given is large enough for any
match that does not backtrack exponentially, and running out counts as no match.

Case-insensitive matching compares simple lower cases, where a few characters are moreover
identified (such as the dotless `ı` with `i` and the long `ſ` with `s`), as the reference
engine does.
-/

namespace Questionnaire.Pattern

/-- The groups captured so far: the span of each group that has matched, latest first. -/
abbrev Captures := List (Nat × Nat × Nat)

/-- Records the span of a group. -/
def Captures.put (c : Captures) (gid start stop : Nat) : Captures :=
  (gid, start, stop) :: c.filter (·.1 != gid)

/-- The span of a group, if it has matched. -/
def Captures.span? (c : Captures) (gid : Nat) : Option (Nat × Nat) :=
  (c.find? (·.1 == gid)).map (·.2)

/-- Lower cases that are matched as one character without regard to case, each mapped to the
first of its class. -/
def foldKey (n : Nat) : Nat :=
  match n with
  | 0x131 => 0x69
  | 0x17f => 0x73
  | 0x3bc => 0xb5
  | 0x3b9 => 0x345
  | 0x1fbe => 0x345
  | 0x1fd3 => 0x390
  | 0x1fe3 => 0x3b0
  | 0x3d0 => 0x3b2
  | 0x3f5 => 0x3b5
  | 0x3d1 => 0x3b8
  | 0x3f0 => 0x3ba
  | 0x3d6 => 0x3c0
  | 0x3f1 => 0x3c1
  | 0x3c3 => 0x3c2
  | 0x3d5 => 0x3c6
  | 0x1c80 => 0x432
  | 0x1c81 => 0x434
  | 0x1c82 => 0x43e
  | 0x1c83 => 0x441
  | 0x1c84 => 0x442
  | 0x1c85 => 0x442
  | 0x1c86 => 0x44a
  | 0x1c87 => 0x463
  | 0x1c88 => 0xa64b
  | 0x1e9b => 0x1e61
  | 0xfb06 => 0xfb05
  | _ => n

/-- The members of a class of `foldKey`. -/
def foldMembers (k : Nat) : List Nat :=
  k :: ([0x131, 0x17f, 0x3bc, 0x3b9, 0x1fbe, 0x1fd3, 0x1fe3, 0x3d0, 0x3f5, 0x3d1, 0x3f0, 0x3d6,
    0x3f1, 0x3c3, 0x3d5, 0x1c80, 0x1c81, 0x1c82, 0x1c83, 0x1c84, 0x1c85, 0x1c86, 0x1c87, 0x1c88,
    0x1e9b, 0xfb06].filter fun m => foldKey m == k)

/-- The ASCII lower case of a code point. -/
def asciiLower (n : Nat) : Nat :=
  if 0x41 ≤ n && n ≤ 0x5a then n + 32 else n

/-- The key under which a code point is compared in a folding mode. -/
def keyOf : Fold → Nat → Nat
  | .exact, n => n
  | .ascii, n => asciiLower n
  | .unicode, n => foldKey (Text.simpleLower n)

/-- The code points whose simple lower case is `m`. -/
def lowerPreimage (m : Nat) : List Nat :=
  m :: (Text.lowerRuns.toList.filterMap fun (first, last, shift, stride) =>
    let y := (m : Int) - shift
    if first ≤ y && y ≤ last && (y.toNat - first) % stride == 0 && y.toNat != m then
      some y.toNat else none)

/-- The code points compared equal to `n` in a folding mode. -/
def foldClass : Fold → Nat → List Nat
  | .exact, n => [n]
  | .ascii, n =>
    let l := asciiLower n
    if 0x61 ≤ l && l ≤ 0x7a then [l, l - 32] else [n]
  | .unicode, n => (foldMembers (keyOf .unicode n)).flatMap lowerPreimage

/-- Whether a character is in a class shorthand. -/
def Category.holds (cat : Category) (ascii : Bool) (c : Char) : Bool :=
  match cat with
  | .digit => if ascii then c.isDigit else Text.isDecimal c
  | .space =>
    if ascii then c == ' ' || c == '\t' || c == '\n' || c == '\r' || c == '\x0b' || c == '\x0c'
    else Text.isBlank c
  | .word => if ascii then Text.isAsciiWordChar c else Text.isWordChar c

/-- Whether a code point is an item of a set, compared exactly. -/
def SetItem.holds (n : Nat) : SetItem → Bool
  | .code m => n == m
  | .range lo hi => lo ≤ n && n ≤ hi
  | .category cat neg ascii =>
    match Char.ofNat n with
    | c => if c.toNat == n then cat.holds ascii c != neg else neg

/-- Whether a character is in a set. Without regard to case, the character stands for every
character compared equal to it. -/
def setHolds (items : List SetItem) (fold : Fold) (c : Char) : Bool :=
  (foldClass fold c.toNat).any fun n => items.any (·.holds n)

/-- Whether a character is part of a word, in a character model. -/
def isWordAt (text : Array Char) (ascii : Bool) (i : Nat) : Bool :=
  match text[i]? with
  | some c => Category.word.holds ascii c
  | none => false

/-- Whether an anchor holds at a position. -/
def Anchor.holds (text : Array Char) (pos : Nat) : Anchor → Bool
  | .lineStart multiline => pos == 0 || (multiline && text[pos - 1]? == some '\n')
  | .lineEnd multiline =>
    pos == text.size || text[pos]? == some '\n' && (multiline || pos + 1 == text.size)
  | .textStart => pos == 0
  | .textEnd => pos == text.size
  | .boundary ascii =>
    text.size != 0 && (pos != 0 && isWordAt text ascii (pos - 1)) != isWordAt text ascii pos
  | .nonBoundary ascii =>
    text.size != 0 && (pos != 0 && isWordAt text ascii (pos - 1)) == isWordAt text ascii pos

/-- Whether the text at `pos` repeats the span `[start, stop)`. -/
def repeatsAt (text : Array Char) (fold : Fold) (start stop pos : Nat) : Bool :=
  pos + (stop - start) ≤ text.size &&
    (List.range (stop - start)).all fun i =>
      match text[start + i]?, text[pos + i]? with
      | some a, some b => keyOf fold a.toNat == keyOf fold b.toNat
      | _, _ => false

/-- What a match hands on: the end position and the captured groups. -/
abbrev Outcome := Option (Nat × Captures)

mutual

/-- Matches `node` at `pos`, then the continuation `k` from where it ends. -/
def matchAt (text : Array Char) : Nat → Node → Nat → Captures →
    (Nat → Captures → Outcome) → Outcome
  | 0, _, _, _, _ => none
  | fuel + 1, node, pos, caps, k =>
    match node with
    | .code n fold =>
      match text[pos]? with
      | some c => if keyOf fold c.toNat == keyOf fold n then k (pos + 1) caps else none
      | none => none
    | .any dotAll =>
      match text[pos]? with
      | some c => if dotAll || c != '\n' then k (pos + 1) caps else none
      | none => none
    | .set negated items fold =>
      match text[pos]? with
      | some c => if setHolds items fold c != negated then k (pos + 1) caps else none
      | none => none
    | .category cat negated ascii =>
      match text[pos]? with
      | some c => if cat.holds ascii c != negated then k (pos + 1) caps else none
      | none => none
    | .anchor a => if a.holds text pos then k pos caps else none
    | .group none body => matchAt text fuel body pos caps k
    | .group (some gid) body =>
      matchAt text fuel body pos caps fun stop c => k stop (c.put gid pos stop)
    | .backref gid fold =>
      match caps.span? gid with
      | some (start, stop) =>
        if repeatsAt text fold start stop pos then k (pos + (stop - start)) caps else none
      | none => none
    | .look behind negated width body =>
      let found : Outcome :=
        if behind then
          if width ≤ pos then matchAt text fuel body (pos - width) caps fun p c => some (p, c)
          else none
        else matchAt text fuel body pos caps fun p c => some (p, c)
      match found, negated with
      | some (_, c), false => k pos c
      | none, true => k pos caps
      | _, _ => none
    | .rep lo hi .possessive body =>
      match repeatFrom text fuel body lo hi .greedy 0 pos caps fun p c => some (p, c) with
      | some (p, c) => k p c
      | none => none
    | .rep lo hi greed body => repeatFrom text fuel body lo hi greed 0 pos caps k
    | .atomic body =>
      match matchAt text fuel body pos caps fun p c => some (p, c) with
      | some (p, c) => k p c
      | none => none
    | .cond gid yes no =>
      if (caps.span? gid).isSome then matchAt text fuel yes pos caps k
      else matchAt text fuel no pos caps k
    | .seq [] => k pos caps
    | .seq (item :: rest) =>
      matchAt text fuel item pos caps fun p c => matchAt text fuel (.seq rest) p c k
    | .alt [] => none
    | .alt (b :: bs) =>
      (matchAt text fuel b pos caps k).orElse fun _ => matchAt text fuel (.alt bs) pos caps k

/-- Matches further repetitions of `body` after `count` of them, then the continuation. A
repetition that matches the empty text ends the repeating. -/
def repeatFrom (text : Array Char) : Nat → Node → Nat → Option Nat → Greed → Nat → Nat →
    Captures → (Nat → Captures → Outcome) → Outcome
  | 0, _, _, _, _, _, _, _, _ => none
  | fuel + 1, body, lo, hi, greed, count, pos, caps, k =>
    if count < lo then
      matchAt text fuel body pos caps fun p c =>
        repeatFrom text fuel body lo hi greed (count + 1) p c k
    else
      let more : Unit → Outcome := fun _ =>
        if hi.all (count < ·) then
          matchAt text fuel body pos caps fun p c =>
            if p == pos then k p c else repeatFrom text fuel body lo hi greed (count + 1) p c k
        else none
      match greed with
      | .lazy => (k pos caps).orElse more
      | _ => (more ()).orElse fun _ => k pos caps

end

/-- The number of nodes of a pattern. -/
def Node.size : Node → Nat
  | .group _ b => b.size + 1
  | .look _ _ _ b => b.size + 1
  | .rep _ _ _ b => b.size + 1
  | .atomic b => b.size + 1
  | .cond _ y n => y.size + n.size + 1
  | .seq items => (items.attach.map fun ⟨x, _⟩ => x.size).foldr (· + ·) 0 + 1
  | .alt items => (items.attach.map fun ⟨x, _⟩ => x.size).foldr (· + ·) 0 + 1
  | _ => 1

/-- Whether the pattern matches the text starting somewhere at or after `start`. -/
def searchFrom (node : Node) (text : Array Char) (fuel : Nat) : Nat → Nat → Bool
  | 0, _ => false
  | n + 1, start =>
    (matchAt text fuel node start [] fun p c => some (p, c)).isSome ||
      (start < text.size && searchFrom node text fuel n (start + 1))

/-- Whether a parsed pattern matches somewhere in a text. -/
def Node.search (node : Node) (s : String) : Bool :=
  let text := s.toList.toArray
  searchFrom node text (4 * (text.size + 2) * (node.size + 2) + 64) (text.size + 1) 0

/-- Whether a pattern matches somewhere in a text; `none` when the pattern is not valid. -/
def search (pattern s : String) : Option Bool :=
  (parse pattern).toOption.map (·.search s)

example : search "^(#[0-9A-Fa-f]{3}|#[0-9A-Fa-f]{6})?$" "#12" = some false ∧
    search "^(#[0-9A-Fa-f]{3}|#[0-9A-Fa-f]{6})?$" "#0EA5E9" = some true ∧
    search "^(#[0-9A-Fa-f]{3}|#[0-9A-Fa-f]{6})?$" "" = some true ∧
    search "(" "" = none := by decide +kernel

end Questionnaire.Pattern

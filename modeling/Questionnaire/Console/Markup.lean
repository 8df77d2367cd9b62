/-!
# Console markup

Text printed on the console may carry style tags in square brackets: `[bold]`, `[red]`, `[/red]`
or `[/]`. A tag is a `[` followed by a lower-case ASCII letter, `#`, `/` or `@`, and by anything up
to the next `]` that has no `[` before it. Styles do not show in the plain text the console
prints, so rendering markup removes the tags and keeps the text between them.

Backslashes in front of a tag escape it: an odd number makes the tag literal text, and each pair
stands for one literal backslash. A closing tag must close a tag that is open, else the markup
is malformed. `escape` puts a backslash in front of every tag of a text, so that rendering the
escaped text shows the tags literally.

Printed text also loses the control characters bell, backspace, vertical tab, form feed and
carriage return.
-/

namespace Questionnaire.Console

/-- Whether a character may start a tag. -/
def isTagStart (c : Char) : Bool :=
  ('a' ≤ c && c ≤ 'z') || c == '#' || c == '/' || c == '@'

/-- The text of a tag up to its closing bracket: the characters before the first `]`, provided
no `[` comes first, and the characters after the `]`. -/
def tagBody : List Char → Option (List Char × List Char)
  | [] => none
  | ']' :: rest => some ([], rest)
  | '[' :: _ => none
  | c :: rest => (tagBody rest).map fun (body, after) => (c :: body, after)

/-- A tag at the start of some characters, with the backslashes before it: the number of
backslashes, the tag's text between the brackets, and the characters after it. -/
def tagAt (cs : List Char) : Option (Nat × List Char × List Char) :=
  let slashes := (cs.takeWhile (· == '\\')).length
  match cs.drop slashes with
  | '[' :: c :: rest =>
    if isTagStart c then (tagBody rest).map fun (body, after) => (slashes, c :: body, after)
    else none
  | _ => none

/-- What follows a tag's closing bracket is shorter than the characters scanned. -/
theorem tagBody_after_lt : ∀ (cs body after : List Char),
    tagBody cs = some (body, after) → after.length < cs.length
  | [], _, _, h => by simp [tagBody] at h
  | c :: rest, body, after, h => by
    by_cases hc : c = ']'
    · subst hc
      simp [tagBody] at h
      obtain ⟨-, rfl⟩ := h
      simp
    · by_cases hb : c = '['
      · subst hb
        simp [tagBody] at h
      · have h' : (tagBody rest).map (fun (p : List Char × List Char) => (c :: p.1, p.2)) =
            some (body, after) := by
          simpa [tagBody, hc, hb] using h
        cases hr : tagBody rest with
        | none => simp [hr] at h'
        | some p =>
          simp [hr] at h'
          obtain ⟨-, rfl⟩ := h'
          have := tagBody_after_lt rest p.1 p.2 (by simp [hr])
          simp
          omega

/-- What follows a tag is shorter than the characters it was found in. -/
theorem tagAt_after_lt (c : Char) (rest : List Char) (slashes : Nat) (body after : List Char)
    (h : tagAt (c :: rest) = some (slashes, body, after)) :
    after.length < rest.length + 1 := by
  unfold tagAt at h
  simp only at h
  split at h
  · rename_i c' r hd
    split at h
    · cases hb : tagBody r with
      | none => simp [hb] at h
      | some p =>
        simp [hb] at h
        obtain ⟨-, -, rfl⟩ := h
        have h1 := tagBody_after_lt r p.1 p.2 (by simp [hb])
        have h2 := congrArg List.length hd
        simp only [List.length_drop, List.length_cons] at h2
        omega
    · simp at h
  · simp at h

/-- A piece of markup: text, or a tag's name (the part of its text before any `=`). -/
inductive Piece where
  | text (s : String)
  | tag (name : String)
deriving DecidableEq, Repr

/-- The pieces of markup, given the plain text met since the last tag (reversed). Plain text
turns `\[` into `[`. -/
def pieces : List Char → List Char → List Piece
  | [], acc => if acc.isEmpty then [] else [.text ((String.ofList acc.reverse).replace "\\[" "[")]
  | c :: rest, acc =>
    match h : tagAt (c :: rest) with
    | none => pieces rest (c :: acc)
    | some (slashes, body, after) =>
      let plain : List Piece :=
        if acc.isEmpty then [] else [.text ((String.ofList acc.reverse).replace "\\[" "[")]
      let literal : List Piece :=
        if slashes / 2 == 0 then [] else [.text (String.ofList (List.replicate (slashes / 2) '\\'))]
      let tag : Piece :=
        if slashes % 2 == 1 then .text ("[" ++ String.ofList body ++ "]")
        else .tag (String.ofList (body.takeWhile (· != '=')))
      plain ++ literal ++ tag :: pieces after []
termination_by cs => cs.length
decreasing_by
  all_goals simp_wf
  all_goals
    first
    | omega
    | (have hlt := tagAt_after_lt c rest _ _ _ h; omega)

/-- The control characters that printing drops. -/
def isDroppedControl (c : Char) : Bool :=
  c == '\x07' || c == '\x08' || c == '\x0b' || c == '\x0c' || c == '\r'

/-- A text without the control characters that printing drops. -/
def dropControls (s : String) : String :=
  String.ofList (s.toList.filter fun c => !isDroppedControl c)

/-- The name of a style as tags are matched: without surrounding blanks, in lower case. -/
def styleKey (name : String) : String :=
  (name.trimAscii.toString).toLower

/-- Renders markup to plain text; a closing tag that closes nothing is an error. -/
def render (markup : String) : Except String String := do
  let mut open_ : List String := []
  let mut out := ""
  for p in pieces markup.toList [] do
    match p with
    | .text s => out := out ++ s
    | .tag name =>
      if name.startsWith "/" then
        let key := styleKey (name.drop 1).toString
        if key.isEmpty then
          match open_ with
          | _ :: rest => open_ := rest
          | [] => throw "closing tag '[/]' has nothing to close"
        else if open_.contains key then
          open_ := open_.erase key
        else throw ("closing tag '[" ++ name ++ "]' doesn't match any open tag")
      else open_ := styleKey name :: open_
  return dropControls out

/-- Escapes every tag of a text, so that it renders as itself. -/
def escapeChars : List Char → List Char
  | [] => []
  | c :: rest =>
    match h : tagAt (c :: rest) with
    | none => c :: escapeChars rest
    | some (slashes, body, after) =>
      List.replicate (2 * slashes) '\\' ++ '\\' :: '[' :: body ++ ']' :: escapeChars after
termination_by cs => cs.length
decreasing_by
  all_goals simp_wf
  all_goals
    first
    | omega
    | (have hlt := tagAt_after_lt c rest _ _ _ h; omega)

/-- A text with its tags escaped; a final lone backslash is doubled so that it cannot escape
what follows. -/
def escape (s : String) : String :=
  let e := String.ofList (escapeChars s.toList)
  if e.endsWith "\\" && !e.endsWith "\\\\" then e ++ "\\" else e

end Questionnaire.Console

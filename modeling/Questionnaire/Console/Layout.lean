import Questionnaire.Text.Blank
import Questionnaire.Text.Cells
/-!
# Console line layout

The console is a fixed number of cells wide, and every printed text is laid out on its own: it is
split at its line breaks, tabs are expanded to the next multiple of eight cells, and each line is
wrapped at word boundaries.

A word is a run of non-blank characters together with the blanks around it (`\s*\S+\s*`), so a
line that is broken keeps the blanks that end it. A word fits when its non-blank part fits in
the cells left; a word that does not fit starts a new line, and a word wider than a whole line
is cut into pieces that fill lines. A line that ends up longer than the width loses trailing
blanks, and is finally cut at the width.
-/

namespace Questionnaire.Console

open Text

/-- The words of a line, with the index where each starts: leading blanks, non-blanks (at least
one), trailing blanks. Since a word takes all the blanks after it, a new word starts exactly where
a non-blank follows a blank that ends a word. -/
def words (cs : List Char) : List (Nat × List Char) :=
  if cs.all isBlank then []
  else
    let step (acc : List (Nat × List Char) × List Char × Nat × Bool × Nat) (c : Char) :=
      let (done, current, start, seen, i) := acc
      let blankBefore := match current with
        | d :: _ => isBlank d
        | [] => false
      if seen && blankBefore && !isBlank c then
        (done ++ [(start, current.reverse)], [c], i, true, i + 1)
      else (done, c :: current, start, seen || !isBlank c, i + 1)
    let (done, current, start, _, _) := cs.foldl step ([], [], 0, false, 0)
    done ++ [(start, current.reverse)]

/-- The cells of some characters. -/
def cells (cs : List Char) : Nat :=
  cs.foldl (fun n c => n + cellWidth c) 0

/-- Cuts characters into pieces of at most `width` cells (a character wider than the width
stands alone). -/
def chopCells (width : Nat) (cs : List Char) : List (List Char) :=
  let (done, current, _) := cs.foldl (fun (acc : List (List Char) × List Char × Nat) c =>
    let (done, current, used) := acc
    let w := cellWidth c
    if used + w > width then (done ++ [current.reverse], [c], w)
    else (done, c :: current, used + w)) ([], [], 0)
  done ++ [current.reverse]

/-- Characters without their trailing blanks. -/
def dropTrailing (cs : List Char) : List Char :=
  (cs.reverse.dropWhile isBlank).reverse

/-- The indexes where a line breaks when wrapped at `width` cells. -/
def breaks (width : Nat) (line : List Char) : List Nat :=
  let step (acc : List Nat × Nat) (w : Nat × List Char) : List Nat × Nat :=
    let (found, offset) := acc
    let (start, word) := w
    let needed := cells (dropTrailing word)
    if needed + offset ≤ width then (found, offset + cells word)
    else if needed > width then
      let pieces := chopCells width word
      let (found, _, offset) := pieces.foldl (fun (acc : List Nat × Nat × Nat) piece =>
        let (found, start, _) := acc
        (if start == 0 then found else found ++ [start], start + piece.length, cells piece))
        (found, start, offset)
      (found, offset)
    else if offset > 0 && start > 0 then (found ++ [start], cells word)
    else (found, offset)
  ((words line).foldl step ([], 0)).1

/-- The pieces of characters between break indexes. -/
def divide (cs : List Char) (at_ : List Nat) : List (List Char) :=
  let bounds := 0 :: at_ ++ [cs.length]
  (bounds.zip bounds.tail).map fun (a, b) => (cs.drop a).take (b - a)

/-- Characters cut to at most `width` cells; a wide character cut in half leaves a blank. -/
def cropCells (width : Nat) (cs : List Char) : List Char :=
  let (kept, used) := cs.foldl (fun (acc : List Char × Nat) c =>
    let (kept, used) := acc
    if used ≥ width then (kept, used)
    else if used + cellWidth c ≤ width then (c :: kept, used + cellWidth c)
    else (' ' :: kept, width)) ([], 0)
  let _ := used
  kept.reverse

/-- A wrapped line made to fit: trailing blanks beyond the width removed, then cut. -/
def fitLine (width : Nat) (cs : List Char) : List Char :=
  let cs :=
    if cs.length > width then
      let excess := cs.length - width
      let blanks := (cs.reverse.takeWhile isBlank).length
      cs.take (cs.length - min blanks excess)
    else cs
  if cells cs > width then cropCells width cs else cs

/-- A line with its tabs expanded to the next multiple of eight cells. -/
def expandTabs (cs : List Char) : List Char :=
  let (out, _) := cs.foldl (fun (acc : List Char × Nat) c =>
    let (out, col) := acc
    if c == '\t' then
      let col := col + 1
      let pad := if col % 8 == 0 then 0 else 8 - col % 8
      (out ++ ' ' :: List.replicate pad ' ', col + pad)
    else (out ++ [c], col + cellWidth c)) ([], 0)
  out

/-- The lines of some characters, split at line breaks. -/
def splitLines (cs : List Char) : List (List Char) :=
  let (lines, current) := cs.foldl (fun (acc : List (List Char) × List Char) c =>
    if c == '\n' then (acc.1 ++ [acc.2.reverse], []) else (acc.1, c :: acc.2)) ([], [])
  lines ++ [current.reverse]

/-- The lines of a text laid out at `width` cells. -/
def layout (width : Nat) (text : String) : List String :=
  (splitLines text.toList).flatMap fun line =>
    let line := if line.contains '\t' then expandTabs line else line
    (divide line (breaks width line)).map fun piece => String.ofList (fitLine width piece)

/-- What printing a text shows on a console `width` cells wide, followed by `ending`. -/
def shown (width : Nat) (text ending : String) : String :=
  "\n".intercalate (layout width text) ++ ending

end Questionnaire.Console

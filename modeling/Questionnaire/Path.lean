import Questionnaire.Value.Basic
import Questionnaire.Text.Digit
import Questionnaire.Fault
/-!
# Paths into answer documents

A path is a text such as `project.name` or `screens[0].name`: segments separated by dots, where
`[n]` with decimal digits `n` is one more segment `n`. Reading a path walks objects by key and
arrays by index; writing a path creates the objects it needs on the way.

* `Path.segments` cuts a path text into its segments.
* `Value.lookup` reads the value at a path: `none` when a segment is absent. An array takes a
  segment of digit-like characters as an index; if those characters are no integer the read
  fails with a fault.
* `Value.setAt` writes a value at a path and reports every intermediate value that was in the way
  and had to be replaced by an empty object. The document root may be an array, whose segment is
  then read as an integer, possibly negative, counted from the end.
-/

namespace Questionnaire

namespace Path

/-- Rewrites every `[digits]` into `.digits`, scanning from the left; a bracket that does not open
such a group stays as it is. The second argument holds the digits read since an unclosed `[`,
reversed. -/
def bracketsToDotsFrom : List Char → Option (List Char) → List Char
  | [], none => []
  | [], some ds => '[' :: ds.reverse
  | c :: rest, none =>
    if c = '[' then bracketsToDotsFrom rest (some []) else c :: bracketsToDotsFrom rest none
  | c :: rest, some ds =>
    if Text.isDecimal c then bracketsToDotsFrom rest (some (c :: ds))
    else if c = ']' && !ds.isEmpty then '.' :: ds.reverse ++ bracketsToDotsFrom rest none
    else
      '[' :: ds.reverse ++
        (if c = '[' then bracketsToDotsFrom rest (some []) else c :: bracketsToDotsFrom rest none)

/-- Rewrites every `[digits]` into `.digits`. -/
def bracketsToDots (cs : List Char) : List Char :=
  bracketsToDotsFrom cs none

/-- Cuts a character list at every `sep`. -/
def splitOn (sep : Char) : List Char → List (List Char)
  | [] => [[]]
  | c :: rest =>
    if c = sep then [] :: splitOn sep rest
    else match splitOn sep rest with
      | [] => [[c]]
      | first :: more => (c :: first) :: more

/-- The segments of a path text; there is always at least one. -/
def segments (path : String) : List String :=
  (splitOn '.' (bracketsToDots path.toList)).map String.ofList

theorem splitOn_ne_nil (sep : Char) (cs : List Char) : splitOn sep cs ≠ [] := by
  cases cs with
  | nil => simp [splitOn]
  | cons c rest =>
    simp only [splitOn]
    split
    · simp
    · split <;> simp

theorem segments_ne_nil (path : String) : segments path ≠ [] := by
  simp [segments, splitOn_ne_nil]

end Path

/-- The position that index `n` names in an array of `size` items: a negative index counts from
the end. -/
def arraySlot (n : Int) (size : Nat) : Option Nat :=
  if 0 ≤ n then (if n.toNat < size then some n.toNat else none)
  else if (size : Int) + n ≥ 0 then some (((size : Int) + n).toNat) else none

/-- The index that a path segment names in an array of `size` items, for reading: a segment of
digit-like characters whose value is below the size. -/
def readIndex (seg : String) (size : Nat) : Except Fault (Option Nat) :=
  if Text.isDigitText seg then
    match Text.readInt seg with
    | none => .error (.notAnInteger seg)
    | some n => .ok (if n < size then some n.toNat else none)
  else .ok none

namespace Value

/-- The value at the given segments, `none` when one is absent. -/
def lookupSegs : Value → List String → Except Fault (Option Value)
  | v, [] => .ok (some v)
  | .obj fields, seg :: rest =>
    match fieldGet? fields seg with
    | none => .ok none
    | some child => lookupSegs child rest
  | .arr items, seg :: rest =>
    match readIndex seg items.length with
    | .error e => .error e
    | .ok none => .ok none
    | .ok (some i) =>
      match items[i]? with
      | none => .ok none
      | some child => lookupSegs child rest
  | _, _ :: _ => .ok none

/-- The value at a path, `none` when a segment is absent. -/
def lookup (v : Value) (path : String) : Except Fault (Option Value) :=
  lookupSegs v (Path.segments path)

/-- Whether `seg` can be written into `v` as it is: any key into an object, and into an array an
index of digit-like characters at most the array's size (the size itself appends). -/
def admitsSegment (v : Value) (seg : String) : Except Fault Bool :=
  match v with
  | .obj _ => .ok true
  | .arr items =>
    if Text.isDigitText seg then
      match Text.readInt seg with
      | none => .error (.notAnInteger seg)
      | some n => .ok (n ≤ items.length)
    else .ok false
  | _ => .ok false

/-- An intermediate value that a write replaced by an empty object, with the segment under which
it stood. -/
structure Replaced where
  segment : String
  previous : Value

/-- The slot of an array that a segment writes to: the segment is read as an integer, and the
index one past the end appends a null first. -/
def arrayTarget (items : List Value) (seg : String) : Except Fault (List Value × Nat) :=
  match Text.readInt seg with
  | none => .error (.notAnInteger seg)
  | some n =>
    let items' := if n = items.length then items ++ [.null] else items
    match arraySlot n items'.length with
    | none => .error (.indexOutOfRange n items'.length)
    | some i => .ok (items', i)

/-- The child that the next segment descends into: the value in the way when it admits the next
segment, otherwise an empty object, recording the replaced value unless it was null. -/
def descendInto (seg next : String) (child : Value) : Except Fault (Value × List Replaced) :=
  match admitsSegment child next with
  | .error e => .error e
  | .ok true => .ok (child, [])
  | .ok false =>
    match child with
    | .null => .ok (.obj [], [])
    | old => .ok (.obj [], [⟨seg, old⟩])

/-- Writes `x` at the given segments of `v`. -/
def setSegs (v : Value) (segs : List String) (x : Value) : Except Fault (Value × List Replaced) :=
  match segs with
  | [] => .ok (x, [])
  | [seg] =>
    match v with
    | .obj fields => .ok (.obj (fieldSet fields seg x), [])
    | .arr items =>
      match arrayTarget items seg with
      | .error e => .error e
      | .ok (items', i) => .ok (.arr (items'.set i x), [])
    | _ => .error .notAssignable
  | seg :: next :: rest =>
    match v with
    | .obj fields =>
      let child := (fieldGet? fields seg).getD .null
      match descendInto seg next child with
      | .error e => .error e
      | .ok (start, reps) =>
        match setSegs start (next :: rest) x with
        | .error e => .error e
        | .ok (child', reps') => .ok (.obj (fieldSet fields seg child'), reps ++ reps')
    | .arr items =>
      match arrayTarget items seg with
      | .error e => .error e
      | .ok (items', i) =>
        let child := items'[i]?.getD .null
        match descendInto seg next child with
        | .error e => .error e
        | .ok (start, reps) =>
          match setSegs start (next :: rest) x with
          | .error e => .error e
          | .ok (child', reps') => .ok (.arr (items'.set i child'), reps ++ reps')
    | _ => .error .noMembers

/-- Writes `x` at a path; the new document and the replaced intermediates, in path order. -/
def setAt (v : Value) (path : String) (x : Value) : Except Fault (Value × List Replaced) :=
  setSegs v (Path.segments path) x

end Value

example : Path.segments "a.b[0].c" = ["a", "b", "0", "c"] := by decide +kernel
example : Path.segments "a[²]" = ["a[²]"] := by decide +kernel

end Questionnaire

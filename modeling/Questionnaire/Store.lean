import Questionnaire.Text.Case
/-!
# The working directory

Programs that read and write files see a directory tree: each path holds a file (bytes) or a
directory. Paths are normalised the way path objects print them: repeated separators and `.`
parts are dropped, a trailing separator too, and an empty path is `.`; exactly two leading slashes
are kept as they are, any other number becomes one. A relative path is taken from the working
directory; the bundled data files live under `<DATA>`.

Reading a text decodes UTF-8 strictly and turns every line ending (`\r\n` or a lone `\r`) into
`\n`; writing a text creates the missing parent directories and encodes UTF-8.
-/

namespace Questionnaire

/-- What a path holds. -/
inductive Entry where
  | file (bytes : List UInt8)
  | dir
deriving DecidableEq, Repr

/-- Why a file cannot be read. -/
inductive ReadFailure where
  | notFound
  | isDirectory
  /-- A directory on the way to it is a file. -/
  | notDirectory
  /-- The bytes are not UTF-8: why, as the decoder words it. -/
  | notUtf8 (reason : String)
deriving DecidableEq, Repr

/-- Why a file cannot be written. Writing first creates the missing directories above the file,
so a file standing where one of them should be stops it, and so does a directory at the file's own
path. -/
inductive WriteFailure where
  /-- The directory the file goes in is a file. -/
  | parentIsFile
  /-- A directory further up is a file. -/
  | notDirectory
  /-- The path is a directory. -/
  | isDirectory
deriving DecidableEq, Repr

/-- The name under which a failed write is reported. -/
def WriteFailure.name : WriteFailure → String
  | .parentIsFile => "FileExistsError"
  | .notDirectory => "NotADirectoryError"
  | .isDirectory => "IsADirectoryError"

/-- A directory tree: the entries by normalised path. -/
structure Store where
  entries : List (String × Entry) := []
deriving Repr

namespace Store

/-- The pieces of a text between slashes, the current piece being `acc` (reversed). -/
def splitSlashes : List Char → List Char → List String
  | [], acc => [String.ofList acc.reverse]
  | '/' :: rest, acc => String.ofList acc.reverse :: splitSlashes rest []
  | c :: rest, acc => splitSlashes rest (c :: acc)

/-- The parts of a path and its root (`""`, `/` or `//`). -/
def parts (p : String) : String × List String :=
  let cs := p.toList
  let leading := (cs.takeWhile (· == '/')).length
  let root := if leading == 0 then "" else if leading == 2 then "//" else "/"
  (root, (splitSlashes cs []).filter fun s => !s.isEmpty && s != ".")

/-- A path as it prints once normalised. -/
def normalize (p : String) : String :=
  let (root, ps) := parts p
  let body := "/".intercalate ps
  if root.isEmpty && body.isEmpty then "." else root ++ body

/-- The parent of a normalised path, if it has one. -/
def parent (p : String) : Option String :=
  let (root, ps) := parts p
  match ps.dropLast with
  | [] => none
  | qs => some (root ++ "/".intercalate qs)

/-- The final part of a path. -/
def fileName (p : String) : String :=
  ((parts p).2.getLast?).getD ""

/-- The suffix of a path's final part: from its last dot, when that dot is neither first nor
last. -/
def suffix (p : String) : String :=
  let name := (fileName p).toList
  match (List.range name.length).reverse.find? (fun i => name[i]? == some '.') with
  | some i => if 0 < i && i + 1 < name.length then String.ofList (name.drop i) else ""
  | none => ""

/-- What a path holds; the working directory itself is a directory. -/
def lookup (s : Store) (p : String) : Option Entry :=
  let key := normalize p
  if key == "." then some .dir else s.entries.lookup key

/-- Whether a path exists. -/
def «exists» (s : Store) (p : String) : Bool :=
  (s.lookup p).isSome

/-- Sets what a path holds. -/
def put (s : Store) (p : String) (e : Entry) : Store :=
  let key := normalize p
  if s.entries.any (·.1 == key) then
    { entries := s.entries.map fun (k, v) => if k == key then (k, e) else (k, v) }
  else { entries := s.entries ++ [(key, e)] }

/-- The directories above a path, outermost first. -/
def ancestors (p : String) : List String :=
  let (root, ps) := parts p
  (List.range (ps.length - 1)).map fun i => root ++ "/".intercalate (ps.take (i + 1))

/-- Creates the directories above a path that are missing. -/
def makeParents (s : Store) (p : String) : Store :=
  (ancestors p).foldl (fun acc d => if acc.exists d then acc else acc.put d .dir) s

/-- The outermost directory above a path that is not a directory: missing, or a file. -/
def firstNonDirectory (s : Store) (p : String) : Option String :=
  (ancestors p).find? fun a => s.lookup a != some .dir

/-- Whether a directory above a path is a file, so that the path cannot be reached. -/
def blocked (s : Store) (p : String) : Bool :=
  match s.firstNonDirectory p with
  | some a => match s.lookup a with
    | some (.file _) => true
    | _ => false
  | none => false

/-- Turns `\r\n` and lone `\r` into `\n`. -/
def unifyNewlines : List Char → List Char
  | '\r' :: '\n' :: rest => '\n' :: unifyNewlines rest
  | '\r' :: rest => '\n' :: unifyNewlines rest
  | c :: rest => c :: unifyNewlines rest
  | [] => []

/-- Decodes UTF-8 strictly. -/
def decode (bytes : List UInt8) : Option String :=
  String.fromUTF8? (ByteArray.mk bytes.toArray)

/-- A byte as two lower-case hexadecimal digits. -/
def hexByte (b : Nat) : String :=
  let digit (d : Nat) : Char := if d < 10 then Char.ofNat (48 + d) else Char.ofNat (87 + d)
  String.ofList [digit (b / 16 % 16), digit (b % 16)]

/-- Whether a byte continues a UTF-8 sequence. -/
def isContinuation (b : Nat) : Bool :=
  0x80 ≤ b && b < 0xc0

/-- The first malformed sequence of some bytes, from position `i` on: its start, its end and what
is wrong with it. A sequence is malformed at its start byte, at the first byte that cannot
continue it (the bytes before that one are the sequence), or at the end of the bytes. -/
def malformedFrom (bytes : Array Nat) : Nat → Nat → Option (Nat × Nat × String)
  | 0, _ => none
  | fuel + 1, i =>
    match bytes[i]? with
    | none => none
    | some b =>
      let n := bytes.size
      let byteAt (k : Nat) : Nat := (bytes[i + k]?).getD 0
      let width := if b < 0x80 then 1 else if b < 0xc2 then 0 else if b < 0xe0 then 2
        else if b < 0xf0 then 3 else if b < 0xf5 then 4 else 0
      if width == 0 then some (i, i + 1, "invalid start byte")
      else if width == 1 then malformedFrom bytes fuel (i + 1)
      else
        let lo := if b == 0xe0 then 0xa0 else if b == 0xf0 then 0x90 else 0x80
        let hi := if b == 0xed then 0x9f else if b == 0xf4 then 0x8f else 0xbf
        let ok (k : Nat) : Bool := if k == 1 then lo ≤ byteAt 1 && byteAt 1 ≤ hi else isContinuation (byteAt k)
        let rec check : Nat → Nat → Option (Nat × Nat × String)
          | 0, _ => none
          | f + 1, k =>
            if k == width then none
            else if i + k ≥ n then some (i, n, "unexpected end of data")
            else if !ok k then some (i, i + k, "invalid continuation byte")
            else check f (k + 1)
        match check width 1 with
        | some e => some e
        | none => malformedFrom bytes fuel (i + width)

/-- The words of the decoder for bytes that are not UTF-8. -/
def decodeFailure (bytes : List UInt8) : String :=
  let arr := (bytes.map UInt8.toNat).toArray
  match malformedFrom arr (arr.size + 1) 0 with
  | some (start, stop, why) =>
    if stop == start + 1 then
      "'utf-8' codec can't decode byte 0x" ++ hexByte ((arr[start]?).getD 0) ++ " in position " ++
        toString start ++ ": " ++ why
    else
      "'utf-8' codec can't decode bytes in position " ++ toString start ++ "-" ++
        toString (stop - 1) ++ ": " ++ why
  | none => "'utf-8' codec can't decode bytes"

/-- Reads a text file. -/
def readText (s : Store) (p : String) : Except ReadFailure String :=
  match s.lookup p with
  | none => .error (if s.blocked p then .notDirectory else .notFound)
  | some .dir => .error .isDirectory
  | some (.file bytes) =>
    match decode bytes with
    | some t => .ok (String.ofList (unifyNewlines t.toList))
    | none => .error (.notUtf8 (decodeFailure bytes))

/-- Writes a text file, creating missing parent directories. -/
def writeText (s : Store) (p : String) (content : String) : Store :=
  (s.makeParents p).put p (.file content.toUTF8.toList)

/-- Writes a text file, creating missing parent directories, or says why it cannot: the outermost
directory above it that is a file, or a directory at its own path. -/
def write (s : Store) (p : String) (content : String) : Except WriteFailure Store :=
  if s.blocked p then
    .error (if s.firstNonDirectory p == parent p then .parentIsFile else .notDirectory)
  else if s.lookup p == some .dir then .error .isDirectory
  else .ok (s.writeText p content)

/-- The files that differ between two states of a tree, with their contents as text, sorted by
path. -/
def changedFiles (before after : Store) : List (String × String) :=
  let changed := after.entries.filterMap fun (k, e) =>
    match e with
    | .file bytes =>
      if before.entries.lookup k == some e then none
      else some (k, (decode bytes).getD (String.ofList (bytes.map fun b => Char.ofNat b.toNat)))
    | .dir => none
  changed.mergeSort fun a b => decide (a.1 ≤ b.1)

/-- How a write ends: the failure, or none when the file was written. -/
def writeFailure? (s : Store) (p content : String) : Option WriteFailure :=
  match s.write p content with
  | .error f => some f
  | .ok _ => none

end Store

example : Store.normalize "./a//b/" = "a/b" ∧ Store.normalize "" = "." ∧
    Store.normalize "//x/./y" = "//x/y" ∧ Store.normalize "///x" = "/x" ∧
    Store.suffix "q.YML" = ".YML" ∧ Store.suffix ".yaml" = "" := by decide +kernel

example : Store.writeFailure? {} "a/b.txt" "x" = none ∧
    Store.writeFailure? { entries := [("a", .file [])] } "a/b.txt" "x" = some .parentIsFile ∧
    Store.writeFailure? { entries := [("a", .file [])] } "a/b/c.txt" "x" = some .notDirectory ∧
    Store.writeFailure? { entries := [("a", .dir)] } "a" "x" = some .isDirectory ∧
    Store.writeFailure? {} "." "x" = some .isDirectory ∧
    Store.blocked { entries := [("a", .file [])] } "a/b" = true := by
  decide +kernel

example : Store.decodeFailure [0x41, 0xff] =
      "'utf-8' codec can't decode byte 0xff in position 1: invalid start byte" ∧
    Store.decodeFailure [0xe2, 0x82] =
      "'utf-8' codec can't decode bytes in position 0-1: unexpected end of data" ∧
    Store.decodeFailure [0xe0, 0x80] =
      "'utf-8' codec can't decode byte 0xe0 in position 0: invalid continuation byte" := by
  decide +kernel

end Questionnaire

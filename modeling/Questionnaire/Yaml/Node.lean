import Questionnaire.Yaml.Token
/-!
# YAML nodes

The tokens of a text are parsed into a tree of nodes, following the grammar of YAML streams:

* a stream holds at most one document here: an implicit one (a node with no marker), or an
  explicit one after `---`, possibly with directives before it; `...` may close it;
* a block node is an alias, or a node with an optional anchor and tag, holding a scalar, a flow
  collection or a block collection;
* in a block mapping, a value may be a sequence whose `-` entries stand at the key's own column
  (an *indentless* sequence);
* in a flow sequence, an entry `k: v` is a mapping of one pair;
* an entry that is left out (`- ` with nothing after it, a key without a value) is the empty
  plain scalar.

Aliases are replaced by the node their anchor names; an alias that names no earlier anchor, and
an anchor given twice, are errors. Each node carries its tag: an explicit tag, or for a plain
scalar the tag its text resolves to (`Resolve`), and otherwise the default tag of its kind.
-/

namespace Questionnaire.Yaml

/-- The prefix of the standard tags. -/
def stdTag (name : String) : String :=
  "tag:yaml.org,2002:" ++ name

/-- A node of a YAML document, with its tag. -/
inductive Node where
  | scalar (tag : String) (text : String)
  | seq (tag : String) (items : List Node)
  | map (tag : String) (pairs : List (Node × Node))
deriving Repr, Inhabited

/-- The tag of a node. -/
def Node.tag : Node → String
  | .scalar t _ => t
  | .seq t _ => t
  | .map t _ => t

/-- The state of the parser: the tokens left, the anchors met and the tag handles. -/
structure NodeState where
  tokens : List Token
  anchors : List (String × Node) := []
  handles : List (String × String) := [("!", "!"), ("!!", stdTag "")]

/-- A parsing step. -/
abbrev NodeReading := StateT NodeState (Except String)

namespace NodeReading

/-- The next token. -/
def peek : NodeReading Token := do
  match (← get).tokens with
  | t :: _ => return t
  | [] => return .streamEnd

/-- Takes the next token. -/
def take : NodeReading Token := do
  let s ← get
  match s.tokens with
  | t :: rest =>
    set { s with tokens := rest }
    return t
  | [] => return .streamEnd

/-- Whether the next token is one of some tokens. -/
def nextIn (ts : List Token) : NodeReading Bool := do
  return ts.contains (← peek)

/-- Records an anchor; naming one twice is an error. -/
def remember (anchor : Option String) (n : Node) : NodeReading Unit := do
  match anchor with
  | none => pure ()
  | some a =>
    if ((← get).anchors.lookup a).isSome then throw ("found duplicate anchor " ++ a)
    modify fun s => { s with anchors := (a, n) :: s.anchors }

/-- The full tag of a tag token. -/
def fullTag (handle : Option String) (suffix : String) : NodeReading String := do
  match handle with
  | none => return suffix
  | some h =>
    match (← get).handles.lookup h with
    | some pre => return pre ++ suffix
    | none => throw ("found undefined tag handle " ++ h)

/-- The tag of a scalar: an explicit tag, or what its text resolves to when it was plain or
tagged `!`. -/
def scalarTag (resolve : String → String) (tag : Option String) (text : String)
    (plain : Bool) : String :=
  match tag with
  | some "!" => resolve text
  | some t => t
  | none => if plain then resolve text else stdTag "str"

/-- The empty plain scalar, standing for a node that is left out. -/
def empty (resolve : String → String) : Node :=
  .scalar (resolve "") ""

/-- The default tag of a collection unless an explicit one is given. -/
def collectionTag (tag : Option String) (default : String) : String :=
  match tag with
  | none => stdTag default
  | some "!" => stdTag default
  | some t => t

mutual

/-- Parses a node; `block` allows block collections, `indentless` a sequence whose entries stand
at the column of the mapping key it is the value of. -/
def node (resolve : String → String) (block indentless : Bool) : Nat → NodeReading Node
  | 0 => throw "the document nests too deeply"
  | fuel + 1 => do
    match ← peek with
    | .alias name =>
      let _ ← take
      match (← get).anchors.lookup name with
      | some n => return n
      | none => throw ("found undefined alias " ++ name)
    | _ =>
      let mut anchor : Option String := none
      let mut tag : Option String := none
      match ← peek with
      | .anchor a =>
        let _ ← take
        anchor := some a
        match ← peek with
        | .tag h s =>
          let _ ← take
          tag := some (← fullTag h s)
        | _ => pure ()
      | .tag h s =>
        let _ ← take
        tag := some (← fullTag h s)
        match ← peek with
        | .anchor a =>
          let _ ← take
          anchor := some a
        | _ => pure ()
      | _ => pure ()
      match anchor with
      | some a =>
        if ((← get).anchors.lookup a).isSome then throw ("found duplicate anchor " ++ a)
      | none => pure ()
      let t ← peek
      let n ← match t with
        | .blockEntry =>
          if indentless then
            indentlessSequence resolve fuel [] >>= fun items =>
              pure (Node.seq (collectionTag tag "seq") items)
          else throw "expected the node content"
        | .scalar text plain _ => do
          let _ ← take
          pure (Node.scalar (scalarTag resolve tag text plain) text)
        | .flowSequenceStart => do
          let _ ← take
          let items ← flowSequence resolve fuel true []
          pure (Node.seq (collectionTag tag "seq") items)
        | .flowMappingStart => do
          let _ ← take
          let pairs ← flowMapping resolve fuel true []
          pure (Node.map (collectionTag tag "map") pairs)
        | .blockSequenceStart =>
          if block then do
            let _ ← take
            let items ← blockSequence resolve fuel []
            pure (Node.seq (collectionTag tag "seq") items)
          else throw "expected the node content"
        | .blockMappingStart =>
          if block then do
            let _ ← take
            let pairs ← blockMapping resolve fuel []
            pure (Node.map (collectionTag tag "map") pairs)
          else throw "expected the node content"
        | _ =>
          if anchor.isSome || tag.isSome then
            pure (Node.scalar (scalarTag resolve tag "" true) "")
          else throw "expected the node content"
      remember anchor n
      return n

/-- The entries of a block sequence, up to its end. -/
def blockSequence (resolve : String → String) : Nat → List Node → NodeReading (List Node)
  | 0, _ => throw "the document nests too deeply"
  | fuel + 1, acc => do
    match ← take with
    | .blockEntry =>
      if ← nextIn [.blockEntry, .blockEnd] then
        blockSequence resolve fuel (acc ++ [empty resolve])
      else
        let n ← node resolve true false fuel
        blockSequence resolve fuel (acc ++ [n])
    | .blockEnd => return acc
    | _ => throw "expected <block end>"

/-- The entries of an indentless sequence. -/
def indentlessSequence (resolve : String → String) : Nat → List Node → NodeReading (List Node)
  | 0, _ => throw "the document nests too deeply"
  | fuel + 1, acc => do
    if (← peek) != .blockEntry then return acc
    let _ ← take
    if ← nextIn [.blockEntry, .key, .value, .blockEnd] then
      indentlessSequence resolve fuel (acc ++ [empty resolve])
    else
      let n ← node resolve true false fuel
      indentlessSequence resolve fuel (acc ++ [n])

/-- The pairs of a block mapping, up to its end. -/
def blockMapping (resolve : String → String) : Nat → List (Node × Node) →
    NodeReading (List (Node × Node))
  | 0, _ => throw "the document nests too deeply"
  | fuel + 1, acc => do
    match ← take with
    | .key =>
      let k ← if ← nextIn [.key, .value, .blockEnd] then pure (empty resolve)
        else node resolve true true fuel
      if (← peek) == .value then
        let _ ← take
        let v ← if ← nextIn [.key, .value, .blockEnd] then pure (empty resolve)
          else node resolve true true fuel
        blockMapping resolve fuel (acc ++ [(k, v)])
      else blockMapping resolve fuel (acc ++ [(k, empty resolve)])
    | .blockEnd => return acc
    | _ => throw "expected <block end>"

/-- The entries of a flow sequence after its opening bracket. -/
def flowSequence (resolve : String → String) : Nat → Bool → List Node → NodeReading (List Node)
  | 0, _, _ => throw "the document nests too deeply"
  | fuel + 1, first, acc => do
    if (← peek) == .flowSequenceEnd then
      let _ ← take
      return acc
    if !first then
      if (← peek) == .flowEntry then let _ ← take
      else throw "expected ',' or ']'"
    match ← peek with
    | .key =>
      let _ ← take
      let k ← if ← nextIn [.value, .flowEntry, .flowSequenceEnd] then pure (empty resolve)
        else node resolve false false fuel
      let v ← if (← peek) == .value then do
          let _ ← take
          if ← nextIn [.flowEntry, .flowSequenceEnd] then pure (empty resolve)
          else node resolve false false fuel
        else pure (empty resolve)
      flowSequence resolve fuel false (acc ++ [Node.map (stdTag "map") [(k, v)]])
    | .flowSequenceEnd =>
      let _ ← take
      return acc
    | _ =>
      let n ← node resolve false false fuel
      flowSequence resolve fuel false (acc ++ [n])

/-- The pairs of a flow mapping after its opening brace. -/
def flowMapping (resolve : String → String) : Nat → Bool → List (Node × Node) →
    NodeReading (List (Node × Node))
  | 0, _, _ => throw "the document nests too deeply"
  | fuel + 1, first, acc => do
    if (← peek) == .flowMappingEnd then
      let _ ← take
      return acc
    if !first then
      if (← peek) == .flowEntry then let _ ← take
      else throw "expected ',' or '\x7d'"
    match ← peek with
    | .key =>
      let _ ← take
      let k ← if ← nextIn [.value, .flowEntry, .flowMappingEnd] then pure (empty resolve)
        else node resolve false false fuel
      let v ← if (← peek) == .value then do
          let _ ← take
          if ← nextIn [.flowEntry, .flowMappingEnd] then pure (empty resolve)
          else node resolve false false fuel
        else pure (empty resolve)
      flowMapping resolve fuel false (acc ++ [(k, v)])
    | .flowMappingEnd =>
      let _ ← take
      return acc
    | _ =>
      let k ← node resolve false false fuel
      flowMapping resolve fuel false (acc ++ [(k, empty resolve)])

end

/-- Reads the directives before an explicit document. -/
def directives : Nat → Bool → NodeReading Unit
  | 0, _ => pure ()
  | fuel + 1, sawVersion => do
    match ← peek with
    | .directive "YAML" [v] =>
      let _ ← take
      if sawVersion then throw "found duplicate YAML directive"
      if (v.splitOn ".").head? != some "1" then throw "found incompatible YAML document"
      directives fuel true
    | .directive "TAG" [h, p] =>
      let _ ← take
      if ((← get).handles.lookup h).isSome && h != "!" && h != "!!" then
        throw "duplicate tag handle"
      modify fun s => { s with handles := (h, p) :: s.handles.filter (·.1 != h) }
      directives fuel sawVersion
    | .directive _ _ =>
      let _ ← take
      directives fuel sawVersion
    | _ => pure ()

/-- Skips the `...` markers. -/
def documentEnds : Nat → NodeReading Unit
  | 0 => pure ()
  | fuel + 1 => do
    if (← peek) == .documentEnd then
      let _ ← take
      documentEnds fuel
    else pure ()

/-- The single document of a stream, if there is one. -/
def document (resolve : String → String) : NodeReading (Option Node) := do
  let fuel := (← get).tokens.length + 1
  let _ ← take
  documentEnds fuel
  match ← peek with
  | .streamEnd => return none
  | .directive _ _ | .documentStart =>
    directives fuel false
    if (← take) != .documentStart then throw "expected '<document start>'"
    let n ← match ← peek with
      | .directive _ _ | .documentStart | .documentEnd | .streamEnd => pure (empty resolve)
      | _ => node resolve true false fuel
    documentEnds fuel
    if (← peek) != .streamEnd then throw "expected a single document in the stream"
    return some n
  | _ =>
    let n ← node resolve true false fuel
    documentEnds fuel
    if (← peek) != .streamEnd then
      match ← peek with
      | .documentStart | .directive _ _ => throw "expected a single document in the stream"
      | _ => throw "expected '<document start>'"
    return some n

end NodeReading

/-- The node of the single document of a token list, if there is one, plain scalars resolving
their tags by `resolve`. -/
def Node.ofTokens? (resolve : String → String) (tokens : List Token) : Except String (Option Node) :=
  (NodeReading.document resolve).run' { tokens := tokens }

end Questionnaire.Yaml

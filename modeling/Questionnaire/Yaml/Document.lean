import Questionnaire.Yaml.Scalar
/-!
# YAML documents as values

Nodes become values: scalars by their tag (`Scalar`), sequences as arrays and mappings as
objects. A mapping key `<<` merges the pairs of the mappings it names in front of the mapping's
own pairs. Keys that are not strings are written as a JSON document writes them (`true`, `1`,
`null`); a collection cannot be a key. A later pair of a key replaces the value of an earlier one
in its place.

`load` reads a whole text: null for an empty stream, an error when the text is not YAML of one
document.
-/

namespace Questionnaire.Yaml

/-! ## Building values -/

/-- The pairs of a mapping with its merge keys replaced by the pairs they name, placed first. -/
def flatten : Nat → List (Node × Node) → Except String (List (Node × Node))
  | 0, _ => .error "the document nests too deeply"
  | fuel + 1, pairs => do
    let mut merged : List (Node × Node) := []
    let mut own : List (Node × Node) := []
    for (k, v) in pairs do
      if k.tag == stdTag "merge" then
        match v with
        | .map _ ps => merged := merged ++ (← flatten fuel ps)
        | .seq _ items =>
          let mut sub : List (List (Node × Node)) := []
          for item in items do
            match item with
            | .map _ ps => sub := sub ++ [← flatten fuel ps]
            | _ => throw "expected a mapping for merging"
          merged := merged ++ sub.reverse.flatten
        | _ => throw "expected a mapping or list of mappings for merging"
      else if k.tag == stdTag "value" then
        match k with
        | .scalar _ t => own := own ++ [(.scalar (stdTag "str") t, v)]
        | _ => own := own ++ [(k, v)]
      else own := own ++ [(k, v)]
    return merged ++ own

mutual

/-- The value of a node. -/
def Node.toValue : Nat → Node → Except String Value
  | 0, _ => .error "the document nests too deeply"
  | _ + 1, .scalar tag text => scalarValue tag text
  | fuel + 1, .seq tag items =>
    if tag == stdTag "seq" then (Node.toValues fuel items).map Value.arr
    else .error ("unknown tag " ++ tag)
  | fuel + 1, .map tag pairs =>
    if tag == stdTag "map" then do
      let flat ← flatten (fuel + 1) pairs
      Node.pairsToValue fuel flat []
    else .error ("unknown tag " ++ tag)

/-- The values of some nodes. -/
def Node.toValues : Nat → List Node → Except String (List Value)
  | 0, _ => .error "the document nests too deeply"
  | _, [] => .ok []
  | fuel + 1, n :: ns => do
    let v ← Node.toValue fuel n
    let vs ← Node.toValues (fuel + 1) ns
    return v :: vs

/-- The object of some pairs; a later pair of a key replaces the value of an earlier one. -/
def Node.pairsToValue : Nat → List (Node × Node) → List (String × Value) → Except String Value
  | 0, _, _ => .error "the document nests too deeply"
  | _, [], acc => .ok (.obj acc)
  | fuel + 1, (k, v) :: rest, acc => do
    let kv ← Node.toValue fuel k
    match keyText kv with
    | none => .error "found unhashable key"
    | some key =>
      let vv ← Node.toValue fuel v
      Node.pairsToValue (fuel + 1) rest (Value.fieldSet acc key vv)

end

/-- The value of a YAML document: null for an empty stream; an error when the text is not YAML
of one document. -/
def load (text : String) : Except String Value := do
  let tokens ← tokenize text
  match ← Node.ofTokens? resolve tokens with
  | none => return .null
  | some n => n.toValue (2 * tokens.length + 4)

end Questionnaire.Yaml

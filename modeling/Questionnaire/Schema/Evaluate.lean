import Questionnaire.Value.Literal
import Questionnaire.Schema.Format
import Questionnaire.Schema.Number
/-!
# Evaluating a schema

`Evaluator.failures` checks an instance against a schema of JSON Schema draft 2020-12 and lists
every failure, in the order the keywords appear in the schema, with the texts of the reference
validator (values shown in literal notation: `'name' is a required property`).

A failure records where in the instance it lies (a path relative to the instance that was
checked), the keyword that failed (none for the schema `false`), its message, and for `anyOf` and
`oneOf` the failures of the alternatives. Two facts are kept for choosing the most relevant
failure later: whether the instance has the type the failing schema asks for, and for `required`
the property the message names.

A subschema reached through a keyword that names a place in the instance reports its failures
below that place, with one exception kept from the reference: a `false` subschema reports its
failure at the place of the keyword itself.

References (`$ref`, `$dynamicRef`) name a document and a JSON pointer or anchor in it. The
current document is the one the schema being evaluated belongs to; the environment lists the other
documents by name and what a dynamic reference to `#meta` stands for. A reference that cannot be
resolved stops the evaluation with an error.

Every call takes one unit of an explicit depth budget; a schema that refers to itself without
end exhausts it and is reported as too deep.
-/

namespace Questionnaire.Schema

open Value

/-- A step of a path into an instance. -/
inductive Part where
  | key (k : String)
  | index (i : Nat)
deriving DecidableEq, Repr

/-- Orders path steps: keys by code points, indexes by number. -/
def Part.lt : Part → Part → Bool
  | .key a, .key b => a < b
  | .index a, .index b => a < b
  | .index _, .key _ => true
  | .key _, .index _ => false

/-- The text of a path step. -/
def Part.text : Part → String
  | .key k => k
  | .index i => toString i

/-- A failed check. -/
structure Failure where
  path : List Part := []
  keyword : Option String
  message : String
  context : List Failure := []
  /-- Whether the instance has a type named by the `type` of the schema that failed. -/
  matchesType : Bool := false
  /-- For `required`: the missing property the message names. -/
  missing : Option String := none

/-- Where references lead. -/
structure Env where
  /-- Documents that references may name, by the text before `#`. -/
  docs : List (String × Value) := []
  /-- What a dynamic reference to `#meta` stands for. -/
  dynamicMeta : Option Value := none

/-- An evaluation: failures, or the text of an unresolvable reference. -/
abbrev Eval := Except String

/-- Whether an instance has a JSON type. -/
def hasType (v : Value) (t : String) : Bool :=
  match t, v with
  | "array", .arr _ => true
  | "boolean", .bool _ => true
  | "integer", v => isIntegral v
  | "null", .null => true
  | "number", v => isNumeric v
  | "object", .obj _ => true
  | "string", .str _ => true
  | _, _ => false

/-- Whether an instance has one of the types a schema's `type` names. -/
def matchesTypeOf (schema : List (String × Value)) (inst : Value) : Bool :=
  match fieldGet? schema "type" with
  | some (.str t) => hasType inst t
  | some (.arr ts) => ts.any fun t => match t with
    | .str s => hasType inst s
    | _ => false
  | _ => false

mutual

/-- Equality of JSON values: numbers by value, booleans apart from numbers, arrays item by item
and objects key by key. -/
def jsonEq : Value → Value → Bool
  | .str a, .str b => a == b
  | .arr xs, .arr ys => xs.length == ys.length && jsonEqItems xs ys
  | .obj a, .obj b => a.length == b.length && jsonEqFields a b
  | .bool a, .bool b => a == b
  | .null, .null => true
  | a, b => numEq a b

/-- Equality of arrays item by item. -/
def jsonEqItems : List Value → List Value → Bool
  | x :: xs, y :: ys => jsonEq x y && jsonEqItems xs ys
  | [], [] => true
  | _, _ => false

/-- Every field of the first object is in the second with an equal value. -/
def jsonEqFields : List (String × Value) → List (String × Value) → Bool
  | [], _ => true
  | (k, v) :: rest, other =>
    (match fieldGet? other k with
      | some w => jsonEq v w
      | none => false) && jsonEqFields rest other

end

/-- Whether the items of an array are pairwise different. -/
def allDistinct : List Value → Bool
  | [] => true
  | x :: rest => !rest.any (jsonEq x) && allDistinct rest

/-- The message of a failure listing extra items: the items, and `was` or `were`. -/
def extrasMsg (items : List String) : String × String :=
  (", ".intercalate items, if items.length == 1 then "was" else "were")

/-- Sorts texts by code points. -/
def sortTexts (xs : List String) : List String :=
  xs.mergeSort fun a b => decide (a ≤ b)

/-- Whether a pattern matches somewhere in a text; a pattern that is not valid matches
nothing. -/
def patternFinds (pattern s : String) : Bool :=
  Pattern.search pattern s == some true

/-- Decodes the percent escapes of a URI fragment. -/
def percentDecode (s : String) : String :=
  let rec go : List Char → List UInt8
    | '%' :: a :: b :: rest =>
      if Format.isHexDigit a && Format.isHexDigit b then
        (Pattern.hexValue [a, b]).toUInt8 :: go rest
      else '%'.toNat.toUInt8 :: go (a :: b :: rest)
    | c :: rest => (String.singleton c).toUTF8.toList ++ go rest
    | [] => []
  match String.fromUTF8? (ByteArray.mk (go s.toList).toArray) with
  | some t => t
  | none => s

/-- Follows a JSON pointer (without its leading `#`) in a document. -/
def followPointer (doc : Value) (pointer : String) : Option Value :=
  let tokens := (pointer.splitOn "/").drop 1 |>.map fun t =>
    (t.replace "~1" "/").replace "~0" "~"
  tokens.foldl (fun acc t => acc.bind fun v =>
    match v with
    | .obj fs => fieldGet? fs t
    | .arr xs => (Text.readInt t).bind fun n => if n < 0 then none else xs[n.toNat]?
    | _ => none) (some doc)

mutual

/-- Finds the subschema of a document that declares an anchor. -/
def findAnchor (name : String) : Value → Option Value
  | .obj fs =>
    if (fieldGet? fs "$anchor").any (isText · name) ||
        (fieldGet? fs "$dynamicAnchor").any (isText · name) then some (.obj fs)
    else findAnchorFields name fs
  | .arr xs => findAnchorItems name xs
  | _ => none

/-- Finds an anchor among the values of fields. -/
def findAnchorFields (name : String) : List (String × Value) → Option Value
  | [] => none
  | (_, v) :: rest => (findAnchor name v).orElse fun _ => findAnchorFields name rest

/-- Finds an anchor among items. -/
def findAnchorItems (name : String) : List Value → Option Value
  | [] => none
  | v :: rest => (findAnchor name v).orElse fun _ => findAnchorItems name rest

end

/-- Resolves a reference from the current document: the document it lands in and the schema. -/
def Env.resolve (env : Env) (doc : Value) (ref : String) : Eval (Value × Value) :=
  let (base, fragment) := match ref.splitOn "#" with
    | [b] => (b, "")
    | b :: rest => (b, "#".intercalate rest)
    | [] => ("", "")
  let target : Option Value := if base.isEmpty then some doc else env.docs.lookup base
  match target with
  | none => .error ("Unresolvable: " ++ ref)
  | some d =>
    let fragment := percentDecode fragment
    if fragment.isEmpty then .ok (d, d)
    else if fragment.startsWith "/" then
      match followPointer d fragment with
      | some s => .ok (d, s)
      | none => .error ("Unresolvable JSON pointer: " ++ quoteText fragment)
    else
      match findAnchor fragment d with
      | some s => .ok (d, s)
      | none => .error ("Unresolvable: " ++ ref)

/-- Resolves a dynamic reference: `#meta` goes to the schema the environment names, any other
reference as a plain one. -/
def Env.resolveDynamic (env : Env) (doc : Value) (ref : String) : Eval (Value × Value) :=
  match env.dynamicMeta with
  | some top => if ref == "#meta" then .ok (top, top) else env.resolve doc ref
  | none => env.resolve doc ref

/-- The failure of the schema `false`. -/
def falseFailure (inst : Value) : Failure :=
  { keyword := none, message := "False schema does not allow " ++ inst.literal }

/-- A failure of a keyword of a schema. -/
def failure (schema : List (String × Value)) (inst : Value) (keyword : String)
    (message : String) : Failure :=
  { keyword := some keyword, message := message, matchesType := matchesTypeOf schema inst }

/-- Places failures below a step of the path. -/
def below (part : Option Part) (fs : List Failure) : List Failure :=
  match part with
  | some p => fs.map fun f => { f with path := p :: f.path }
  | none => fs

/-- The properties of an object that no `properties` entry names and no `patternProperties`
pattern matches; the patterns are tried as one alternation. -/
def additionalKeys (schema : List (String × Value)) (fields : List (String × Value)) :
    List String :=
  let named : List String := match fieldGet? schema "properties" with
    | some (.obj ps) => ps.map Prod.fst
    | _ => []
  let patterns : String := match fieldGet? schema "patternProperties" with
    | some (.obj ps) => "|".intercalate (ps.map Prod.fst)
    | _ => ""
  (fields.map (·.1)).filter fun k =>
    !named.contains k && (patterns.isEmpty || !patternFinds patterns k)

/-- Removes repeated texts, keeping first occurrences. -/
def dedup (xs : List String) : List String :=
  xs.foldl (fun acc x => if acc.contains x then acc else acc ++ [x]) []

/-- The messages of a keyword that looks at the instance alone, without subschemas: nothing for
a keyword it does not know or an instance of a kind the keyword does not check. -/
def leafMessages (k : String) (v inst : Value) : List String :=
  match k with
  | "type" =>
    let types := match v with
      | .arr ts => ts
      | t => [t]
    let ok := types.any fun t => match t with
      | .str s => hasType inst s
      | _ => false
    if ok then []
    else [inst.literal ++ " is not of type " ++ ", ".intercalate (types.map Value.literal)]
  | "enum" =>
    match v with
    | .arr opts =>
      if opts.any (jsonEq · inst) then [] else [inst.literal ++ " is not one of " ++ v.literal]
    | _ => []
  | "const" => if jsonEq inst v then [] else [v.literal ++ " was expected"]
  | "minLength" =>
    match inst with
    | .str s =>
      if numLt (.int s.length) v then
        [inst.literal ++ (if numEq v (.int 1) then " should be non-empty" else " is too short")]
      else []
    | _ => []
  | "maxLength" =>
    match inst with
    | .str s =>
      if numLt v (.int s.length) then
        [inst.literal ++ (if numEq v (.int 0) then " is expected to be empty" else " is too long")]
      else []
    | _ => []
  | "minItems" =>
    match inst with
    | .arr xs =>
      if numLt (.int xs.length) v then
        [inst.literal ++ (if numEq v (.int 1) then " should be non-empty" else " is too short")]
      else []
    | _ => []
  | "maxItems" =>
    match inst with
    | .arr xs =>
      if numLt v (.int xs.length) then
        [inst.literal ++ (if numEq v (.int 0) then " is expected to be empty" else " is too long")]
      else []
    | _ => []
  | "minProperties" =>
    match inst with
    | .obj fs =>
      if numLt (.int fs.length) v then
        [inst.literal ++ (if numEq v (.int 1) then " should be non-empty"
          else " does not have enough properties")]
      else []
    | _ => []
  | "maxProperties" =>
    match inst with
    | .obj fs =>
      if numLt v (.int fs.length) then
        [inst.literal ++ (if numEq v (.int 0) then " is expected to be empty"
          else " has too many properties")]
      else []
    | _ => []
  | "uniqueItems" =>
    match inst, v with
    | .arr xs, .bool true =>
      if allDistinct xs then [] else [inst.literal ++ " has non-unique elements"]
    | _, _ => []
  | "minimum" =>
    if isNumeric inst && numLt inst v then
      [inst.literal ++ " is less than the minimum of " ++ v.literal] else []
  | "maximum" =>
    if isNumeric inst && numLt v inst then
      [inst.literal ++ " is greater than the maximum of " ++ v.literal] else []
  | "exclusiveMinimum" =>
    if isNumeric inst && numLe inst v then
      [inst.literal ++ " is less than or equal to the minimum of " ++ v.literal] else []
  | "exclusiveMaximum" =>
    if isNumeric inst && numLe v inst then
      [inst.literal ++ " is greater than or equal to the maximum of " ++ v.literal] else []
  | "multipleOf" =>
    if isNumeric inst && failsMultipleOf inst v then
      [inst.literal ++ " is not a multiple of " ++ v.text] else []
  | "pattern" =>
    match inst, v with
    | .str s, .str p =>
      if patternFinds p s then [] else [inst.literal ++ " does not match " ++ v.literal]
    | _, _ => []
  | "format" =>
    match inst, v with
    | .str s, .str f =>
      if Format.conforms f s then [] else [inst.literal ++ " is not a " ++ v.literal]
    | _, _ => []
  | "dependentRequired" =>
    match inst, v with
    | .obj fields, .obj deps =>
      deps.flatMap fun (name, needs) =>
        if !fieldHas fields name then []
        else match needs with
          | .arr ns => ns.filterMap fun n => match n with
            | .str s => if fieldHas fields s then none
              else some (quoteText s ++ " is a dependency of " ++ quoteText name)
            | _ => none
          | _ => []
    | _, _ => []
  | _ => []

/-- The number of leading items of an array that `prefixItems` checks. -/
def prefixLength (schema : List (String × Value)) : Nat :=
  match fieldGet? schema "prefixItems" with
  | some (.arr ps) => ps.length
  | _ => 0

/-- The failures of `required`: one for each property named that the object lacks, in the order
named, each with the missing property its message starts with (the first missing one, when none
does). -/
def requiredFailures (schema : List (String × Value)) (v inst : Value) : List Failure :=
  match inst, v with
  | .obj fields, .arr names =>
    let missingNames := names.filterMap fun n => match n with
      | .str s => if fieldHas fields s then none else some s
      | _ => none
    names.filterMap fun n => match n with
      | .str s =>
        if fieldHas fields s then none
        else
          let message := quoteText s ++ " is a required property"
          some { failure schema inst "required" message with
            missing := (missingNames.find? fun p => message.startsWith (quoteText p)).orElse
              fun _ => missingNames.head? }
      | _ => none
  | _, _ => []

namespace Evaluator

variable (env : Env)

mutual

/-- The failures of an instance against a schema, below the step `part` of the path when one is
given. -/
def descend : Nat → Value → Value → Value → Option Part → Eval (List Failure)
  | 0, _, _, _, _ => .error "maximum recursion depth exceeded"
  | fuel + 1, doc, schema, inst, part =>
    match schema with
    | .bool false => pure [falseFailure inst]
    | .obj fields => do
      let fs ← fields.flatMapM fun (k, v) => keyword fuel doc fields k v inst
      pure (below part fs)
    | _ => pure []

/-- Whether an instance passes a schema. -/
def passes : Nat → Value → Value → Value → Eval Bool
  | 0, _, _, _ => .error "maximum recursion depth exceeded"
  | fuel + 1, doc, schema, inst => do
    return (← descend fuel doc schema inst none).isEmpty

/-- The failures of one keyword. -/
def keyword : Nat → Value → List (String × Value) → String → Value → Value →
    Eval (List Failure)
  | 0, _, _, _, _, _ => .error "maximum recursion depth exceeded"
  | fuel + 1, doc, schema, k, v, inst =>
    let fail (message : String) : List Failure := [failure schema inst k message]
    match k with
    | "$ref" =>
      match v with
      | .str ref => do
        let (d, s) ← env.resolve doc ref
        descend fuel d s inst none
      | _ => pure []
    | "$dynamicRef" =>
      match v with
      | .str ref => do
        let (d, s) ← env.resolveDynamic doc ref
        descend fuel d s inst none
      | _ => pure []
    | "required" => pure (requiredFailures schema v inst)
    | "properties" =>
      match inst, v with
      | .obj fields, .obj props =>
        props.flatMapM fun (name, sub) =>
          match fieldGet? fields name with
          | some value => descend fuel doc sub value (some (.key name))
          | none => pure []
      | _, _ => pure []
    | "patternProperties" =>
      match inst, v with
      | .obj fields, .obj pats =>
        pats.flatMapM fun (pat, sub) =>
          fields.flatMapM fun (name, value) =>
            if patternFinds pat name then descend fuel doc sub value (some (.key name))
            else pure []
      | _, _ => pure []
    | "additionalProperties" =>
      match inst with
      | .obj fields =>
        let extras := additionalKeys schema fields
        match v with
        | .obj _ =>
          extras.flatMapM fun name =>
            descend fuel doc v ((fieldGet? fields name).getD .null) (some (.key name))
        | .bool false =>
          if extras.isEmpty then pure []
          else match fieldGet? schema "patternProperties" with
            | some pats =>
              let patNames := match pats with
                | .obj ps => ps.map (·.1)
                | _ => []
              pure (fail (", ".intercalate ((sortTexts extras).map quoteText) ++
                (if extras.length == 1 then " does" else " do") ++
                " not match any of the regexes: " ++
                ", ".intercalate ((sortTexts patNames).map quoteText)))
            | none =>
              let (items, verb) := extrasMsg ((sortTexts extras).map quoteText)
              pure (fail ("Additional properties are not allowed (" ++ items ++ " " ++ verb ++
                " unexpected)"))
        | _ => pure []
      | _ => pure []
    | "propertyNames" =>
      match inst with
      | .obj fields => fields.flatMapM fun (name, _) => descend fuel doc v (.str name) none
      | _ => pure []
    | "items" =>
      match inst with
      | .arr xs =>
        let leading := prefixLength schema
        let extra := xs.length - leading
        if extra == 0 then pure []
        else match v with
          | .bool false =>
            let rest : Value :=
              if extra == 1 then (xs[leading]?).getD .null else .arr (xs.drop leading)
            pure (fail ("Expected at most " ++ toString leading ++
              (if leading == 1 then " item" else " items") ++ " but found " ++ toString extra ++
              " extra: " ++ rest.literal))
          | _ =>
            (List.range extra).flatMapM fun j =>
              descend fuel doc v ((xs[leading + j]?).getD .null) (some (.index (leading + j)))
      | _ => pure []
    | "prefixItems" =>
      match inst, v with
      | .arr xs, .arr subs =>
        (List.range (min xs.length subs.length)).flatMapM fun i =>
          descend fuel doc ((subs[i]?).getD (.bool true)) ((xs[i]?).getD .null) (some (.index i))
      | _, _ => pure []
    | "contains" =>
      match inst with
      | .arr xs => do
        let minC := (fieldGet? schema "minContains").getD (.int 1)
        let maxC := (fieldGet? schema "maxContains").getD (.int xs.length)
        -- the number of matching items, or none once more than the maximum match
        let counted ← xs.foldlM (fun acc x => do
          match acc with
          | none => pure none
          | some n =>
            if ← passes fuel doc v x then
              if numLt maxC (.int (n + 1)) then pure none else pure (some (n + 1))
            else pure (some n)) (some 0)
        match counted with
        | none =>
          pure [{ failure schema inst "maxContains"
            ("Too many items match the given schema (expected at most " ++ maxC.text ++ ")")
            with keyword := some "maxContains" }]
        | some n =>
          if numLt (.int n) minC then
            if n == 0 then
              pure (fail (inst.literal ++ " does not contain items matching the given schema"))
            else
              pure [{ failure schema inst "minContains"
                ("Too few items match the given schema (expected at least " ++ minC.text ++
                  " but only " ++ toString n ++ " matched)") with keyword := some "minContains" }]
          else pure []
      | _ => pure []
    | "dependentSchemas" =>
      match inst, v with
      | .obj fields, .obj deps =>
        deps.flatMapM fun (name, sub) =>
          if fieldHas fields name then descend fuel doc sub inst none else pure []
      | _, _ => pure []
    | "allOf" =>
      match v with
      | .arr subs => subs.flatMapM fun sub => descend fuel doc sub inst none
      | _ => pure []
    | "anyOf" =>
      match v with
      | .arr subs => do
        -- the failures of the alternatives tried, or none once one passes
        let tried ← subs.foldlM (fun acc sub => do
          match acc with
          | none => pure none
          | some errs =>
            let more ← descend fuel doc sub inst none
            if more.isEmpty then pure none else pure (some (errs ++ more))) (some [])
        match tried with
        | none => pure []
        | some all =>
          pure [{ failure schema inst k (inst.literal ++
            " is not valid under any of the given schemas") with context := all }]
      | _ => pure []
    | "oneOf" =>
      match v with
      | .arr subs => do
        -- the failures of the alternatives tried, or the first that passes and those after it
        let tried ← subs.foldlM (fun (acc : Sum (List Failure) (Value × List Value)) sub => do
          match acc with
          | .inr (first, rest) => pure (.inr (first, rest ++ [sub]))
          | .inl errs =>
            let more ← descend fuel doc sub inst none
            if more.isEmpty then pure (.inr (sub, [])) else pure (.inl (errs ++ more))) (.inl [])
        match tried with
        | .inl all =>
          pure [{ failure schema inst k (inst.literal ++
            " is not valid under any of the given schemas") with context := all }]
        | .inr (first, rest) => do
          let more ← rest.filterM fun s => passes fuel doc s inst
          if more.isEmpty then pure []
          else
            pure (fail (inst.literal ++ " is valid under each of " ++
              ", ".intercalate ((more ++ [first]).map Value.literal)))
      | _ => pure []
    | "not" => do
      if ← passes fuel doc v inst then
        pure (fail (inst.literal ++ " should not be valid under " ++ v.literal))
      else pure []
    | "if" => do
      if ← passes fuel doc v inst then
        match fieldGet? schema "then" with
        | some t => descend fuel doc t inst none
        | none => pure []
      else
        match fieldGet? schema "else" with
        | some e => descend fuel doc e inst none
        | none => pure []
    | "unevaluatedProperties" =>
      match inst with
      | .obj fields => do
        let evaluated ← evaluatedKeys fuel doc (.obj schema) inst
        let bad ← fields.flatMapM fun (name, value) => do
          if evaluated.contains name then pure []
          else
            let errs ← descend fuel doc v value (some (.key name))
            pure (errs.map fun _ => name)
        if bad.isEmpty then pure []
        else if (match v with | .bool false => true | _ => false) then
          let (items, verb) := extrasMsg ((sortTexts bad).map quoteText)
          pure (fail ("Unevaluated properties are not allowed (" ++ items ++ " " ++ verb ++
            " unexpected)"))
        else
          let (items, verb) := extrasMsg (bad.map quoteText)
          pure (fail ("Unevaluated properties are not valid under the given schema (" ++ items ++
            " " ++ verb ++ " unevaluated and invalid)"))
      | _ => pure []
    | "unevaluatedItems" =>
      match inst with
      | .arr xs => do
        let evaluated ← evaluatedIndexes fuel doc (.obj schema) inst
        let bad := (List.range xs.length).filterMap fun i =>
          if evaluated.contains i then none else xs[i]?
        if bad.isEmpty then pure []
        else
          let (items, verb) := extrasMsg (bad.map Value.literal)
          pure (fail ("Unevaluated items are not allowed (" ++ items ++ " " ++ verb ++
            " unexpected)"))
      | _ => pure []
    | _ => pure ((leafMessages k v inst).map (failure schema inst k))

/-- The properties of an object that a schema evaluates, through its applicators. -/
def evaluatedKeys : Nat → Value → Value → Value → Eval (List String)
  | 0, _, _, _ => .error "maximum recursion depth exceeded"
  | fuel + 1, doc, schema, inst =>
    match schema, inst with
    | .obj s, .obj fields => do
      let viaRef ← match fieldGet? s "$ref" with
        | some (.str ref) => do
          let (d, t) ← env.resolve doc ref
          evaluatedKeys fuel d t inst
        | _ => pure []
      let viaDynamic ← match fieldGet? s "$dynamicRef" with
        | some (.str ref) => do
          let (d, t) ← env.resolveDynamic doc ref
          evaluatedKeys fuel d t inst
        | _ => pure []
      let named := match fieldGet? s "properties" with
        | some (.obj ps) => (ps.map (·.1)).filter (fieldHas fields ·)
        | _ => []
      let viaAdditional ← ["additionalProperties", "unevaluatedProperties"].flatMapM fun kw =>
        match fieldGet? s kw with
        | some sub =>
          fields.filterMapM fun (name, value) => do
            if ← passes fuel doc sub value then pure (some name) else pure none
        | none => pure []
      let viaPatterns := match fieldGet? s "patternProperties" with
        | some (.obj ps) =>
          fields.flatMap fun (name, _) =>
            (ps.filter fun (p, _) => patternFinds p name).map fun _ => name
        | _ => []
      let viaDeps ← match fieldGet? s "dependentSchemas" with
        | some (.obj deps) =>
          deps.flatMapM fun (name, sub) =>
            if fieldHas fields name then evaluatedKeys fuel doc sub inst else pure []
        | _ => pure []
      let viaApplicators ← ["allOf", "oneOf", "anyOf"].flatMapM fun kw =>
        match fieldGet? s kw with
        | some (.arr subs) =>
          subs.flatMapM fun sub => do
            if ← passes fuel doc sub inst then evaluatedKeys fuel doc sub inst else pure []
        | _ => pure []
      let viaIf ← match fieldGet? s "if" with
        | some cond => do
          if ← passes fuel doc cond inst then
            let a ← evaluatedKeys fuel doc cond inst
            let b ← match fieldGet? s "then" with
              | some t => evaluatedKeys fuel doc t inst
              | none => pure []
            pure (a ++ b)
          else match fieldGet? s "else" with
            | some e => evaluatedKeys fuel doc e inst
            | none => pure []
        | none => pure []
      pure (viaRef ++ viaDynamic ++ named ++ viaAdditional ++ viaPatterns ++ viaDeps ++
        viaApplicators ++ viaIf)
    | _, _ => pure []

/-- The items of an array that a schema evaluates, through its applicators. -/
def evaluatedIndexes : Nat → Value → Value → Value → Eval (List Nat)
  | 0, _, _, _ => .error "maximum recursion depth exceeded"
  | fuel + 1, doc, schema, inst =>
    match schema, inst with
    | .obj s, .arr xs =>
      if (fieldGet? s "items").isSome then pure (List.range xs.length)
      else do
        let viaRef ← match fieldGet? s "$ref" with
          | some (.str ref) => do
            let (d, t) ← env.resolve doc ref
            evaluatedIndexes fuel d t inst
          | _ => pure []
        let viaDynamic ← match fieldGet? s "$dynamicRef" with
          | some (.str ref) => do
            let (d, t) ← env.resolveDynamic doc ref
            evaluatedIndexes fuel d t inst
          | _ => pure []
        let viaPrefix := match fieldGet? s "prefixItems" with
          | some (.arr ps) => List.range ps.length
          | _ => []
        let viaIf ← match fieldGet? s "if" with
          | some cond => do
            if ← passes fuel doc cond inst then
              let a ← evaluatedIndexes fuel doc cond inst
              let b ← match fieldGet? s "then" with
                | some t => evaluatedIndexes fuel doc t inst
                | none => pure []
              pure (a ++ b)
            else match fieldGet? s "else" with
              | some e => evaluatedIndexes fuel doc e inst
              | none => pure []
          | none => pure []
        let viaContains ← ["contains", "unevaluatedItems"].flatMapM fun kw =>
          match fieldGet? s kw with
          | some sub =>
            (List.range xs.length).filterMapM fun i => do
              if ← passes fuel doc sub ((xs[i]?).getD .null) then pure (some i) else pure none
          | none => pure []
        let viaApplicators ← ["allOf", "oneOf", "anyOf"].flatMapM fun kw =>
          match fieldGet? s kw with
          | some (.arr subs) =>
            subs.flatMapM fun sub => do
              if ← passes fuel doc sub inst then evaluatedIndexes fuel doc sub inst else pure []
          | _ => pure []
        pure (viaRef ++ viaDynamic ++ viaPrefix ++ viaIf ++ viaContains ++ viaApplicators)
    | _, _ => pure []

end

/-- The failures of an instance against a schema that is the whole document. -/
def failures (schema inst : Value) : Eval (List Failure) :=
  descend env 2000 schema schema inst none

/-- Whether an instance passes a schema that is the whole document. -/
def valid (schema inst : Value) : Eval Bool :=
  passes env 2001 schema schema inst

end Evaluator

end Questionnaire.Schema

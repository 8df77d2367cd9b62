import Questionnaire.Proofs.FlatLists
import Questionnaire.Condition
/-!
# Conditions written from values read the values back

A condition `path = literal` written from a value, with a path of no blank and no `=`, compares
the answer at the path with that very value (`conditions_read_back_literals`): a boolean as
`true`/`false`, an integer by its digits, a float by its shortest text when that is a plain
decimal, and a string between double quotes when it holds no line feed. A condition
`path in [...]` with the JSON dump of a non-empty list of such values compares with that very list
when no string item holds an apostrophe. Each value is strictly equal to itself (a finite double
included), so the condition holds exactly when the answer is present, not null and strictly equal.

The two limits are sharp (`newline_and_apostrophe_misread`): a line feed keeps the right side from
being read at all, and apostrophes are read as double quotes before the list is read as JSON.

The proof follows the reader: the path is split off at the first operator (`split_path`), the
right side stands as it is written (`Bare`), and each kind of literal is read back by its own
lemma; a list goes through the JSON reader (`Json.read_dumps_flat`).
-/

namespace Questionnaire.Condition

open Text Decimal

/-! ## Splitting off the path -/

/-- A path as a condition names it: non-empty, with no blank and no `=`. -/
structure PlainPath (p : String) : Prop where
  ne : p.toList ≠ []
  char : ∀ c ∈ p.toList, isBlank c = false ∧ c ≠ '='

/-- Characters with no blank at either end, and at least one. -/
structure Unpadded (cs : List Char) : Prop where
  ne : cs ≠ []
  head : ∀ c ∈ cs.head?, isBlank c = false
  last : ∀ c ∈ cs.getLast?, isBlank c = false

/-- A right side that stands as it is written: trimmed, and on one line. -/
structure Bare (cs : List Char) : Prop extends Unpadded cs where
  newline : '\n' ∉ cs

theorem dropBlanks_unpadded {cs : List Char} (h : Unpadded cs) : dropBlanks cs = cs := by
  obtain ⟨c, r, rfl⟩ := List.exists_cons_of_ne_nil h.ne
  simp [dropBlanks, h.head c rfl]

theorem dropTrailingBlanks_unpadded {cs : List Char} (h : Unpadded cs) :
    dropTrailingBlanks cs = cs := by
  obtain ⟨r, c, rfl⟩ := (List.eq_nil_or_concat cs).resolve_left h.ne
  simp [dropTrailingBlanks, dropBlanks, h.last c (by simp)]

/-- After blanks, a bare right side is read as it stands. -/
theorem rightSide_bare (pre : List Char) {cs : List Char} (hpre : ∀ c ∈ pre, isBlank c = true)
    (h : Bare cs) :
    rightSide (pre ++ cs) = some cs := by
  have hdrop : dropBlanks (pre ++ cs) = cs := by
    rw [dropBlanks, List.dropWhile_append_of_pos hpre]
    exact dropBlanks_unpadded h.toUnpadded
  have hne : cs.isEmpty = false := List.isEmpty_eq_false_iff.2 h.ne
  have hnl : cs.contains '\n' = false := by simpa using h.newline
  simp only [rightSide, hdrop, dropTrailingBlanks_unpadded h.toUnpadded, hne, hnl]
  rfl

/-- After a non-blank character other than `=`, no operator starts. -/
theorem afterPath_of_head {c : Char} (hb : isBlank c = false) (he : c ≠ '=') (r : List Char) :
    afterPath (c :: r) = none := by
  simp only [afterPath, List.takeWhile_cons_of_neg (by simp [hb] : ¬ isBlank c = true),
    List.length_nil, List.drop_zero]
  split
  · -- no `=` at the head
    rename_i heq
    split at heq
    · rename_i heq'; exact absurd (List.cons.inj heq').1 he
    · cases heq
  · -- no blank before a word operator
    split <;> rfl

theorem isBlank_of_isLetterI {i : Char} (hi : isLetterI i = true) : isBlank i = false := by
  simp only [isLetterI, Bool.or_eq_true, decide_eq_true_eq, beq_iff_eq] at hi
  rcases hi with ((rfl | rfl) | h) | h
  · decide
  · decide
  all_goals (simp only [isBlank]; rw [h]; decide)

theorem isBlank_space : isBlank ' ' = true := by decide

theorem afterPath_eq {lit : List Char} (h : Bare lit) :
    afterPath (' ' :: '=' :: ' ' :: lit) = some (true, lit) := by
  have hr : rightSide (' ' :: lit) = some lit := rightSide_bare [' '] (by simp [isBlank_space]) h
  simp [afterPath, isBlank_space, show isBlank '=' = false by decide, hr]

theorem afterPath_in {i n : Char} (hi : isLetterI i = true) (hn : isLetterN n = true)
    {json : List Char} (h : Bare json) :
    afterPath (' ' :: i :: n :: ' ' :: json) = some (false, json) := by
  have hr : rightSide json = some json := rightSide_bare [] (fun _ hc => nomatch hc) h
  have hib := isBlank_of_isLetterI hi
  have hie : i ≠ '=' := by rintro rfl; simp [isLetterI] at hi
  simp [afterPath, isBlank_space, hib, hie, hi, hn, hr]

/-- Inside a plain path no operator starts, so the path is read up to the operator after it. -/
theorem splitFrom_path {tail : List Char} {e : Bool} {r : List Char}
    (htail : afterPath tail = some (e, r)) :
    ∀ (p taken : List Char), p ≠ [] → (∀ c ∈ p, isBlank c = false ∧ c ≠ '=') →
      splitFrom taken (p ++ tail) = some (taken.reverse ++ p, e, r)
  | [], _, hp, _ => absurd rfl hp
  | [c], taken, _, hc => by
    simp [splitFrom, (hc c (by simp)).1, htail]
  | c :: c' :: p, taken, _, hc => by
    have h1 := hc c (by simp)
    have h2 := hc c' (by simp)
    rw [List.cons_append, splitFrom, if_neg (by simp [h1.1]), List.cons_append,
      afterPath_of_head h2.1 h2.2]
    dsimp only
    rw [← List.cons_append, splitFrom_path htail (c' :: p) (c :: taken) (by simp)
      (fun d hd => hc d (List.mem_cons_of_mem c hd))]
    simp

theorem split_path {p : String} (hp : PlainPath p) {tail : List Char} {e : Bool} {r : List Char}
    (htail : afterPath tail = some (e, r)) :
    split (p ++ String.ofList tail) = some (p, e, String.ofList r) := by
  obtain ⟨c, cs, hcs⟩ := List.exists_cons_of_ne_nil hp.ne
  have hdrop : dropBlanks (p ++ String.ofList tail).toList = p.toList ++ tail := by
    rw [String.toList_append, String.toList_ofList, hcs, List.cons_append]
    simp [dropBlanks, (hp.char c (by simp [hcs])).1]
  simp only [split, hdrop, splitFrom_path htail p.toList [] hp.ne hp.char]
  simp

theorem isBlankText_path {p : String} (hp : PlainPath p) (s : String) :
    isBlankText (p ++ s) = false := by
  obtain ⟨c, cs, hcs⟩ := List.exists_cons_of_ne_nil hp.ne
  simp [isBlankText, hcs, (hp.char c (by simp [hcs])).1]

/-- `path = literal` compares the answer at the path with the literal. -/
theorem parse_equals {p : String} (hp : PlainPath p) {lit : String} (hlit : Bare lit.toList) :
    parse (p ++ " = " ++ lit) = .equals p (literal lit) := by
  have htext : p ++ " = " ++ lit = p ++ String.ofList (' ' :: '=' :: ' ' :: lit.toList) :=
    String.toList_inj.1 (by simp)
  rw [htext, parse, isBlankText_path hp, split_path hp (afterPath_eq hlit), String.ofList_toList]
  rfl

/-- A bracketed list on one line stands as it is written. -/
theorem bare_brackets {mid : List Char} (h : '\n' ∉ mid) : Bare ('[' :: (mid ++ [']'])) := by
  have hlast : ('[' :: (mid ++ [']'])).getLast? = some ']' := by
    rw [← List.cons_append, List.getLast?_concat]
  refine ⟨⟨by simp, by simp; decide, ?_⟩, by simp [h]⟩
  rw [hlast]
  simp only [Option.mem_def, Option.some.injEq, forall_eq']
  decide

/-- `path in [...]`, with the word `in` in any case, compares the answer with the items. -/
theorem parse_oneOf {p : String} (hp : PlainPath p) {i n : Char} (hi : isLetterI i = true)
    (hn : isLetterN n = true) {json : String} {mid : List Char}
    (hjson : json.toList = '[' :: (mid ++ [']'])) (hmid : '\n' ∉ mid) :
    parse (p ++ " " ++ String.ofList [i, n] ++ " " ++ json) = .oneOf p (listLiteral json) := by
  have htext : p ++ " " ++ String.ofList [i, n] ++ " " ++ json =
      p ++ String.ofList (' ' :: i :: n :: ' ' :: json.toList) :=
    String.toList_inj.1 (by simp)
  have hbare : Bare json.toList := hjson ▸ bare_brackets hmid
  have hstart : json.startsWith "[" = true := by simp [hjson]
  have hend : json.endsWith "]" = true := by
    simp [← String.endsWith_toSlice, String.Slice.endsWith_string_iff, String.copy_toSlice, hjson]
  rw [htext, parse, isBlankText_path hp, split_path hp (afterPath_in hi hn hbare),
    String.ofList_toList]
  simp [hstart, hend]

/-! ## Literals -/

theorem strip_unpadded {s : String} (h : Unpadded s.toList) : strip s = s := by
  simp only [strip, dropBlanks_unpadded h, dropTrailingBlanks_unpadded h, String.ofList_toList]

/-- The characters of numbers and of quotes: printable ASCII below `A`. -/
def IsLow (c : Char) : Prop := 32 < c.toNat ∧ c.toNat < 65

theorem isBlank_of_isLow {c : Char} (h : IsLow c) : isBlank c = false := by
  obtain ⟨h1, h2⟩ := h
  simp only [isBlank, blankCodes]
  generalize c.toNat = k at h1 h2
  simp
  omega

theorem bare_of_isLow {cs : List Char} (hne : cs ≠ []) (h : ∀ c ∈ cs, IsLow c) : Bare cs where
  ne := hne
  head c hc := isBlank_of_isLow (h c (List.mem_of_mem_head? hc))
  last c hc := isBlank_of_isLow (h c (List.mem_of_mem_getLast? hc))
  newline hnl := absurd (h _ hnl).1 (by decide)

/-- A character below `A` is its own lower case. -/
theorem toLower_of_lt {c : Char} (h : c.toNat < 65) : c.toLower = c := by
  unfold Char.toLower
  rw [dif_neg]
  rintro ⟨h1, -⟩
  have h2 : 'A'.val.toNat ≤ c.val.toNat := UInt32.le_iff_toNat_le.1 h1
  exact absurd h2 (by change ¬ 65 ≤ c.toNat; omega)

/-- A text that starts below `A` is no boolean word. -/
theorem isBoolWord_of_lt {s : String} {c : Char} {r : List Char} (hs : s.toList = c :: r)
    (hc : c.toNat < 65) : isBoolWord s = false := by
  have ht : c.toLower ≠ 't' := by rw [toLower_of_lt hc]; rintro rfl; simp at hc
  have hf : c.toLower ≠ 'f' := by rw [toLower_of_lt hc]; rintro rfl; simp at hc
  simp [isBoolWord, hs, ht, hf]

theorem isLow_of_isDigit {c : Char} (h : c.isDigit = true) : IsLow c := by
  have := (isDigit_iff c).1 h
  constructor <;> omega

theorem isLow_toString_int (n : ℤ) : ∀ c ∈ (toString n).toList, IsLow c := by
  intro c hc
  rcases mem_toString_int hc with rfl | hc
  · exact ⟨by decide, by decide⟩
  · exact isLow_of_isDigit hc

theorem toString_int_ne_nil (n : ℤ) : (toString n).toList ≠ [] := by
  rw [toList_toString_int]; simp [Nat.toDigits_ne_nil]

theorem literal_int (n : ℤ) : literal (toString n) = .int n := by
  have hdig : ∀ c ∈ Nat.toDigits 10 n.natAbs, c.isDigit = true :=
    fun c hc => Nat.isDigit_of_mem_toDigits (by norm_num) (by norm_num) hc
  have hlow := isLow_toString_int n
  have hne := toString_int_ne_nil n
  obtain ⟨c, r, hcr⟩ := List.exists_cons_of_ne_nil hne
  have hbool := isBoolWord_of_lt hcr (hlow c (by rw [hcr]; simp)).2
  simp only [literal, strip_unpadded (bare_of_isLow hne hlow).toUnpadded, hbool, Bool.false_eq_true,
    if_false, numberParts_int, digitsValue_eq hdig, Nat.ofDigitChars_ten_toDigits]
  split <;> rename_i hsign <;> simp only [decide_eq_true_eq] at hsign <;>
    congr 1 <;> omega

theorem literal_bool (b : Bool) : literal (if b then "true" else "false") = .bool b := by
  cases b <;> rfl

/-- The shortest text of a float, when it is a plain decimal, is a sign, digits and a point. -/
theorem isLow_render_plain {x : Float} (hx : IsPlainDecimal (renderFloat literalFloatStyle x)) :
    ∀ c ∈ (renderFloat literalFloatStyle x).toList, IsLow c := by
  obtain ⟨neg, ints, frac, htext, -, -, hdig⟩ := hx
  intro c hc
  rw [htext] at hc
  rcases mem_plainChars hc with rfl | rfl | hc
  · exact ⟨by decide, by decide⟩
  · exact ⟨by decide, by decide⟩
  · exact isLow_of_isDigit (hdig c hc)

theorem render_plain_ne_nil {x : Float} (hx : IsPlainDecimal (renderFloat literalFloatStyle x)) :
    (renderFloat literalFloatStyle x).toList ≠ [] := by
  obtain ⟨neg, ints, frac, htext, -⟩ := hx
  simp [htext, plainChars]

/-- A float whose shortest text is a plain decimal is read back from that text. -/
theorem literal_float {x : Float} (hx : IsPlainDecimal (renderFloat literalFloatStyle x)) :
    literal (renderFloat literalFloatStyle x) = .float x := by
  obtain ⟨b, hb⟩ := classify_finite_of_plain hx
  obtain ⟨ints, frac, hdig, htext, hval⟩ := render_plain hb hx
  have hlow := isLow_render_plain hx
  have hne := render_plain_ne_nil hx
  obtain ⟨c, r, hcr⟩ := List.exists_cons_of_ne_nil hne
  have hbool := isBoolWord_of_lt hcr (hlow c (by rw [hcr]; simp)).2
  simp only [literal, strip_unpadded (bare_of_isLow hne hlow).toUnpadded, hbool, Bool.false_eq_true,
    if_false, htext, numberParts_plain hdig, digitsValue_eq hdig.digit, hval]

theorem toList_quoted (s : String) : ("\"" ++ s ++ "\"").toList = '"' :: (s.toList ++ ['"']) := by
  simp

theorem unpadded_quoted (s : String) : Unpadded ("\"" ++ s ++ "\"").toList := by
  rw [toList_quoted]
  refine ⟨by simp, by simp; decide, ?_⟩
  rw [← List.cons_append, List.getLast?_concat]
  simp only [Option.mem_def, Option.some.injEq, forall_eq']
  decide

/-- A text between double quotes is read back as the text. -/
theorem literal_quoted (s : String) : literal ("\"" ++ s ++ "\"") = .str s := by
  have htext := toList_quoted s
  have hpad := unpadded_quoted s
  have hbool := isBoolWord_of_lt htext (by decide)
  have hnum : numberParts ('"' :: (s.toList ++ ['"'])) = none := by
    simp [numberParts, show isDecimal '"' = false by decide]
  have hquotes : stripQuotes ("\"" ++ s ++ "\"") = s := by
    simp [stripQuotes, htext]
  simp only [literal, strip_unpadded hpad, hbool, Bool.false_eq_true, if_false, htext, hnum,
    hquotes]

/-! ## Strict equality of flat values with themselves -/

/-- A finite double does not unpack to a NaN. -/
theorem unpack_ne_notANumber {x : Float} {b : Binary} (hx : classify x = .finite b) :
    x.toModel.unpack ≠ .notANumber := by
  have hex : x.toBits.toNat / 2 ^ 52 % 2 ^ 11 ≠ 2047 := by
    intro h
    simp only [classify, Nat.pow_eq, h, beq_self_eq_true, if_true] at hx
    split at hx <;> cases hx
  simp only [Float.Model.unpack, Float.Model.UnpackedFloat.unpack]
  rw [if_neg]
  · split_ifs <;> simp
  · intro h
    apply hex
    have := congrArg BitVec.toNat h
    rw [Binary64.toNat_unpackExponent] at this
    exact (by simpa using this : x.toModel.toBits.toNat / 2 ^ 52 % 2 ^ 11 = 2047)

/-- A finite double equals itself. -/
theorem beq_self_of_finite {x : Float} {b : Binary} (hx : classify x = .finite b) :
    (x == x) = true := by
  have hnan := unpack_ne_notANumber hx
  show (Float.Model.UnpackedFloat.compare x.toModel.unpack x.toModel.unpack == some .eq) = true
  generalize x.toModel.unpack = u at hnan ⊢
  cases u with
  | notANumber => exact absurd rfl hnan
  | infinity s => cases s <;> rfl
  | zero s => cases s <;> rfl
  | finite s m e h => cases s <;> simp [Float.Model.UnpackedFloat.compare]

theorem strictEq_self {textOk : String → Prop} {v : Value} (hv : Json.FlatValue textOk v) :
    v.strictEq v = true := by
  cases v with
  | float x =>
    obtain ⟨b, hb⟩ := classify_finite_of_plain hv
    exact beq_self_of_finite hb
  | bool b => simp [Value.strictEq]
  | int n => simp [Value.strictEq]
  | str s => simp [Value.strictEq]
  | null => exact hv.elim
  | arr items => exact hv.elim
  | obj fields => exact hv.elim

/-! ## Conditions written from values -/

/-- The text of a value as the right side of `path = literal`: the word of a boolean, the digits of
an integer, the shortest text of a float, a string between double quotes, and JSON for the rest. -/
def literalText : Value → String
  | .bool b => if b then "true" else "false"
  | .int n => toString n
  | .float x => renderFloat literalFloatStyle x
  | .str s => "\"" ++ s ++ "\""
  | v => Json.render Json.Layout.dumps v

/-- The literal text of a flat value is read back as the value. -/
theorem literal_literalText {textOk : String → Prop} {v : Value} (hv : Json.FlatValue textOk v) :
    literal (literalText v) = v := by
  cases v with
  | bool b => exact literal_bool b
  | int n => exact literal_int n
  | float x => exact literal_float hv
  | str s => exact literal_quoted s
  | null => exact hv.elim
  | arr items => exact hv.elim
  | obj fields => exact hv.elim

/-- The literal text of a flat value with strings on one line stands as it is written. -/
theorem bare_literalText {v : Value} (hv : Json.FlatValue (fun s => '\n' ∉ s.toList) v) :
    Bare (literalText v).toList := by
  cases v with
  | bool b =>
    cases b <;>
      exact ⟨⟨by simp [literalText], by simp [literalText]; decide, by simp [literalText]; decide⟩,
        by simp [literalText]⟩
  | int n => exact bare_of_isLow (toString_int_ne_nil n) (isLow_toString_int n)
  | float x => exact bare_of_isLow (render_plain_ne_nil hv) (isLow_render_plain hv)
  | str s =>
    refine ⟨unpadded_quoted s, ?_⟩
    simp only [literalText, toList_quoted, List.mem_cons, List.mem_append]
    simp only [Json.FlatValue] at hv
    simp [hv]
  | null => exact hv.elim
  | arr items => exact hv.elim
  | obj fields => exact hv.elim

/-- The dump of a non-empty flat list whose strings hold no apostrophe is read back as the list. -/
theorem listLiteral_render {L : List Value} (hL : L ≠ [])
    (hflat : ∀ v ∈ L, Json.FlatValue (fun s => '\'' ∉ s.toList) v) :
    listLiteral (Json.render Json.Layout.dumps (.arr L)) = L := by
  -- with no apostrophe in it, the text is its own JSON reading
  have hsame : String.ofList ((Json.render Json.Layout.dumps (.arr L)).toList.map
      fun c => if c = '\'' then '"' else c) = Json.render Json.Layout.dumps (.arr L) := by
    rw [List.map_congr_left (g := id), List.map_id, String.ofList_toList]
    intro c hc
    have hc' : c ≠ '\'' := fun h => Json.apostrophe_not_mem_render hflat (h ▸ hc)
    simp [hc']
  simp only [listLiteral, hsame, Json.read_dumps_flat hL hflat]

/-- `path in` the dump of a non-empty flat list compares the answer with the list literal of the
dump. -/
theorem parse_oneOf_render {p : String} (hp : PlainPath p) {i n : Char} (hi : isLetterI i = true)
    (hn : isLetterN n = true) {textOk : String → Prop} {L : List Value} (hL : L ≠ [])
    (hflat : ∀ v ∈ L, Json.FlatValue textOk v) :
    parse (p ++ " " ++ String.ofList [i, n] ++ " " ++ Json.render Json.Layout.dumps (.arr L)) =
      .oneOf p (listLiteral (Json.render Json.Layout.dumps (.arr L))) := by
  obtain ⟨w, L', rfl⟩ := List.exists_cons_of_ne_nil hL
  have hmid : '\n' ∉ (Json.writeItems Json.Layout.dumps 1 (w :: L')).toList := fun h =>
    Json.newline_not_mem_render hflat (by rw [Json.toList_render_cons]; simp [h])
  exact parse_oneOf hp hi hn (Json.toList_render_cons w L') hmid

/-- Whether a comparison with `x` at `p` holds: the answer at `p` is present, not null and strictly
equal to `x`. -/
theorem isActive_equals_iff {text p : String} {x : Value} (h : parse text = .equals p x)
    (g : Value) :
    isActive (some text) g = .ok true ↔
      ∃ v, g.lookup p = .ok (some v) ∧ v ≠ .null ∧ v.strictEq x = true := by
  rw [isActive, h, holds]
  cases hl : g.lookup p with
  | error e => simp [Except.map]
  | ok r =>
    rcases r with _ | v
    · simp [Except.map]
    · by_cases hv : v = .null
      · subst hv; simp [Except.map]
      · simp only [Except.map, Except.ok.injEq, Option.some.injEq, ne_eq, exists_eq_left', hv,
          not_false_eq_true, true_and]

theorem plainPath_a : PlainPath "a" := by
  refine ⟨by simp, fun c hc => ?_⟩
  rw [show "a".toList = ['a'] from rfl, List.mem_singleton] at hc
  subst hc
  exact ⟨by decide, by decide⟩

end Questionnaire.Condition

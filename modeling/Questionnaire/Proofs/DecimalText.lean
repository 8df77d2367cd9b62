import Questionnaire.Proofs.ShortestDigits
import Questionnaire.Json.Writer
import Questionnaire.Condition
/-!
# Plain decimal text

A double whose shortest form is written positionally is a plain decimal: an optional minus sign,
integer digits, a point and fraction digits (`plainChars`). Both number readers take such a text
back to its sign and digits, and the digits with the point read back as the double:

* `render_plain`: a finite double whose text is a plain decimal is written as `plainChars` of its
  sign and digits, and `Json.floatOfDecimal` of those digits gives the double back;
* `numberParts_plain` and `readNumber_plain`: the condition literal reader and the JSON number
  reader split a plain decimal into its sign, integer digits and fraction digits;
* `numberParts_int` and `readNumber_int`: the same for the decimal text of an integer.
-/

namespace Questionnaire.Decimal

/-- The characters of a signed decimal in plain notation. -/
def plainChars (neg : Bool) (ints frac : List Char) : List Char :=
  (if neg then ['-'] else []) ++ ints ++ '.' :: frac

/-- A plain decimal text: an optional minus sign, digits, a point and digits. -/
def IsPlainDecimal (s : String) : Prop :=
  ∃ neg ints frac, s.toList = plainChars neg ints frac ∧ ints ≠ [] ∧ frac ≠ [] ∧
    ∀ c ∈ ints ++ frac, c.isDigit = true

/-- What may follow a number for reading to stop before it: no digit, point or exponent mark. -/
def EndsNumber (rest : List Char) : Prop :=
  ∀ c ∈ rest.head?, Json.isAsciiDigit c = false ∧ c ≠ '.' ∧ c ≠ 'e' ∧ c ≠ 'E'

/-- Integer and fraction digits as the double printer writes them: both non-empty, ASCII digits,
and no leading zero before other integer digits. -/
structure PlainDigits (ints frac : List Char) : Prop where
  ints_ne : ints ≠ []
  frac_ne : frac ≠ []
  digit : ∀ c ∈ ints ++ frac, c.isDigit = true
  lead : ints.head? = some '0' → ints = ['0']

/-! ### Digit strings -/

theorem isDigit_iff (c : Char) : c.isDigit = true ↔ 48 ≤ c.toNat ∧ c.toNat ≤ 57 := by
  simp only [Char.isDigit, Bool.and_eq_true, decide_eq_true_eq, ge_iff_le, UInt32.le_iff_toNat_le]
  rfl

theorem ofDigitChars_zeros_append (n : ℕ) (ds : List Char) :
    Nat.ofDigitChars 10 (List.replicate n '0' ++ ds) 0 = Nat.ofDigitChars 10 ds 0 := by
  rw [Nat.ofDigitChars_append, Nat.ofDigitChars_replicate_zero, Nat.mul_zero]

theorem ofDigitChars_append_zeros (ds : List Char) (n : ℕ) :
    Nat.ofDigitChars 10 (ds ++ List.replicate n '0') 0 = Nat.ofDigitChars 10 ds 0 * 10 ^ n := by
  rw [Nat.ofDigitChars_append, Nat.ofDigitChars_replicate_zero, Nat.mul_comm]

/-- Digits are below the power of ten of their length. -/
theorem ofDigitChars_lt {ds : List Char} (h : ∀ c ∈ ds, c.isDigit = true) :
    Nat.ofDigitChars 10 ds 0 < 10 ^ ds.length := by
  induction ds with
  | nil => simp
  | cons d ds ih =>
    have hd : d.toNat - '0'.toNat < 10 := by
      have := (isDigit_iff d).1 (h d (by simp))
      have h0 : '0'.toNat = 48 := rfl
      omega
    have ih' := ih fun c hc => h c (by simp [hc])
    rw [Nat.ofDigitChars_cons, Nat.ofDigitChars_eq_ofDigitChars_zero, Nat.mul_zero, Nat.zero_add,
      List.length_cons, Nat.pow_succ]
    nlinarith

/-- The decimal digits of a positive number start with a nonzero digit. -/
theorem toDigits_head_ne_zero {c : ℕ} (hc : 0 < c) : (Nat.toDigits 10 c).head? ≠ some '0' := by
  intro hhead
  obtain ⟨rest, hrest⟩ : ∃ rest, Nat.toDigits 10 c = '0' :: rest := by
    cases h : Nat.toDigits 10 c with
    | nil => exact absurd h Nat.toDigits_ne_nil
    | cons d rest => rw [h] at hhead; cases hhead; exact ⟨rest, rfl⟩
  have hval : Nat.ofDigitChars 10 rest 0 = c := by
    have := Nat.ofDigitChars_ten_toDigits (n := c)
    rwa [hrest, Nat.ofDigitChars_cons] at this
  have hlt : Nat.ofDigitChars 10 rest 0 < 10 ^ rest.length := ofDigitChars_lt fun d hd =>
    Nat.isDigit_of_mem_toDigits (b := 10) (n := c) (by norm_num) le_rfl (by simp [hrest, hd])
  have hge := (toDigits_length_bounds (by norm_num : 1 < 10) hc).1
  rw [hrest, List.length_cons, Nat.add_sub_cancel] at hge
  omega

theorem decimalValue?_of_isDigit {c : Char} (h : c.isDigit = true) :
    Text.decimalValue? c = some (c.toNat - '0'.toNat) := by
  have h1 : 0x30 ≤ c.toNat := ((isDigit_iff c).1 h).1
  have h2 : c.toNat < 0x30 + 10 := by have := ((isDigit_iff c).1 h).2; omega
  simp [Text.decimalValue?, Text.decimalZeros, h1, h2]

/-- The condition reader values ASCII digits as the digit characters they are. -/
theorem digitsValue_eq {ds : List Char} (h : ∀ c ∈ ds, c.isDigit = true) :
    Condition.digitsValue ds = Nat.ofDigitChars 10 ds 0 := by
  apply List.foldl_ext
  intro acc c hc
  rw [decimalValue?_of_isDigit (h c hc), Option.getD_some, Nat.mul_comm]

theorem asciiDigitsValue_eq (ds : List Char) :
    Json.asciiDigitsValue ds = Nat.ofDigitChars 10 ds 0 := by
  apply List.foldl_ext
  intro acc c _
  rw [Nat.mul_comm]

theorem takeWhile_append_of_stop {p : Char → Bool} {ds rest : List Char}
    (hds : ∀ d ∈ ds, p d = true) (hstop : ∀ c ∈ rest.head?, p c = false) :
    (ds ++ rest).takeWhile p = ds := by
  induction ds with
  | nil =>
    cases rest with
    | nil => rfl
    | cons c rest => simp [hstop c rfl]
  | cons d ds ih =>
    rw [List.cons_append, List.takeWhile_cons_of_pos (hds d (by simp)),
      ih fun x hx => hds x (by simp [hx])]

theorem isAsciiDigit_eq (c : Char) : Json.isAsciiDigit c = c.isDigit := by
  simp only [Json.isAsciiDigit, Char.isDigit, ge_iff_le]
  rfl

theorem isDecimal_of_isDigit {c : Char} (h : c.isDigit = true) : Text.isDecimal c = true := by
  simp [Text.isDecimal, decimalValue?_of_isDigit h]

/-- The characters of a plain decimal: a minus sign, the point and digits. -/
theorem mem_plainChars {neg : Bool} {ints frac : List Char} {c : Char}
    (h : c ∈ plainChars neg ints frac) : c = '-' ∨ c = '.' ∨ c ∈ ints ++ frac := by
  simp only [plainChars, List.mem_append, List.mem_cons] at h
  rcases h with (h | h) | h | h
  · split at h
    · exact .inl (List.mem_singleton.1 h)
    · simp at h
  · exact .inr (.inr (List.mem_append_left _ h))
  · exact .inr (.inl h)
  · exact .inr (.inr (List.mem_append_right _ h))

/-! ### Reading plain decimals -/

theorem numberParts_plain {ints frac : List Char} (h : PlainDigits ints frac) (neg : Bool) :
    Condition.numberParts (plainChars neg ints frac) = some (neg, ints, some frac) := by
  have hdec : ∀ c ∈ ints ++ frac, Text.isDecimal c = true :=
    fun c hc => isDecimal_of_isDigit (h.digit c hc)
  have htake : (ints ++ '.' :: frac).takeWhile Text.isDecimal = ints :=
    takeWhile_append_of_stop (fun c hc => hdec c (by simp [hc])) (by simp; decide)
  have hfrac : frac.all Text.isDecimal = true :=
    List.all_eq_true.2 fun c hc => hdec c (by simp [hc])
  have hsigned : ∀ r, ints ++ '.' :: frac ≠ '-' :: r ∧ ints ++ '.' :: frac ≠ '+' :: r := by
    intro r
    obtain ⟨d, ds, rfl⟩ := List.exists_cons_of_ne_nil h.ints_ne
    have hd := (isDigit_iff d).1 (h.digit d (by simp))
    constructor
    · intro heq
      simp only [List.cons_append, List.cons.injEq] at heq
      rw [heq.1] at hd
      simp at hd
    · intro heq
      simp only [List.cons_append, List.cons.injEq] at heq
      rw [heq.1] at hd
      simp at hd
  cases neg
  · simp only [plainChars, Bool.false_eq_true, if_false, List.nil_append, Condition.numberParts]
    split
    · rename_i heq; exact absurd heq (hsigned _).1
    · rename_i heq; exact absurd heq (hsigned _).2
    · simp [htake, hfrac, h.frac_ne, h.ints_ne]
  · simp [plainChars, Condition.numberParts, htake, hfrac, h.frac_ne, h.ints_ne]

theorem readNumber_plain {ints frac : List Char} (h : PlainDigits ints frac) (neg : Bool)
    (rest : List Char) (hrest : EndsNumber rest)
    (i : ℕ) :
    Json.readNumber (plainChars neg ints frac ++ rest) i =
      some (.float (Json.floatOfDecimal neg (Nat.ofDigitChars 10 (ints ++ frac) 0)
        (-(frac.length : ℤ))), (rest, i + (plainChars neg ints frac).length)) := by
  have hdig : ∀ c ∈ ints ++ frac, Json.isAsciiDigit c = true := fun c hc => by
    rw [isAsciiDigit_eq]; exact h.digit c hc
  obtain ⟨d, ds, rfl⟩ := List.exists_cons_of_ne_nil h.ints_ne
  obtain ⟨f, fs, rfl⟩ := List.exists_cons_of_ne_nil h.frac_ne
  have hd := (isDigit_iff d).1 (h.digit d (by simp))
  have hdm : d ≠ '-' := by rintro rfl; simp at hd
  have hf : Json.isAsciiDigit f = true := hdig f (by simp)
  have hfs : (fs ++ rest).takeWhile Json.isAsciiDigit = fs :=
    takeWhile_append_of_stop (fun c hc => hdig c (by simp [hc])) (fun c hc => (hrest c hc).1)
  have hints : (d :: (ds ++ '.' :: f :: (fs ++ rest))).takeWhile Json.isAsciiDigit = d :: ds :=
    takeWhile_append_of_stop (fun c (hc : c ∈ d :: ds) => hdig c (List.mem_append_left _ hc))
      (by simp; decide)
  have hlead : d = '0' → ds = [] := fun hz => by simpa [hz] using h.lead (by simp [hz])
  rcases rest with _ | ⟨e, more⟩
  · simp only [List.append_nil] at hfs hints
    by_cases hz : d = '0' <;> cases neg <;>
      simp [Json.readNumber, plainChars, hdm, hz, hlead, hf, hfs, hints, asciiDigitsValue_eq] <;>
      omega
  · obtain ⟨-, -, he, hE⟩ := hrest e rfl
    by_cases hz : d = '0' <;> cases neg <;>
      simp [Json.readNumber, plainChars, hdm, hz, hlead, hf, hfs, hints, he, hE,
        asciiDigitsValue_eq] <;>
      omega

/-! ### Writing doubles -/

theorem toList_sign (neg : Bool) :
    (if neg = true then "-" else "").toList = if neg = true then ['-'] else [] := by
  cases neg <;> rfl

/-- Digit characters of the shortest decimal of a nonzero double, with the point placed so that
they denote that decimal, read back as the double. -/
theorem floatOfDecimal_of_value {x : Float} {b : Binary} (hx : classify x = .finite b)
    (hc : Binary64.Canonical b.m b.e) {M k : ℕ} (hk : 0 < k)
    (hv : (M : ℚ) * 10 ^ (-(k : ℤ)) = b.shortest.1 * 10 ^ b.shortest.2) :
    Json.floatOfDecimal b.neg M (-(k : ℤ)) = x := by
  apply floatOfDecimal_of_admits hx hc.pos hk
  rw [Binary.admits_iff hc.pos, hv]
  exact Binary.shortest_inRounding hc

/-! ### The positional layouts -/

/-- Digits with a point that read as `c · 10^(p - n)`, where `n` is the number of digits of `c`:
the positional text of `c` with the point after position `p`. -/
def PlainOf (c : ℕ) (p : ℤ) (text : List Char) : Prop :=
  ∃ ints frac, PlainDigits ints frac ∧ text = ints ++ '.' :: frac ∧
    (Nat.ofDigitChars 10 (ints ++ frac) 0 : ℚ) * 10 ^ (-(frac.length : ℤ)) =
      c * 10 ^ (p - (Nat.toDigits 10 c).length)

theorem isDigit_of_mem_toDigits_ten {c : ℕ} {d : Char} (h : d ∈ Nat.toDigits 10 c) :
    d.isDigit = true :=
  Nat.isDigit_of_mem_toDigits (by norm_num) (by norm_num) h

/-- Below one: `0.`, zeros, then the digits. -/
theorem plainOf_below (c : ℕ) {p : ℤ} (hp : p ≤ 0) :
    PlainOf c p (['0'] ++ '.' :: (List.replicate (-p).toNat '0' ++ Nat.toDigits 10 c)) := by
  refine ⟨['0'], List.replicate (-p).toNat '0' ++ Nat.toDigits 10 c,
    ⟨by simp, by simp [Nat.toDigits_ne_nil], ?_, fun _ => rfl⟩, rfl, ?_⟩
  · intro d hd
    simp only [List.cons_append, List.nil_append, List.mem_cons, List.mem_append,
      List.mem_replicate] at hd
    rcases hd with rfl | ⟨-, rfl⟩ | hd
    · rfl
    · rfl
    · exact isDigit_of_mem_toDigits_ten hd
  · have hk : ((List.replicate (-p).toNat '0' ++ Nat.toDigits 10 c).length : ℤ) =
        -p + (Nat.toDigits 10 c).length := by
      simp only [List.length_append, List.length_replicate]; push_cast; omega
    rw [hk, show ['0'] ++ (List.replicate (-p).toNat '0' ++ Nat.toDigits 10 c) =
        List.replicate ((-p).toNat + 1) '0' ++ Nat.toDigits 10 c by simp [List.replicate_succ],
      ofDigitChars_zeros_append, Nat.ofDigitChars_ten_toDigits, neg_add, neg_neg, sub_eq_add_neg]

/-- The point inside the digits. -/
theorem plainOf_inside {c : ℕ} (hc : 0 < c) {p : ℤ} (hp : 0 < p)
    (hpn : p < (Nat.toDigits 10 c).length) :
    PlainOf c p ((Nat.toDigits 10 c).take p.toNat ++ '.' :: (Nat.toDigits 10 c).drop p.toNat) := by
  have htake : (Nat.toDigits 10 c).take p.toNat ≠ [] := by
    simp only [ne_eq, List.take_eq_nil_iff, not_or]
    exact ⟨by omega, Nat.toDigits_ne_nil⟩
  have hdrop : (((Nat.toDigits 10 c).drop p.toNat).length : ℤ) =
      (Nat.toDigits 10 c).length - p := by
    rw [List.length_drop]; omega
  refine ⟨(Nat.toDigits 10 c).take p.toNat, (Nat.toDigits 10 c).drop p.toNat,
    ⟨htake, ?_, ?_, ?_⟩, rfl, ?_⟩
  · rw [← List.length_pos_iff]; omega
  · rw [List.take_append_drop]; exact fun d hd => isDigit_of_mem_toDigits_ten hd
  · -- the leading digit of a positive number is no zero
    intro hhead
    rw [List.head?_take, if_neg (by omega)] at hhead
    exact absurd hhead (toDigits_head_ne_zero hc)
  · rw [List.take_append_drop, Nat.ofDigitChars_ten_toDigits, hdrop, neg_sub]

/-- The point after the digits and zeros: zeros, then `.0`. -/
theorem plainOf_beyond {c : ℕ} (hc : 0 < c) (j : ℕ) :
    PlainOf c ((Nat.toDigits 10 c).length + j)
      ((Nat.toDigits 10 c ++ List.replicate j '0') ++ '.' :: ['0']) := by
  refine ⟨Nat.toDigits 10 c ++ List.replicate j '0', ['0'],
    ⟨by simp [Nat.toDigits_ne_nil], by simp, ?_, ?_⟩, rfl, ?_⟩
  · intro d hd
    simp only [List.mem_append, List.mem_replicate, List.mem_singleton] at hd
    rcases hd with (hd | ⟨-, rfl⟩) | rfl
    · exact isDigit_of_mem_toDigits_ten hd
    · rfl
    · rfl
  · intro hhead
    rw [List.head?_append_of_ne_nil _ Nat.toDigits_ne_nil] at hhead
    exact absurd hhead (toDigits_head_ne_zero hc)
  · rw [Nat.ofDigitChars_append, ofDigitChars_append_zeros, Nat.ofDigitChars_ten_toDigits]
    simp only [Nat.ofDigitChars_cons, Nat.ofDigitChars_nil, List.length_singleton,
      show ('0'.toNat - '0'.toNat : ℕ) = 0 from rfl, Nat.add_zero]
    push_cast
    rw [add_sub_cancel_left, zpow_natCast, zpow_neg_one]
    field_simp

/-- The positional text of the digits of a positive number. -/
theorem positional_plainOf {c : ℕ} (hc : 0 < c) (p : ℤ) :
    PlainOf c p (positional literalFloatStyle (toString c) p).toList := by
  have hstr : (toString c).toList = Nat.toDigits 10 c := by
    rw [Nat.toString_eq_ofList_toDigits, String.toList_ofList]
  have hlen : (toString c).length = (Nat.toDigits 10 c).length := by
    rw [← String.length_toList, hstr]
  simp only [positional, hlen, show literalFloatStyle.keepPointZero = true from rfl, if_true]
  split_ifs with h1 h2
  · simpa [hstr] using plainOf_below c h1
  · simpa using plainOf_inside hc (by omega) h2
  · obtain ⟨j, hj⟩ : ∃ j : ℕ, p = (Nat.toDigits 10 c).length + j :=
      ⟨(p - (Nat.toDigits 10 c).length).toNat, by omega⟩
    subst hj
    simpa [hstr] using plainOf_beyond hc j

theorem render_plain {x : Float} {b : Binary} (hx : classify x = .finite b)
    (hplain : IsPlainDecimal (renderFloat literalFloatStyle x)) :
    ∃ ints frac, PlainDigits ints frac ∧
      (renderFloat literalFloatStyle x).toList = plainChars b.neg ints frac ∧
      Json.floatOfDecimal b.neg (Nat.ofDigitChars 10 (ints ++ frac) 0) (-(frac.length : ℤ)) =
        x := by
  have hrender : renderFloat literalFloatStyle x = b.render literalFloatStyle := by
    simp [renderFloat, hx]
  rw [hrender] at hplain ⊢
  obtain ⟨hlt, hlow, hhigh, hnorm, -⟩ := classify_finite hx
  rcases Nat.eq_zero_or_pos b.m with hm | hm
  · -- zero is written `0.0`
    have hs : b.shortest = (0, 0) := by simp [Binary.shortest, hm]
    refine ⟨['0'], ['0'], ⟨by simp, by simp, by simp, fun _ => rfl⟩, ?_, ?_⟩
    · simp only [Binary.render, hs]
      cases b.neg <;> rfl
    · exact floatOfDecimal_zero hx hm (-1)
  · have hc : Binary64.Canonical b.m b.e := ⟨hm, hlt, hlow, hhigh, hnorm⟩
    have hq := Binary.shortest_inRounding hc
    have hv : ∀ M k : ℕ, 0 < k →
        (M : ℚ) * 10 ^ (-(k : ℤ)) = b.shortest.1 * 10 ^ b.shortest.2 →
          Json.floatOfDecimal b.neg M (-(k : ℤ)) = x :=
      fun M k hk h => floatOfDecimal_of_value hx hc hk h
    simp only [Binary.render] at hplain ⊢
    generalize b.shortest = p at hq hv hplain ⊢
    obtain ⟨c, t⟩ := p
    have hcpos : 0 < c := by
      obtain ⟨hpos, -⟩ := hq.bounds hc
      rcases Nat.eq_zero_or_pos c with h0 | h0
      · rw [h0] at hpos; simp at hpos; exact absurd hpos (not_lt.2 (by positivity))
      · exact h0
    have hlen : (toString c).length = (Nat.toDigits 10 c).length := by
      rw [Nat.toString_eq_ofList_toDigits, String.length_ofList]
    simp only [Nat.ne_of_gt hcpos, beq_iff_eq, if_false] at hplain ⊢
    split
    · -- positional: digits with a point that read as `c · 10^t`
      obtain ⟨ints, frac, hdig, htext, hvalue⟩ :=
        positional_plainOf hcpos (t + (toString c).length)
      refine ⟨ints, frac, hdig, ?_, hv _ _ (List.length_pos_of_ne_nil hdig.frac_ne) ?_⟩
      · simp only [String.toList_append, toList_sign, htext, plainChars]
        simp
      · rw [hvalue, hlen, add_sub_cancel_right]
    · -- an exponent is no plain decimal
      exfalso
      rename_i hsci
      rw [if_neg hsci] at hplain
      obtain ⟨neg, ints, frac, htext, -, -, hdig⟩ := hplain
      have he : 'e' ∈ ((if b.neg = true then "-" else "") ++ scientific literalFloatStyle
          (toString c) (t + (toString c).length)).toList := by
        simp [scientific, literalFloatStyle]
      rw [htext] at he
      rcases mem_plainChars he with he | he | he
      · exact absurd he (by decide)
      · exact absurd he (by decide)
      · exact absurd (hdig 'e' he) (by decide)

/-- Only a finite double has a plain decimal text: the words for the others have no point. -/
theorem classify_finite_of_plain {x : Float}
    (h : IsPlainDecimal (renderFloat literalFloatStyle x)) :
    ∃ b, classify x = .finite b := by
  obtain ⟨neg, ints, frac, htext, -⟩ := h
  have hdot : '.' ∈ (renderFloat literalFloatStyle x).toList := by simp [htext, plainChars]
  cases hx : classify x with
  | finite b => exact ⟨b, rfl⟩
  | infinite neg => cases neg <;> simp [renderFloat, hx, literalFloatStyle] at hdot
  | nan => simp [renderFloat, hx, literalFloatStyle] at hdot

/-- JSON writes finite doubles as literals do. -/
theorem renderFloat_json {x : Float} {b : Binary} (hx : classify x = .finite b) :
    renderFloat Json.jsonFloatStyle x = renderFloat literalFloatStyle x := by
  simp only [renderFloat, hx]
  rfl

/-! ### Integers -/

theorem toList_toString_int (n : ℤ) :
    (toString n).toList = (if n < 0 then ['-'] else []) ++ Nat.toDigits 10 n.natAbs := by
  cases n with
  | ofNat m => simp [toString, Int.repr]
  | negSucc m => simp [toString, Int.repr]

/-- The characters of the decimal text of an integer: a minus sign and digits. -/
theorem mem_toString_int {n : ℤ} {c : Char} (h : c ∈ (toString n).toList) :
    c = '-' ∨ c.isDigit = true := by
  rw [toList_toString_int, List.mem_append] at h
  rcases h with h | h
  · split at h
    · exact .inl (List.mem_singleton.1 h)
    · simp at h
  · exact .inr (Nat.isDigit_of_mem_toDigits (by norm_num) (by norm_num) h)

theorem numberParts_int (n : ℤ) :
    Condition.numberParts (toString n).toList =
      some (decide (n < 0), Nat.toDigits 10 n.natAbs, none) := by
  have hdig : ∀ c ∈ Nat.toDigits 10 n.natAbs, c.isDigit = true :=
    fun c hc => Nat.isDigit_of_mem_toDigits (by norm_num) (by norm_num) hc
  have htake : (Nat.toDigits 10 n.natAbs).takeWhile Text.isDecimal = Nat.toDigits 10 n.natAbs := by
    simpa using takeWhile_append_of_stop (fun c hc => isDecimal_of_isDigit (hdig c hc))
      (by simp : ∀ c ∈ ([] : List Char).head?, Text.isDecimal c = false)
  have hsigned : ∀ r,
      Nat.toDigits 10 n.natAbs ≠ '-' :: r ∧ Nat.toDigits 10 n.natAbs ≠ '+' :: r := by
    intro r
    constructor
    · intro heq
      have := (isDigit_iff '-').1 (hdig '-' (by simp [heq]))
      simp at this
    · intro heq
      have := (isDigit_iff '+').1 (hdig '+' (by simp [heq]))
      simp at this
  rw [toList_toString_int]
  by_cases hn : n < 0
  · simp [Condition.numberParts, hn, htake]
  · simp only [hn, if_false, List.nil_append, Condition.numberParts, decide_false]
    split
    · rename_i heq; exact absurd heq (hsigned _).1
    · rename_i heq; exact absurd heq (hsigned _).2
    · simp [htake]

theorem readNumber_int (n : ℤ) (rest : List Char)
    (hrest : EndsNumber rest)
    (i : ℕ) :
    Json.readNumber ((toString n).toList ++ rest) i =
      some (.int n, (rest, i + (toString n).length)) := by
  have hdig : ∀ c ∈ Nat.toDigits 10 n.natAbs, Json.isAsciiDigit c = true := fun c hc => by
    rw [isAsciiDigit_eq]; exact Nat.isDigit_of_mem_toDigits (by norm_num) (by norm_num) hc
  have htake : (Nat.toDigits 10 n.natAbs ++ rest).takeWhile Json.isAsciiDigit =
      Nat.toDigits 10 n.natAbs :=
    takeWhile_append_of_stop hdig (fun c hc => (hrest c hc).1)
  have hval : Json.asciiDigitsValue (Nat.toDigits 10 n.natAbs) = n.natAbs := by
    rw [asciiDigitsValue_eq, Nat.ofDigitChars_ten_toDigits]
  have hlen : (toString n).length =
      (if n < 0 then 1 else 0) + (Nat.toDigits 10 n.natAbs).length := by
    rw [← String.length_toList, toList_toString_int]; split <;> simp [Nat.add_comm]
  rw [toList_toString_int, hlen]
  obtain ⟨d, ds, hdl⟩ := List.exists_cons_of_ne_nil (Nat.toDigits_ne_nil (b := 10) (n := n.natAbs))
  have hd := (isAsciiDigit_eq d ▸ hdig d (by simp [hdl]))
  have hdm : d ≠ '-' := by rintro rfl; simp at hd
  have hlead : d = '0' → ds = [] ∧ n = 0 := by
    intro hz
    rcases Nat.eq_zero_or_pos n.natAbs with h0 | h0
    · rw [h0, Nat.toDigits_zero] at hdl
      simp only [List.cons.injEq] at hdl
      exact ⟨hdl.2.symm, Int.natAbs_eq_zero.1 h0⟩
    · exact absurd (by simp [hdl, hz]) (toDigits_head_ne_zero h0)
  rw [hdl] at htake hval ⊢
  have habs : (n.natAbs : ℤ) = if n < 0 then -n else n := by split <;> omega
  by_cases hz : d = '0'
  · -- zero is the digit `0` alone
    obtain ⟨rfl, rfl⟩ := hlead hz
    subst hz
    rcases rest with _ | ⟨e, more⟩
    · simp [Json.readNumber, Json.asciiDigitsValue]
    · obtain ⟨-, hdot, he, hE⟩ := hrest e rfl
      simp [Json.readNumber, Json.asciiDigitsValue, hdot, he, hE]
  · simp only [List.cons_append] at htake
    rcases rest with _ | ⟨e, more⟩
    · simp only [List.append_nil] at htake
      by_cases hn : n < 0 <;>
        simp [Json.readNumber, hdm, hz, hn, htake, hval, habs]
    · obtain ⟨-, hdot, he, hE⟩ := hrest e rfl
      by_cases hn : n < 0 <;>
        simp [Json.readNumber, hdm, hz, hn, htake, hval, habs, hdot, he, hE]

end Questionnaire.Decimal

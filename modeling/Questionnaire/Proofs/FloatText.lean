import Questionnaire.Proofs.FlatLists
/-!
# Every double reads back from its JSON text

A finite double is written with its shortest digits, positionally from `1e-4` below `1e16` and
with an exponent outside that range (`1e+16`, `2.5e-05`); the other doubles are written as the
words `Infinity`, `-Infinity` and `NaN`. The reader takes each of these texts back to the double
it came from, except that every NaN reads as the one NaN the reader makes (`rereadFloat`).

A decimal with a nonnegative exponent is read by multiplying: the stored doubles `M` and `10^k`
when both are exact, the exact integers otherwise, and the product is rounded once. Products round
into the rounding interval just as quotients do (`Binary64.mul_of_inRounding`), so digits in that
interval read as the double whatever the sign of their exponent
(`Decimal.floatOfDecimal_of_admits_int`).

* `renderFloat_cases`: the text of a finite double is a plain decimal, or digits with an exponent
  (`sciChars`) that read as the double;
* `readNumber_sci`: the number reader splits a decimal with an exponent into its digits and
  exponent;
* `readValue_renderFloat`: the main statement, for every double.
-/

open Float.Model Float.Model.UnpackedFloat

namespace Questionnaire.Binary64

/-- An exact value `N · 2^te` of at least 53 bits in the rounding interval of `m · 2^e` rounds to
`m · 2^e`. -/
theorem roundWithAccuracy_exact {m N : ℕ} {e te : ℤ} (hc : Canonical m e) (hN : 2 ^ 52 ≤ N)
    (sgn : Sign) (hq : InRounding m e ((N : ℚ) * 2 ^ te)) :
    roundWithAccuracy Format.binary64 sgn N te .exact = .finite sgn m e hc.pos := by
  have h := roundWithAccuracy_of_inRounding (N := N) (D := 1) hc one_pos sgn
    (by simpa using hq) fun E _ hE => ?_
  · simpa [accuracyOfFraction, Nat.mod_one] using h
  · -- `N` has 53 bits or more, so the value is at least `2^52 · 2^te`
    have hN' : (2 : ℚ) ^ 52 ≤ N := by exact_mod_cast hN
    have hlt : (2 : ℚ) ^ ((52 : ℤ) + te) < 2 ^ ((53 : ℤ) + E) := by
      rw [zpow_add₀ two_ne_zero, zpow_add₀ two_ne_zero]
      calc (2 : ℚ) ^ (52 : ℤ) * 2 ^ te ≤ N * 2 ^ te := by gcongr; exact_mod_cast hN'
        _ < 2 ^ (53 : ℤ) * 2 ^ E := by simpa using hE
    have := (zpow_lt_zpow_iff_right₀ (by norm_num : (1 : ℚ) < 2)).1 hlt
    omega

/-- **Multiplication rounds to the nearest double.** When the exact product of two positive
finite values, with 53 bits or more, lies in the rounding interval of `m · 2^e`, their product in
the model is `m · 2^e`. -/
theorem mul_of_inRounding {m m₁ m₂ : ℕ} {e e₁ e₂ : ℤ} (hc : Canonical m e) (h₁ : 0 < m₁)
    (h₂ : 0 < m₂) (hbits : 2 ^ 52 ≤ m₁ * m₂)
    (hq : InRounding m e ((m₁ : ℚ) * 2 ^ e₁ * ((m₂ : ℚ) * 2 ^ e₂))) :
    UnpackedFloat.mul Format.binary64 (.finite .positive m₁ e₁ h₁)
        (.finite .positive m₂ e₂ h₂) =
      .finite .positive m e hc.pos := by
  have hvalue : (m₁ : ℚ) * 2 ^ e₁ * ((m₂ : ℚ) * 2 ^ e₂) =
      ((m₁ * m₂ : ℕ) : ℚ) * 2 ^ (e₁ + e₂) := by
    rw [zpow_add₀ two_ne_zero]; push_cast; ring
  exact roundWithAccuracy_exact hc hbits _ (hvalue ▸ hq)

/-- The exponent of a decimal in a rounding interval is below `1024`. -/
theorem InRounding.exponent_lt {m M k : ℕ} {e : ℤ} (hc : Canonical m e) (hM : 0 < M)
    (hq : InRounding m e ((M : ℚ) * 10 ^ k)) : k < 1024 := by
  have hhi := (hq.bounds hc).2
  have hM' : (1 : ℚ) ≤ M := by exact_mod_cast hM
  have h2 : (2 : ℚ) ^ k < 2 ^ 1024 := by
    calc (2 : ℚ) ^ k ≤ 10 ^ k := pow_le_pow_left₀ (by norm_num) (by norm_num) k
      _ ≤ M * 10 ^ k := le_mul_of_one_le_left (by positivity) hM'
      _ < 2 ^ 1024 := by exact_mod_cast hhi
  exact (pow_lt_pow_iff_right₀ (by norm_num)).1 h2

/-- **Reading a decimal with a nonnegative exponent.** `M · 10^k` in the rounding interval of
`m · 2^e` reads as that double, by the exact product of the two stored values when both are
small, and by the rounded product of the exact values otherwise. -/
theorem ofScientific_nonneg_of_inRounding {m : ℕ} {e : ℤ} (hc : Canonical m e) {M k : ℕ}
    (hM : 0 < M) (hq : InRounding m e ((M : ℚ) * 10 ^ k)) :
    (Float.ofScientific M false k).toModel = Float.Model.pack (.finite .positive m e hc.pos) := by
  unfold Float.ofScientific
  split
  · -- both `M` and `10^k` are stored exactly
    rename_i h
    obtain ⟨hc₁, hnat⟩ := ofNat_exact hM h.1
    have hpow := powerOfTen_unpack h.2
    have hM64 : M.toUInt64.toNat = M := by
      rw [Nat.toUInt64_eq, UInt64.toNat_ofNat', Nat.mod_eq_of_lt (by omega)]
    have hsize : k < Float.exactlyRepresentablePowersOfTen.size := by
      have : Float.exactlyRepresentablePowersOfTen.size = 23 := rfl
      omega
    -- the stored `M` has its leading bit at the top, as its exponent is above the least one
    have hbits : 2 ^ 52 ≤ (M <<< (52 - M.log2)) * (5 ^ k <<< (52 - (5 ^ k).log2)) := by
      have hlead : 2 ^ 52 ≤ M <<< (52 - M.log2) := hc₁.normal.resolve_right (by omega)
      have hpos : 0 < 5 ^ k <<< (52 - (5 ^ k).log2) := by
        rw [Nat.shiftLeft_eq]; positivity
      exact le_trans hlead (Nat.le_mul_of_pos_right _ hpos)
    change Float.Model.pack (UnpackedFloat.mul Format.binary64
      (UnpackedFloat.unpack Format.binary64 (UnpackedFloat.pack Format.binary64
        (UnpackedFloat.ofNat Format.binary64 M.toUInt64.toNat)))
      Float.exactlyRepresentablePowersOfTen[k].toModel.unpack) = _
    rw [← getElem!_pos, hpow, hM64, hnat, unpack_pack_finite hc₁]
    congr 1
    apply mul_of_inRounding hc _ _ hbits
    rwa [ofNat_exact_value hM h.1, powerOfTen_value h.2]
  · -- the exact values are multiplied and rounded
    change Float.Model.pack (UnpackedFloat.ofScientific Format.binary64 M (Int.ofNat k)) = _
    have hhuge : ¬ ((k : ℤ) > 2 ^ 11) := by have := hq.exponent_lt hc hM; omega
    have hmant : Format.binary64.mantissaBits = 53 := rfl
    simp only [UnpackedFloat.ofScientific, Nat.ne_of_gt hM, ↓reduceDIte, Int.ofNat_eq_natCast,
      hmant, Int.toNat_natCast]
    rw [if_neg hhuge, if_neg (by omega), if_pos (by omega)]
    congr 1
    have hshift : M <<< 53 = M * 2 ^ 53 := Nat.shiftLeft_eq M 53
    apply mul_of_inRounding hc _ _
    · -- `M · 2^53` has 53 bits or more
      have hpos : 1 ≤ M * 10 ^ k := Nat.mul_pos hM (by positivity)
      calc 2 ^ 52 ≤ 1 * 2 ^ 53 := by norm_num
        _ ≤ M * 10 ^ k * 2 ^ 53 := Nat.mul_le_mul_right _ hpos
        _ = M <<< 53 * 10 ^ k := by rw [hshift]; ring
    · convert hq using 1
      rw [hshift, zpow_zero, mul_one, zpow_neg, zpow_natCast]
      simp only [Nat.cast_mul, Nat.cast_pow, Nat.cast_ofNat]
      field_simp

end Questionnaire.Binary64
namespace Questionnaire.Decimal

/-- **A decimal with a nonnegative exponent in the rounding interval of a double reads as that
double**, with its sign: the guard against huge exponents does not apply, and the product rounds
to it. -/
theorem floatOfDecimal_of_admits_nonneg {x : Float} {b : Binary} (hx : classify x = .finite b)
    (hm : 0 < b.m) {M k : ℕ} (ha : b.admits M k = true) :
    Json.floatOfDecimal b.neg M k = x := by
  obtain ⟨hlt, hlow, hhigh, hnorm, -⟩ := classify_finite hx
  have hc : Binary64.Canonical b.m b.e := ⟨hm, hlt, hlow, hhigh, hnorm⟩
  have hq : Binary64.InRounding b.m b.e ((M : ℚ) * 10 ^ k) := by
    simpa using (Binary.admits_iff hm M k).1 ha
  obtain ⟨hqlo, hqhi⟩ := hq.bounds hc
  have hM : 0 < M := by
    have h0 : (0 : ℚ) < M * 10 ^ k := lt_trans (zpow_pos (by norm_num) _) hqlo
    have : (0 : ℚ) < M := (mul_pos_iff_of_pos_right (by positivity)).1 h0
    exact_mod_cast this
  -- the decimal is not huge, so reading multiplies
  have hguard : ¬ (400 < (k : ℤ) + (toString M).length) := by
    intro h
    have hlen : ((10 ^ ((toString M).length - 1) : ℕ) : ℚ) ≤ M :=
      by exact_mod_cast (repr_length_bounds hM).1
    have h1 : (10 : ℚ) ^ ((toString M).length - 1 + k) < 10 ^ 309 := by
      calc (10 : ℚ) ^ ((toString M).length - 1 + k) =
            10 ^ ((toString M).length - 1) * 10 ^ k := pow_add _ _ _
        _ ≤ M * 10 ^ k := by gcongr; exact_mod_cast hlen
        _ < 2 ^ (1024 : ℤ) := hqhi
        _ = 2 ^ 1024 := zpow_natCast 2 1024
        _ < 10 ^ 309 := by exact_mod_cast (by decide +kernel : (2 : ℕ) ^ 1024 < 10 ^ 309)
    have := (pow_lt_pow_iff_right₀ (by norm_num : (1 : ℚ) < 10)).1 h1
    omega
  simp only [Json.floatOfDecimal, beq_iff_eq, Nat.ne_of_gt hM, if_false, gt_iff_lt]
  rw [if_neg hguard, if_neg (show ¬ ((k : ℤ) + (toString M).length < -400) by omega),
    if_pos (show (k : ℤ) ≥ 0 by omega), Int.toNat_natCast]
  exact signed_eq_of_toModel hx hc (Binary64.ofScientific_nonneg_of_inRounding hc hM hq)

/-- **A decimal in the rounding interval of a nonzero double reads as that double**, whatever
the sign of its exponent. -/
theorem floatOfDecimal_of_admits_int {x : Float} {b : Binary} (hx : classify x = .finite b)
    (hm : 0 < b.m) {M : ℕ} {t : ℤ} (ha : b.admits M t = true) :
    Json.floatOfDecimal b.neg M t = x := by
  rcases lt_or_ge t 0 with ht | ht
  · obtain ⟨k, rfl⟩ : ∃ k : ℕ, t = -(k : ℤ) := ⟨(-t).toNat, by omega⟩
    exact floatOfDecimal_of_admits hx hm (by omega) ha
  · obtain ⟨k, rfl⟩ : ∃ k : ℕ, t = k := ⟨t.toNat, by omega⟩
    exact floatOfDecimal_of_admits_nonneg hx hm ha

/-! ### Decimals with an exponent -/

/-- The characters of a signed decimal with an exponent: a digit, the other digits after a point
when there are any, the mark `e`, and the exponent's sign and digits. -/
def sciChars (neg : Bool) (d : Char) (frac : List Char) (eneg : Bool) (eds : List Char) :
    List Char :=
  (if neg then ['-'] else []) ++
    d :: ((if frac = [] then [] else '.' :: frac) ++ 'e' :: (if eneg then '-' else '+') :: eds)

/-- The exponent that signed digits denote. -/
def expValue (eneg : Bool) (eds : List Char) : ℤ :=
  if eneg then -(Nat.ofDigitChars 10 eds 0 : ℤ) else Nat.ofDigitChars 10 eds 0

/-- The number reader splits a decimal with an exponent into its sign, digits and exponent, and
stops where the number ends. -/
theorem readNumber_sci {d : Char} {frac eds : List Char} (hd : d.isDigit = true)
    (hfrac : ∀ c ∈ frac, c.isDigit = true) (heds : ∀ c ∈ eds, c.isDigit = true)
    (hne : eds ≠ []) (neg eneg : Bool) (rest : List Char) (hrest : EndsNumber rest) (i : ℕ) :
    Json.readNumber (sciChars neg d frac eneg eds ++ rest) i =
      some (.float (Json.floatOfDecimal neg (Nat.ofDigitChars 10 (d :: frac) 0)
        (expValue eneg eds - frac.length)), (rest, i + (sciChars neg d frac eneg eds).length)) := by
  have hdig : ∀ c, c.isDigit = true → Json.isAsciiDigit c = true := fun c hc => by
    rw [isAsciiDigit_eq]; exact hc
  have hdm : d ≠ '-' := by rintro rfl; exact absurd hd (by decide)
  have hde : Json.isAsciiDigit d = true := hdig d hd
  have heds' : (eds ++ rest).takeWhile Json.isAsciiDigit = eds :=
    takeWhile_append_of_stop (fun c hc => hdig c (heds c hc)) (fun c hc => (hrest c hc).1)
  have hedsne : eds.isEmpty = false := by simpa using hne
  have hstop : Json.isAsciiDigit 'e' = false ∧ Json.isAsciiDigit '.' = false := by decide
  have hdrop : ∀ a b : Char, List.drop (2 + eds.length) (a :: b :: (eds ++ rest)) = rest := by
    intro a b; rw [Nat.add_comm]; simp
  rcases frac with _ | ⟨f, fs⟩
  on_goal 2 =>
    -- the fraction digits stop at the mark `e`
    have hf : Json.isAsciiDigit f = true := hdig f (hfrac f (by simp))
    have hfs : ∀ s : Char, (fs ++ 'e' :: s :: (eds ++ rest)).takeWhile Json.isAsciiDigit = fs :=
      fun s => takeWhile_append_of_stop (fun c hc => hdig c (hfrac c (by simp [hc])))
        (by simp [hstop])
  -- the reader's branches: a leading zero or not, and the two signs
  all_goals by_cases hz : d = '0' <;> cases neg <;> cases eneg
  all_goals
    simp only [Json.readNumber, sciChars, expValue, asciiDigitsValue_eq, Bool.false_eq_true,
      Bool.or_false, Char.reduceEq, CharP.cast_eq_zero, List.append_assoc, List.append_nil,
      List.cons.injEq, List.cons_append, List.drop_left', List.drop_succ_cons, List.drop_zero,
      List.isEmpty_cons, List.length_append, List.length_cons, List.length_nil, List.nil_append,
      List.takeWhile_cons_of_neg, List.takeWhile_cons_of_pos, Nat.add_left_cancel_iff,
      Nat.cast_add, Nat.cast_one, Nat.reduceAdd, Option.getD_none, Option.getD_some,
      Option.some.injEq, Prod.mk.injEq, add_zero, decide_false, decide_true, false_and, imp_self,
      implies_true, not_false_eq_true, reduceCtorEq, sub_zero, true_and, zero_add, Char.isValue,
      reduceIte, *]
    omega

/-- The exponent digits of a double's text: the digits of `n`, with zeros before them up to
`width`. -/
theorem toList_padDigits (n width : ℕ) :
    (padDigits n width).toList =
      List.replicate (width - (Nat.toDigits 10 n).length) '0' ++ Nat.toDigits 10 n := by
  simp only [padDigits, String.toList_append, String.toList_ofList]
  rw [Nat.toString_eq_ofList_toDigits, String.length_ofList, String.toList_ofList]

/-- Padded exponent digits are digits, at least one, and denote the exponent. -/
theorem padDigits_digits (n width : ℕ) :
    (∀ c ∈ (padDigits n width).toList, c.isDigit = true) ∧ (padDigits n width).toList ≠ [] ∧
      Nat.ofDigitChars 10 (padDigits n width).toList 0 = n := by
  rw [toList_padDigits]
  refine ⟨fun c hc => ?_, by simp [Nat.toDigits_ne_nil], ?_⟩
  · simp only [List.mem_append, List.mem_replicate] at hc
    rcases hc with ⟨-, rfl⟩ | hc
    · rfl
    · exact isDigit_of_mem_toDigits_ten hc
  · rw [ofDigitChars_zeros_append, Nat.ofDigitChars_ten_toDigits]

/-- Digits with the point after position `p`, written with an exponent: the first digit, the
others after a point, and the exponent `p - 1` with its sign. -/
theorem toList_scientific {c : ℕ} {d : Char} {frac : List Char}
    (hds : Nat.toDigits 10 c = d :: frac) (p : ℤ) :
    (scientific literalFloatStyle (toString c) p).toList =
      d :: ((if frac = [] then [] else '.' :: frac) ++
        'e' :: (if p - 1 < 0 then '-' else '+') :: (padDigits (p - 1).natAbs 2).toList) := by
  rcases frac with _ | ⟨f, fs⟩ <;> by_cases hp : p - 1 < 0 <;>
    simp [scientific, hds, literalFloatStyle, hp]

/-- **The text of a finite double**: a plain decimal, or its shortest digits with an exponent,
which read as the double. -/
theorem renderFloat_cases {x : Float} {b : Binary} (hx : classify x = .finite b) :
    IsPlainDecimal (renderFloat literalFloatStyle x) ∨
      ∃ d frac eneg eds, d.isDigit = true ∧ (∀ c ∈ frac, c.isDigit = true) ∧
        (∀ c ∈ eds, c.isDigit = true) ∧ eds ≠ [] ∧
        (renderFloat literalFloatStyle x).toList = sciChars b.neg d frac eneg eds ∧
        Json.floatOfDecimal b.neg (Nat.ofDigitChars 10 (d :: frac) 0)
          (expValue eneg eds - frac.length) = x := by
  have hrender : renderFloat literalFloatStyle x = b.render literalFloatStyle := by
    simp [renderFloat, hx]
  rw [hrender]
  obtain ⟨hlt, hlow, hhigh, hnorm, -⟩ := classify_finite hx
  rcases Nat.eq_zero_or_pos b.m with hm | hm
  · -- zero is written `0.0`
    have hs : b.shortest = (0, 0) := by simp [Binary.shortest, hm]
    refine .inl ⟨b.neg, ['0'], ['0'], ?_, by simp, by simp, by simp⟩
    simp only [Binary.render, hs]
    cases b.neg <;> rfl
  · have hc : Binary64.Canonical b.m b.e := ⟨hm, hlt, hlow, hhigh, hnorm⟩
    have hq := Binary.shortest_inRounding hc
    simp only [Binary.render]
    generalize b.shortest = p at hq ⊢
    obtain ⟨c, t⟩ := p
    have hcpos : 0 < c := by
      obtain ⟨hpos, -⟩ := hq.bounds hc
      rcases Nat.eq_zero_or_pos c with h0 | h0
      · rw [h0] at hpos; simp at hpos; exact absurd hpos (not_lt.2 (by positivity))
      · exact h0
    have hlen : (toString c).length = (Nat.toDigits 10 c).length := by
      rw [Nat.toString_eq_ofList_toDigits, String.length_ofList]
    simp only [Nat.ne_of_gt hcpos, beq_iff_eq, if_false]
    split
    · -- positional: a plain decimal
      obtain ⟨ints, frac, hdig, htext, -⟩ := positional_plainOf hcpos (t + (toString c).length)
      refine .inl ⟨b.neg, ints, frac, ?_, hdig.ints_ne, hdig.frac_ne, hdig.digit⟩
      simp only [String.toList_append, toList_sign, htext, plainChars]
      simp
    · -- with an exponent: the first digit, the others after a point, the exponent `p - 1`
      obtain ⟨d, frac, hds⟩ :=
        List.exists_cons_of_ne_nil (Nat.toDigits_ne_nil (b := 10) (n := c))
      obtain ⟨heds, hne, hval⟩ :=
        padDigits_digits ((t + (toString c).length) - 1).natAbs 2
      have hdigits : ∀ e ∈ d :: frac, e.isDigit = true :=
        fun e he => isDigit_of_mem_toDigits_ten (hds ▸ he)
      refine .inr ⟨d, frac, decide (t + (toString c).length - 1 < 0),
        (padDigits ((t + (toString c).length) - 1).natAbs 2).toList,
        hdigits d (by simp), fun e he => hdigits e (by simp [he]), heds, hne, ?_, ?_⟩
      · rw [String.toList_append, toList_sign, toList_scientific hds]
        simp [sciChars]
      · -- the digits are `c` and the exponent puts the point back after `t`
        have hc' : Nat.ofDigitChars 10 (d :: frac) 0 = c := by
          rw [← hds, Nat.ofDigitChars_ten_toDigits]
        have hn : (toString c).length = frac.length + 1 := by rw [hlen, hds]; rfl
        have he : expValue (decide (t + (toString c).length - 1 < 0))
            (padDigits ((t + (toString c).length) - 1).natAbs 2).toList - frac.length = t := by
          simp only [expValue, hval, decide_eq_true_eq]
          split_ifs <;> omega
        rw [hc', he]
        apply floatOfDecimal_of_admits_int hx hm
        rw [Binary.admits_iff hm]
        exact hq

end Questionnaire.Decimal

namespace Questionnaire.Json

open Decimal

/-- The double that the JSON text of `x` reads as: `x` itself, and the reader's NaN for a NaN. -/
def rereadFloat (x : Float) : Float :=
  match classify x with
  | .nan => 0.0 / 0.0
  | _ => x

/-- The bits of an infinite double: all exponent bits set, no mantissa bit. -/
theorem toBits_infinite {x : Float} {neg : Bool} (h : classify x = .infinite neg) :
    x.toBits.toNat = (if neg then 2 ^ 63 else 0) + 2047 * 2 ^ 52 := by
  have hlt : x.toBits.toNat < 2 ^ 64 := x.toBits.toNat_lt
  simp only [classify, Nat.pow_eq, beq_iff_eq] at h
  generalize x.toBits.toNat = n at h hlt ⊢
  split_ifs at h with h1 h2
  cases h
  -- the sign is the top bit, and the exponent bits below it are all set
  split_ifs with hneg
  · simp only [beq_iff_eq] at hneg
    omega
  · simp only [beq_iff_eq] at hneg
    omega

/-- The text `Infinity` and `-Infinity` read as the infinite double of that sign. -/
theorem infinite_eq {x : Float} {neg : Bool} (h : classify x = .infinite neg) :
    x = if neg then -1.0 / 0.0 else 1.0 / 0.0 := by
  apply float_eq_of_toBits
  rw [toBits_infinite h]
  cases neg <;> decide +kernel

/-- The JSON text of a double starts with a digit, a minus sign, or the first letter of a
word. -/
theorem renderFloat_head (x : Float) :
    ∃ c r, (renderFloat jsonFloatStyle x).toList = c :: r ∧
      (c.isDigit = true ∨ c = '-' ∨ c = 'I' ∨ c = 'N') := by
  cases hx : classify x with
  | finite b =>
    rw [renderFloat_json hx]
    rcases renderFloat_cases hx with ⟨neg, ints, frac, htext, hints, -, hdig⟩ |
      ⟨d, frac, eneg, eds, hd, -, -, -, htext, -⟩
    · rw [htext]
      cases neg
      · obtain ⟨c, r, rfl⟩ := List.exists_cons_of_ne_nil hints
        exact ⟨c, r ++ '.' :: frac, rfl, .inl (hdig c (by simp))⟩
      · exact ⟨'-', ints ++ '.' :: frac, rfl, .inr (.inl rfl)⟩
    · rw [htext]
      cases b.neg
      · exact ⟨d, _, rfl, .inl hd⟩
      · exact ⟨'-', _, rfl, .inr (.inl rfl)⟩
  | infinite neg =>
    cases neg
    · exact ⟨'I', "nfinity".toList, by simp [renderFloat, hx, jsonFloatStyle], by simp⟩
    · exact ⟨'-', "Infinity".toList, by simp [renderFloat, hx, jsonFloatStyle], by simp⟩
  | nan => exact ⟨'N', "aN".toList, by simp [renderFloat, hx, jsonFloatStyle], by simp⟩

/-- **Every double reads back from its JSON text**, up to a character that ends a number: a
finite or infinite double as itself, and a NaN as the reader's NaN. -/
theorem readValue_renderFloat (x : Float) {rest : List Char} (hrest : EndsNumber rest)
    (total fuel : ℕ) {i : ℕ}
    (hfit : i + (renderFloat jsonFloatStyle x).length + rest.length ≤ total) :
    readValue total (fuel + 1) ((renderFloat jsonFloatStyle x).toList ++ rest, i) =
      .ok (.float (rereadFloat x), (rest, i + (renderFloat jsonFloatStyle x).length)) := by
  cases hx : classify x with
  | finite b =>
    have hre : rereadFloat x = x := by simp [rereadFloat, hx]
    rw [hre]
    rcases renderFloat_cases hx with
      hplain | ⟨d, frac, eneg, eds, hd, hfrac, heds, hne, htext, hval⟩
    · -- a plain decimal reads as in a flat list
      exact readValue_write_flat (show FlatValue (fun _ => True) (.float x) from hplain) hrest
        total fuel 0 hfit
    · -- digits with an exponent
      have hlen :
          (renderFloat jsonFloatStyle x).length = (sciChars b.neg d frac eneg eds).length := by
        rw [← String.length_toList, renderFloat_json hx, htext]
      rw [hlen, renderFloat_json hx, htext, readValue_of_readNumber hd ?_
        (readNumber_sci hd hfrac heds hne b.neg eneg rest hrest i), hval]
      cases b.neg
      · exact .inl ⟨(if frac = [] then [] else '.' :: frac) ++ 'e' ::
          (if eneg then '-' else '+') :: (eds ++ rest), by simp [sciChars]⟩
      · exact .inr ⟨(if frac = [] then [] else '.' :: frac) ++ 'e' ::
          (if eneg then '-' else '+') :: (eds ++ rest), by simp [sciChars]⟩
  | infinite neg =>
    have hre : rereadFloat x = if neg then -1.0 / 0.0 else 1.0 / 0.0 := by
      simp only [rereadFloat, hx]
      exact infinite_eq hx
    cases neg <;> simp [renderFloat, hx, jsonFloatStyle, readValue, startsWith, hre] <;> rfl
  | nan =>
    simp [renderFloat, hx, jsonFloatStyle, readValue, startsWith, rereadFloat]
    rfl

end Questionnaire.Json

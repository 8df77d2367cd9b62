import Mathlib
import Questionnaire.Decimal.Shortest
import Questionnaire.Json.Reader
/-!
# Reading a decimal gives the nearest double

Doubles here are the logical binary64 model of the core library: a double is its 64-bit pattern,
and arithmetic unpacks the pattern, computes exactly, and rounds to nearest with ties to even.
`Json.floatOfDecimal` reads `M · 10^-k` either by dividing the stored doubles `M` and `10^k`, when
both are exact, or by dividing the exact integers and rounding once.

The rounding interval of a positive double `m · 2^e` (`InRounding`) reaches halfway to both
neighbours, a quarter below at the bottom of a binade, and holds its ends exactly when `m` is even.
Division rounds into that interval: `Reads` tracks what the extended mantissa of the division knows
about the exact quotient through every right shift, and `div_of_inRounding` is the result.

* `floatOfDecimal_of_admits`: a decimal that `Binary.admits` reads back as the double, with its
  sign, by either path;
* `floatOfDecimal_zero`: zero digits read back as the signed zero.
-/

open Float.Model Float.Model.UnpackedFloat

namespace Questionnaire.Binary64

/-- An extended mantissa reads the quotient `N / D`: its mantissa is the integer part, its round
bit says whether the rest is at least one half and its sticky bit whether the rest is neither zero
nor exactly one half. -/
def Reads (em : ExtendedMantissa) (N D : ℕ) : Prop :=
  em.mantissa = N / D ∧ em.roundBit = decide (D ≤ 2 * (N % D)) ∧
    em.stickyBit = decide (N % D ≠ 0 ∧ 2 * (N % D) ≠ D)

theorem reads_ofMantissaAndAccuracy {N D : ℕ} (hD : 0 < D) :
    Reads (ExtendedMantissa.ofMantissaAndAccuracy (N / D) (accuracyOfFraction (N % D) D)) N D := by
  have hr := Nat.mod_lt N hD
  unfold accuracyOfFraction
  by_cases h0 : N % D = 0
  · simp [ExtendedMantissa.ofMantissaAndAccuracy, Reads, h0]
    omega
  · rcases hc : compare (2 * (N % D)) D with _ | _ | _
    all_goals
      simp only [h0, if_false, ExtendedMantissa.ofMantissaAndAccuracy, Reads, true_and]
    · have := Nat.compare_eq_lt.1 hc; simp; omega
    · have := Nat.compare_eq_eq.1 hc; simp; omega
    · have := Nat.compare_eq_gt.1 hc; simp; omega

theorem Reads.shiftRightOne {em : ExtendedMantissa} {N D : ℕ} (hD : 0 < D) (h : Reads em N D) :
    Reads em.shiftRightOne N (D * 2) := by
  obtain ⟨hm, hr, hs⟩ := h
  have hmod : N % (D * 2) = N % D + D * (N / D % 2) := Nat.mod_mul
  have hdiv : N / (D * 2) = N / D / 2 := (Nat.div_div_eq_div_mul N D 2).symm
  have hlt := Nat.mod_lt N hD
  have hbit : N / D % 2 = 0 ∨ N / D % 2 = 1 := Nat.mod_two_eq_zero_or_one _
  refine ⟨by simp [ExtendedMantissa.shiftRightOne, hm, hdiv], ?_, ?_⟩
  · simp only [ExtendedMantissa.shiftRightOne, hm, hmod]
    rcases hbit with hb | hb <;> simp only [hb, Nat.mul_zero, Nat.mul_one] <;> simp <;> omega
  · simp only [ExtendedMantissa.shiftRightOne, hr, hs, hmod]
    rw [Bool.eq_iff_iff]
    rcases hbit with hb | hb <;> simp only [hb, Nat.mul_zero, Nat.mul_one] <;> simp <;> omega

theorem Reads.shiftRight {em : ExtendedMantissa} {N D : ℕ} (hD : 0 < D) (h : Reads em N D) (s : ℕ) :
    Reads (em >>> s) N (D * 2 ^ s) := by
  induction s with
  | zero => simpa [HShiftRight.hShiftRight, Nat.repeat] using h
  | succ s ih =>
    have := ih.shiftRightOne (Nat.mul_pos hD (Nat.two_pow_pos s))
    simpa [HShiftRight.hShiftRight, Nat.repeat, Nat.pow_succ, Nat.mul_assoc] using this

/-- Rounding to the nearest mantissa, ties to even: a quotient within one half of `m`, and
exactly one half away only when `m` is even, rounds to `m`. -/
theorem Reads.roundedMantissa_eq {em : ExtendedMantissa} {N D m : ℕ} (hD : 0 < D)
    (h : Reads em N D) (hlo : 2 * m * D ≤ 2 * N + D) (hhi : 2 * N ≤ 2 * m * D + D)
    (htie : 2 * m * D = 2 * N + D ∨ 2 * N = 2 * m * D + D → m % 2 = 0) :
    em.roundedMantissa = m := by
  obtain ⟨μ, rb, sb⟩ := em
  obtain ⟨hm, hr, hs⟩ := h
  simp only at hm hr hs
  subst hm hr hs
  have hN := Nat.div_add_mod N D
  have hlt := Nat.mod_lt N hD
  generalize N / D = f at *
  generalize N % D = r at *
  subst hN
  -- the mantissa `m` is the integer part or the next one
  have hup : m ≤ f + 1 := by
    have : 2 * m * D < (2 * f + 3) * D := by nlinarith
    have := Nat.lt_of_mul_lt_mul_right this
    omega
  have hdown : f ≤ m := by
    have : 2 * f * D < (2 * m + 1 + 1) * D := by nlinarith
    have := Nat.lt_of_mul_lt_mul_right this
    omega
  simp only [ExtendedMantissa.roundedMantissa, ExtendedMantissa.accuracy]
  rcases Nat.lt_or_ge (2 * r) D with hr | hr
  · have hm : m = f := by
      rcases Nat.eq_or_lt_of_le hdown with h | h
      · exact h.symm
      · nlinarith
    have h2r : 2 * r ≠ D := by omega
    have hD0 : D ≠ 0 := by omega
    by_cases h0 : r = 0 <;>
      simp [Accuracy.roundToNearestEven, h0, hm, Nat.not_le.2 hr, h2r, hD0]
  · rcases Nat.eq_or_lt_of_le hr with hr | hr
    · -- an exact tie between `f` and `f + 1`
      have hr0 : r ≠ 0 := by omega
      simp only [Accuracy.roundToNearestEven, hr, le_refl, decide_true, ne_eq, hr0,
        not_false_eq_true, not_true_eq_false, and_false, decide_false]
      rcases Nat.eq_or_lt_of_le hdown with h | h
      · have := htie (.inr (by rw [← h]; linarith))
        omega
      · have hm : m = f + 1 := by omega
        have := htie (.inl (by subst hm; nlinarith))
        omega
    · have hm : m = f + 1 := by
        rcases Nat.eq_or_lt_of_le hdown with h | h
        · subst h; nlinarith
        · omega
      have hr0 : r ≠ 0 := by omega
      simp [Accuracy.roundToNearestEven, hm, hr0, Nat.le_of_lt hr, Nat.ne_of_gt hr]

/-- The exponent the format gives a mantissa `Q` at exponent `te` is `E`, when `Q` has exactly
`53 + (E - te)` binary digits, or at most that many and `E` is the least exponent. -/
theorem targetExponent_eq {Q : ℕ} {te E : ℤ} (hE : -1074 ≤ E) (hte : te ≤ E)
    (hhi : Q < 2 ^ (53 + (E - te).toNat)) (hlo : 2 ^ (52 + (E - te).toNat) ≤ Q ∨ E = -1074) :
    Format.binary64.targetExponent (totalExponent Q te) = E := by
  have hlog : Q.log2 < 53 + (E - te).toNat := by
    rcases Nat.eq_zero_or_pos Q with h0 | h0
    · simp [h0]
    · exact (Nat.log2_lt (Nat.ne_of_gt h0)).2 hhi
  simp only [Format.targetExponent, totalExponent, Format.mantissaBits, Format.minExponent]
  norm_num
  rcases hlo with hlo | hlo
  · have hpos : 0 < Q := lt_of_lt_of_le (Nat.two_pow_pos _) hlo
    have := (Nat.le_log2 (Nat.ne_of_gt hpos)).2 hlo
    omega
  · omega

/-- The first shift of a rounding: to exponent `E`, where the mantissa then reads the quotient
scaled down by `2^(E - te)`. -/
theorem shiftToTargetExponent_reads {N D : ℕ} {te E : ℤ} (hD : 0 < D) (hE : -1074 ≤ E)
    (hte : te ≤ E) (hhi : N < 2 ^ 53 * (D * 2 ^ (E - te).toNat))
    (hlo : 2 ^ 52 * (D * 2 ^ (E - te).toNat) ≤ N ∨ E = -1074) :
    ∃ em, shiftToTargetExponent Format.binary64 (N / D) te (accuracyOfFraction (N % D) D) =
      (em, E) ∧ Reads em N (D * 2 ^ (E - te).toNat) := by
  have htarget : Format.binary64.targetExponent (totalExponent (N / D) te) = E := by
    apply targetExponent_eq hE hte
    · rw [Nat.div_lt_iff_lt_mul hD, Nat.pow_add]
      calc N < 2 ^ 53 * (D * 2 ^ (E - te).toNat) := hhi
        _ = 2 ^ 53 * 2 ^ (E - te).toNat * D := by ring
    · refine hlo.imp (fun h => ?_) id
      rw [Nat.le_div_iff_mul_le hD, Nat.pow_add]
      calc 2 ^ 52 * 2 ^ (E - te).toNat * D = 2 ^ 52 * (D * 2 ^ (E - te).toNat) := by ring
        _ ≤ N := h
  refine ⟨_, ?_, (reads_ofMantissaAndAccuracy hD).shiftRight hD _⟩
  simp only [shiftToTargetExponent, shiftToExponent, htarget]
  congr 1
  omega

/-- A mantissa of 53 bits, or a smaller one at the least exponent, stays where it is. -/
theorem shiftToTargetExponent_canonical {m : ℕ} {e : ℤ} (he : -1074 ≤ e) (hm : m < 2 ^ 53)
    (hn : 2 ^ 52 ≤ m ∨ e = -1074) :
    shiftToTargetExponent Format.binary64 m e .exact = (⟨m, false, false⟩, e) := by
  have htarget : Format.binary64.targetExponent (totalExponent m e) = e :=
    targetExponent_eq he le_rfl (by simpa using hm) (by simpa using hn)
  simp [shiftToTargetExponent, shiftToExponent, htarget, HShiftRight.hShiftRight, Nat.repeat,
    ExtendedMantissa.ofMantissaAndAccuracy]

/-- A mantissa that rounding carried to `2^53` moves up one exponent. -/
theorem shiftToTargetExponent_carry {e : ℤ} (he : -1074 ≤ e) :
    shiftToTargetExponent Format.binary64 (2 ^ 53) e .exact = (⟨2 ^ 52, false, false⟩, e + 1) := by
  have htarget : Format.binary64.targetExponent (totalExponent (2 ^ 53) e) = e + 1 := by
    simp only [Format.targetExponent, totalExponent, Nat.log2_two_pow, Format.mantissaBits,
      Format.minExponent]
    norm_num
    omega
  unfold shiftToTargetExponent
  rw [htarget]
  simp [shiftToExponent, HShiftRight.hShiftRight, Nat.repeat,
    ExtendedMantissa.ofMantissaAndAccuracy, ExtendedMantissa.shiftRightOne]

/-- Rounding a quotient `N / D` at exponent `te`: with `D' = D · 2^(E - te)`, the quotient
`N / D'` lies within one half of `m'` (exactly one half only for an even `m'`), so the first shift
goes to `E` and rounds to `m'`; the second shift then takes `m'` to its final form. -/
theorem roundWithAccuracy_eq {N D m' m : ℕ} {te E e : ℤ} (sgn : Sign) (hD : 0 < D)
    (hE : -1074 ≤ E) (hte : te ≤ E) (hhi : N < 2 ^ 53 * (D * 2 ^ (E - te).toNat))
    (hlo : 2 ^ 52 * (D * 2 ^ (E - te).toNat) ≤ N ∨ E = -1074)
    (hr1 : 2 * m' * (D * 2 ^ (E - te).toNat) ≤ 2 * N + D * 2 ^ (E - te).toNat)
    (hr2 : 2 * N ≤ 2 * m' * (D * 2 ^ (E - te).toNat) + D * 2 ^ (E - te).toNat)
    (htie : 2 * m' * (D * 2 ^ (E - te).toNat) = 2 * N + D * 2 ^ (E - te).toNat ∨
      2 * N = 2 * m' * (D * 2 ^ (E - te).toNat) + D * 2 ^ (E - te).toNat → m' % 2 = 0)
    (hfinal : shiftToTargetExponent Format.binary64 m' E .exact = (⟨m, false, false⟩, e))
    (hm : 0 < m) :
    roundWithAccuracy Format.binary64 sgn (N / D) te (accuracyOfFraction (N % D) D) =
      .finite sgn m e hm := by
  obtain ⟨em, hshift, hreads⟩ := shiftToTargetExponent_reads hD hE hte hhi hlo
  have hround := hreads.roundedMantissa_eq (Nat.mul_pos hD (Nat.two_pow_pos _)) hr1 hr2 htie
  simp only [roundWithAccuracy, hshift, hround, hfinal, Nat.ne_of_gt hm, ↓reduceDIte]

/-- A positive double as the format stores it: `m · 2^e` with a mantissa of 53 bits, or fewer at
the least exponent, and an exponent in range. -/
structure Canonical (m : ℕ) (e : ℤ) : Prop where
  pos : 0 < m
  lt : m < 2 ^ 53
  low : -1074 ≤ e
  high : e ≤ 971
  normal : 2 ^ 52 ≤ m ∨ e = -1074

/-- The rounding interval of the double `m · 2^e`: the numbers that round to it. Its ends are the
midpoints to the neighbours and belong to it when `m` is even; the lower neighbour is a quarter
unit away at the bottom of a binade above the subnormals. -/
def InRounding (m : ℕ) (e : ℤ) (q : ℚ) : Prop :=
  let lo : ℚ := ((m : ℚ) - if m = 2 ^ 52 ∧ -1074 < e then 1 / 4 else 1 / 2) * 2 ^ e
  let hi : ℚ := ((m : ℚ) + 1 / 2) * 2 ^ e
  (lo < q ∨ m % 2 = 0 ∧ q = lo) ∧ (q < hi ∨ m % 2 = 0 ∧ q = hi)

/-- Where a number of the rounding interval of `m · 2^e` is rounded: at an exponent `E` to a
mantissa `m'` that the final shift takes to `m · 2^e`. Below the bottom of a binade that is one
exponent lower, where the mantissa carries to `2^53`. -/
theorem InRounding.target {m : ℕ} {e : ℤ} {q : ℚ} (hc : Canonical m e) (hq : InRounding m e q) :
    ∃ E m', -1074 ≤ E ∧
      shiftToTargetExponent Format.binary64 m' E .exact = (⟨m, false, false⟩, e) ∧
      q < 2 ^ 53 * 2 ^ E ∧ (2 ^ 52 * 2 ^ E ≤ q ∨ E = -1074) ∧
      (m' : ℚ) - 1 / 2 ≤ q / 2 ^ E ∧ q / 2 ^ E ≤ m' + 1 / 2 ∧
      (q / 2 ^ E = m' - 1 / 2 ∨ q / 2 ^ E = m' + 1 / 2 → m' % 2 = 0) := by
  obtain ⟨hlo, hhi⟩ := hq
  have hp : (0 : ℚ) < 2 ^ e := zpow_pos (by norm_num) e
  have hm53 : (m : ℚ) + 1 ≤ 2 ^ 53 := by exact_mod_cast hc.lt
  by_cases hB : m = 2 ^ 52 ∧ -1074 < e ∧ q < 2 ^ 52 * 2 ^ e
  · -- just below the bottom of the binade: one exponent lower, the mantissa carries
    obtain ⟨rfl, he, hq52⟩ := hB
    rw [if_pos (show (2 : ℕ) ^ 52 = 2 ^ 52 ∧ -1074 < e from ⟨rfl, he⟩)] at hlo
    have hlo' : (2 ^ 52 - 1 / 4) * 2 ^ e ≤ q := by
      push_cast at hlo
      rcases hlo with h | ⟨-, h⟩ <;> linarith
    have h2 : (2 : ℚ) ^ (e - 1) * 2 = 2 ^ e := by
      rw [← zpow_add_one₀ (by norm_num : (2 : ℚ) ≠ 0), sub_add_cancel]
    have hp' : (0 : ℚ) < 2 ^ (e - 1) := zpow_pos (by norm_num) _
    rw [← h2] at hq52 hlo'
    refine ⟨e - 1, 2 ^ 53, by omega, ?_, ?_, .inl ?_, ?_, ?_, fun _ => by norm_num⟩
    · rw [shiftToTargetExponent_carry (by omega), sub_add_cancel]
    · linarith
    · nlinarith
    · rw [le_div_iff₀ hp']; push_cast; nlinarith
    · rw [div_le_iff₀ hp']; push_cast; nlinarith
  · -- the mantissa is `m` itself, at the exponent `e`
    have hq52 : m = 2 ^ 52 ∧ -1074 < e → 2 ^ 52 * 2 ^ e ≤ q := by
      intro h; by_contra h'; exact hB ⟨h.1, h.2, lt_of_not_ge h'⟩
    have hlo' : ((m : ℚ) - 1 / 2) * 2 ^ e ≤ q := by
      by_cases hg : m = 2 ^ 52 ∧ -1074 < e
      · have := hq52 hg
        rw [hg.1]; push_cast; nlinarith
      · simp only [if_neg hg] at hlo
        rcases hlo with h | ⟨-, h⟩ <;> linarith
    have hhi' : q ≤ ((m : ℚ) + 1 / 2) * 2 ^ e := by
      rcases hhi with h | ⟨-, h⟩ <;> linarith
    refine ⟨e, m, hc.low, shiftToTargetExponent_canonical hc.low hc.lt hc.normal, ?_, ?_,
      ?_, ?_, ?_⟩
    · nlinarith
    · rcases hc.normal with h | h
      · rcases Nat.eq_or_lt_of_le h with h | h
        · by_cases he : e = -1074
          · exact .inr he
          · have := hc.low
            exact .inl (hq52 ⟨h.symm, by omega⟩)
        · have : (2 : ℚ) ^ 52 + 1 ≤ m := by exact_mod_cast h
          left; nlinarith
      · exact .inr h
    · rw [le_div_iff₀ hp]; exact hlo'
    · rw [div_le_iff₀ hp]; exact hhi'
    · rintro (h | h)
      · -- the lower end is reached only with the full half gap, where it needs an even `m`
        rw [div_eq_iff hp.ne'] at h
        by_cases hg : m = 2 ^ 52 ∧ -1074 < e
        · have := hq52 hg; rw [hg.1] at h; push_cast at h; nlinarith
        · simp only [if_neg hg] at hlo
          rcases hlo with h' | ⟨hev, -⟩
          · linarith
          · exact hev
      · rw [div_eq_iff hp.ne'] at h
        rcases hhi with h' | ⟨hev, -⟩
        · linarith
        · exact hev

/-- The quotient `N / D · 2^te` at exponent `E` is `N` over `D · 2^(E - te)`. -/
theorem quotient_scaled {N D : ℕ} {te E : ℤ} (hte : te ≤ E) :
    (N : ℚ) / D * 2 ^ te / 2 ^ E = (N : ℚ) / ((D * 2 ^ (E - te).toNat : ℕ) : ℚ) := by
  have h2 : (2 : ℚ) ^ E = 2 ^ te * 2 ^ (E - te).toNat := by
    rw [← zpow_natCast, ← zpow_add₀ (by norm_num : (2 : ℚ) ≠ 0), Int.toNat_of_nonneg (by omega)]
    congr 1; omega
  rw [h2]
  push_cast
  have : (0 : ℚ) < 2 ^ te := zpow_pos (by norm_num) te
  field_simp

/-- The quotient of two positive values is above `2^X`, with `X` read off the lengths of the two
mantissas. -/
theorem two_zpow_lt_quotient {m₁ m₂ : ℕ} {e₁ e₂ : ℤ} (h₁ : 0 < m₁) (h₂ : 0 < m₂) :
    (2 : ℚ) ^ ((m₁.log2 : ℤ) + e₁ - (m₂.log2 + 1) - e₂) < m₁ * 2 ^ e₁ / (m₂ * 2 ^ e₂) := by
  have hm₁ : (2 : ℚ) ^ m₁.log2 ≤ m₁ := by exact_mod_cast Nat.log2_self_le (Nat.ne_of_gt h₁)
  have hm₂ : (m₂ : ℚ) < 2 ^ (m₂.log2 + 1) := by exact_mod_cast Nat.lt_log2_self
  have hp₁ : (0 : ℚ) < 2 ^ e₁ := zpow_pos (by norm_num) _
  have hp₂ : (0 : ℚ) < 2 ^ e₂ := zpow_pos (by norm_num) _
  have hX : (2 : ℚ) ^ ((m₁.log2 : ℤ) + e₁ - (m₂.log2 + 1) - e₂) * (2 ^ (m₂.log2 + 1) * 2 ^ e₂) =
      2 ^ m₁.log2 * 2 ^ e₁ := by
    rw [← zpow_natCast, ← zpow_natCast, ← zpow_add₀ (by norm_num), ← zpow_add₀ (by norm_num),
      ← zpow_add₀ (by norm_num)]
    congr 1; push_cast; ring
  rw [lt_div_iff₀ (by positivity)]
  calc (2 : ℚ) ^ ((m₁.log2 : ℤ) + e₁ - (m₂.log2 + 1) - e₂) * (m₂ * 2 ^ e₂)
      < 2 ^ ((m₁.log2 : ℤ) + e₁ - (m₂.log2 + 1) - e₂) * (2 ^ (m₂.log2 + 1) * 2 ^ e₂) := by
        gcongr
    _ = 2 ^ m₁.log2 * 2 ^ e₁ := hX
    _ ≤ m₁ * 2 ^ e₁ := by gcongr

/-- **Rounding to the nearest double.** A quotient `N / D · 2^te` in the rounding interval of
`m · 2^e` rounds to `m · 2^e`, when it is computed with at least the bits that rounding keeps:
`te` is not above any exponent `E` of the format with the quotient below `2^53 · 2^E`. -/
theorem roundWithAccuracy_of_inRounding {m N D : ℕ} {e te : ℤ} (hc : Canonical m e) (hD : 0 < D)
    (sgn : Sign) (hq : InRounding m e ((N : ℚ) / D * 2 ^ te))
    (hbits : ∀ E : ℤ, -1074 ≤ E → (N : ℚ) / D * 2 ^ te < 2 ^ 53 * 2 ^ E → te ≤ E) :
    roundWithAccuracy Format.binary64 sgn (N / D) te (accuracyOfFraction (N % D) D) =
      .finite sgn m e hc.pos := by
  obtain ⟨E, m', hE, hfinal, hqhi, hqlo, hr1, hr2, htie⟩ := hq.target hc
  have hteE : te ≤ E := hbits E hE hqhi
  have hx := quotient_scaled (N := N) (D := D) hteE
  generalize (N : ℚ) / D * 2 ^ te = q at *
  refine roundWithAccuracy_eq _ hD hE hteE ?_ ?_ ?_ ?_ ?_ hfinal hc.pos
  all_goals
    set D' := D * 2 ^ (E - te).toNat with hD'
    have hD'pos : 0 < D' := Nat.mul_pos hD (Nat.two_pow_pos _)
    have hpE : (0 : ℚ) < 2 ^ E := zpow_pos (by norm_num) E
    have hD'q : (0 : ℚ) < D' := by exact_mod_cast hD'pos
  · have : (N : ℚ) < 2 ^ 53 * D' := by
      rw [← div_lt_iff₀ hD'q, ← hx, div_lt_iff₀ hpE]; exact hqhi
    exact_mod_cast this
  · refine hqlo.imp (fun h => ?_) id
    have : 2 ^ 52 * (D' : ℚ) ≤ N := by
      rw [← le_div_iff₀ hD'q, ← hx, le_div_iff₀ hpE]; exact h
    exact_mod_cast this
  · have : 2 * m' * (D' : ℚ) ≤ 2 * N + D' := by
      have := hx ▸ hr1
      rw [le_div_iff₀ hD'q] at this
      linarith
    exact_mod_cast this
  · have : 2 * (N : ℚ) ≤ 2 * m' * D' + D' := by
      have := hx ▸ hr2
      rw [div_le_iff₀ hD'q] at this
      linarith
    exact_mod_cast this
  · intro h
    apply htie
    rw [hx]
    rcases h with h | h
    · left
      have : 2 * (m' : ℚ) * D' = 2 * N + D' := by exact_mod_cast h
      field_simp
      linarith
    · right
      have : 2 * (N : ℚ) = 2 * m' * D' + D' := by exact_mod_cast h
      field_simp
      linarith

/-- **Division rounds to the nearest double.** When the exact quotient of two positive finite
values lies in the rounding interval of `m · 2^e`, their quotient in the model is `m · 2^e`. -/
theorem div_of_inRounding {m m₁ m₂ : ℕ} {e e₁ e₂ : ℤ} (hc : Canonical m e) (h₁ : 0 < m₁)
    (h₂ : 0 < m₂) (hq : InRounding m e ((m₁ : ℚ) * 2 ^ e₁ / ((m₂ : ℚ) * 2 ^ e₂))) :
    UnpackedFloat.div Format.binary64 (.finite .positive m₁ e₁ h₁) (.finite .positive m₂ e₂ h₂) =
      .finite .positive m e hc.pos := by
  generalize hqdef : (m₁ : ℚ) * 2 ^ e₁ / ((m₂ : ℚ) * 2 ^ e₂) = q at *
  simp only [UnpackedFloat.div, divCore]
  generalize hte : min (e₁ - e₂) (Format.binary64.targetExponent
    (totalExponent m₁ e₁ - totalExponent m₂ e₂)) = te
  have hte₁ : te ≤ e₁ - e₂ := by rw [← hte]; exact min_le_left _ _
  generalize hN : m₁ <<< (e₁ - e₂ - te).toNat = N
  -- the quotient computed is the exact one, at the exponent `te`
  have hvalue : (N : ℚ) / m₂ * 2 ^ te = q := by
    rw [← hN, ← hqdef, Nat.shiftLeft_eq]
    push_cast
    rw [← zpow_natCast, Int.toNat_of_nonneg (by omega)]
    have : (0 : ℚ) < 2 ^ e₂ := zpow_pos (by norm_num) _
    field_simp
    rw [← zpow_add₀ (by norm_num), ← zpow_add₀ (by norm_num)]
    congr 1
    omega
  refine roundWithAccuracy_of_inRounding hc h₂ _ (hvalue ▸ hq) fun E hE hqhi => ?_
  -- it has enough bits: a rounding exponent `E` is not below `te`
  by_cases hlow : te ≤ -1074
  · omega
  · have hT : te ≤ (m₁.log2 : ℤ) + e₁ - (m₂.log2 + 1) - e₂ - 52 := by
      rw [← hte] at hlow ⊢
      simp only [Format.targetExponent, totalExponent, Format.mantissaBits,
        Format.minExponent] at hlow ⊢
      norm_num at hlow ⊢
      omega
    have hX : (2 : ℚ) ^ ((m₁.log2 : ℤ) + e₁ - (m₂.log2 + 1) - e₂) < 2 ^ ((53 : ℤ) + E) := by
      calc _ < q := hqdef ▸ two_zpow_lt_quotient h₁ h₂
        _ < 2 ^ 53 * 2 ^ E := hvalue ▸ hqhi
        _ = _ := by rw [zpow_add₀ (by norm_num)]; norm_num
    have := (zpow_lt_zpow_iff_right₀ (by norm_num : (1 : ℚ) < 2)).1 hX
    omega

theorem toNat_unpackMantissa (b : BitVec Format.binary64.numBits) :
    (unpackMantissa b).toNat = b.toNat % 2 ^ 52 := by
  simp [unpackMantissa, BitVec.extractLsb_toNat]

theorem toNat_unpackExponent (b : BitVec Format.binary64.numBits) :
    (unpackExponent b).toNat = b.toNat / 2 ^ 52 % 2 ^ 11 := by
  simp [unpackExponent, BitVec.extractLsb_toNat, Nat.shiftRight_eq_div_pow]

theorem toNat_unpackSign (b : BitVec Format.binary64.numBits) :
    (unpackSign b).toNat = b.toNat / 2 ^ 63 := by
  have : b.toNat < 2 ^ 64 := b.isLt
  simp [unpackSign, BitVec.extractLsb_toNat, Nat.shiftRight_eq_div_pow]
  omega

theorem toNat_packComponents (s : Sign) (ex : BitVec 11) (man : BitVec 52) :
    (packComponents Format.binary64 s ex man).toNat =
      s.toBitVec.toNat * 2 ^ 63 + ex.toNat * 2 ^ 52 + man.toNat := by
  have h1 := ex.isLt
  have h2 := man.isLt
  simp only [packComponents, BitVec.toNat_append]
  rw [← Nat.shiftLeft_add_eq_or_of_lt h1, ← Nat.shiftLeft_add_eq_or_of_lt h2,
    Nat.shiftLeft_eq, Nat.shiftLeft_eq]
  ring

theorem ofBitVec_toBitVec (s : Sign) : Sign.ofBitVec s.toBitVec = s := by
  cases s <;> rfl

/-- The bits of a positive or negative canonical double: the sign bit, then the biased exponent
(zero below the normal range) and the mantissa without its leading bit. -/
theorem toNat_pack_finite {m : ℕ} {e : ℤ} (hc : Canonical m e) (s : Sign) :
    (UnpackedFloat.pack Format.binary64 (.finite s m e hc.pos)).toNat =
      s.toBitVec.toNat * 2 ^ 63 +
        if 2 ^ 52 ≤ m then (e + 1075).toNat * 2 ^ 52 + (m - 2 ^ 52) else m := by
  have hlog : m.log2 < 53 := (Nat.log2_lt (Nat.ne_of_gt hc.pos)).2 hc.lt
  have hlow := hc.low
  have hhigh := hc.high
  have hbias : (e + ((2 ^ (11 - 1) - 1 : ℕ) : ℤ) + ((52 : ℕ) : ℤ)).toNat = (e + 1075).toNat := by
    norm_num; omega
  have hfin : ¬ (2 ^ 11 ≤ (e + 1075).toNat + 1) := by omega
  simp only [UnpackedFloat.pack, Format.exponentBias, Format.mantissaBits, hbias, hfin, if_false]
  by_cases hn : 2 ^ 52 ≤ m
  · have hlog' : m.log2 + 1 = 1 + 52 := by
      have := (Nat.le_log2 (Nat.ne_of_gt hc.pos)).2 hn; omega
    have hm := hc.lt
    rw [if_pos hlog', if_pos hn, toNat_packComponents, BitVec.toNat_ofNat, BitVec.toNat_ofNat,
      Nat.mod_eq_of_lt (by omega : (e + 1075).toNat < 2 ^ 11)]
    omega
  · have hlog' : ¬ (m.log2 + 1 = 1 + 52) := by
      intro h; have := (Nat.log2_eq_iff (Nat.ne_of_gt hc.pos)).1 (by omega : m.log2 = 52); omega
    rw [if_neg hlog', if_neg hn, toNat_packComponents, BitVec.toNat_ofNat]
    simp only [BitVec.toNat_ofNat, Nat.zero_mod, zero_mul, add_zero]
    omega

/-- Reading back the bits of a canonical double gives the double. -/
theorem unpack_pack_finite {m : ℕ} {e : ℤ} (hc : Canonical m e) (s : Sign) :
    UnpackedFloat.unpack Format.binary64
        (UnpackedFloat.pack Format.binary64 (.finite s m e hc.pos)) =
      .finite s m e hc.pos := by
  have hbits := toNat_pack_finite hc s
  generalize UnpackedFloat.pack Format.binary64 (.finite s m e hc.pos) = b at hbits
  have hs : s.toBitVec.toNat < 2 := s.toBitVec.isLt
  have hm := hc.lt
  have hlow := hc.low
  have hhigh := hc.high
  have hsign : unpackSign b = s.toBitVec := by
    apply BitVec.eq_of_toNat_eq
    rw [toNat_unpackSign, hbits]
    split <;> omega
  unfold UnpackedFloat.unpack
  simp only [hsign, ofBitVec_toBitVec]
  by_cases hn : 2 ^ 52 ≤ m
  · rw [if_pos hn] at hbits
    have hex : (unpackExponent b).toNat = (e + 1075).toNat := by
      rw [toNat_unpackExponent, hbits]; omega
    have hman : (unpackMantissa b).toNat = m - 2 ^ 52 := by
      rw [toNat_unpackMantissa, hbits]; omega
    have h1 : unpackExponent b ≠ -1#11 := by
      intro h; rw [h] at hex; simp at hex; omega
    have h0 : unpackExponent b ≠ 0#11 := by
      intro h; rw [h] at hex; simp at hex; omega
    rw [if_neg h1, if_neg h0]
    congr 1
    · rw [BitVec.toNat_append, hman]
      simp only [BitVec.toNat_ofNat]
      rw [← Nat.shiftLeft_add_eq_or_of_lt (by omega), Nat.shiftLeft_eq]
      omega
    · rw [hex]; simp only [Format.exponentBias]; norm_num; omega
  · rw [if_neg hn] at hbits
    have he : e = -1074 := hc.normal.resolve_left hn
    have hex : (unpackExponent b).toNat = 0 := by
      rw [toNat_unpackExponent, hbits]; omega
    have hman : (unpackMantissa b).toNat = m := by
      rw [toNat_unpackMantissa, hbits]; omega
    have h1 : unpackExponent b ≠ -1#11 := by
      intro h; rw [h] at hex; simp at hex
    have h0 : unpackExponent b = 0#11 := BitVec.eq_of_toNat_eq (by simpa using hex)
    have hm0 : unpackMantissa b ≠ 0#52 := by
      intro h; rw [h] at hman; simp at hman; exact Nat.ne_of_gt hc.pos hman.symm
    rw [if_neg h1, if_pos h0, dif_neg hm0]
    congr 1
    · rw [hex, he]; simp only [Format.exponentBias]; norm_num

/-- A canonical double rounds to itself. -/
theorem roundWithAccuracy_canonical {m : ℕ} {e : ℤ} (hc : Canonical m e) (s : Sign) :
    roundWithAccuracy Format.binary64 s m e .exact = .finite s m e hc.pos := by
  simp only [roundWithAccuracy, shiftToTargetExponent_canonical hc.low hc.lt hc.normal,
    ExtendedMantissa.roundedMantissa, ExtendedMantissa.accuracy, Accuracy.roundToNearestEven,
    Nat.ne_of_gt hc.pos, ↓reduceDIte]

/-- A natural number below `2^53` converts exactly: its mantissa is shifted up to 53 bits. -/
theorem ofNat_exact {M : ℕ} (hM : 0 < M) (hM' : M < 2 ^ 53) :
    ∃ hc : Canonical (M <<< (52 - M.log2)) ((M.log2 : ℤ) - 52),
      UnpackedFloat.ofNat Format.binary64 M =
        .finite .positive (M <<< (52 - M.log2)) ((M.log2 : ℤ) - 52) hc.pos := by
  have hlog : M.log2 < 53 := (Nat.log2_lt (Nat.ne_of_gt hM)).2 hM'
  have hbounds := (Nat.log2_eq_iff (Nat.ne_of_gt hM)).1 rfl
  have hshift : M <<< (52 - M.log2) = M * 2 ^ (52 - M.log2) := Nat.shiftLeft_eq _ _
  have hc : Canonical (M <<< (52 - M.log2)) ((M.log2 : ℤ) - 52) := by
    refine ⟨?_, ?_, by omega, by omega, .inl ?_⟩
    · rw [hshift]; exact Nat.mul_pos hM (Nat.two_pow_pos _)
    · rw [hshift]
      calc M * 2 ^ (52 - M.log2) < 2 ^ (M.log2 + 1) * 2 ^ (52 - M.log2) :=
            Nat.mul_lt_mul_of_pos_right hbounds.2 (Nat.two_pow_pos _)
        _ = 2 ^ 53 := by rw [← Nat.pow_add]; congr 1; omega
    · rw [hshift]
      calc 2 ^ 52 = 2 ^ M.log2 * 2 ^ (52 - M.log2) := by rw [← Nat.pow_add]; congr 1; omega
        _ ≤ M * 2 ^ (52 - M.log2) := Nat.mul_le_mul_right _ hbounds.1
  refine ⟨hc, ?_⟩
  have htarget : Format.binary64.targetExponent (totalExponent M 0) = (M.log2 : ℤ) - 52 := by
    simp only [Format.targetExponent, totalExponent, Format.mantissaBits, Format.minExponent]
    norm_num
    omega
  simp only [UnpackedFloat.ofNat, UnpackedFloat.ofInt, UnpackedFloat.normalize,
    Int.compare_eq_gt.2 (by exact_mod_cast hM : (0 : ℤ) < M), UnpackedFloat.round, htarget,
    decreaseExponent, Int.toNat_natCast]
  have he : (0 : ℤ) - ((0 - ((M.log2 : ℤ) - 52)).toNat : ℕ) = (M.log2 : ℤ) - 52 := by omega
  have hs : (0 - ((M.log2 : ℤ) - 52)).toNat = 52 - M.log2 := by omega
  rw [he, hs]
  exact roundWithAccuracy_canonical hc _

/-- The powers of ten up to `10^22` are stored exactly: `10^k = 5^k · 2^k` with `5^k` below
`2^53`. -/
theorem powerOfTen_unpack {k : ℕ} (hk : k ≤ 22) :
    (Float.exactlyRepresentablePowersOfTen[k]!).toModel.unpack =
      .finite .positive (5 ^ k <<< (52 - (5 ^ k).log2)) ((k : ℤ) + (5 ^ k).log2 - 52)
        (Nat.shiftLeft_eq _ _ ▸ Nat.mul_pos (Nat.pow_pos (by norm_num)) (Nat.two_pow_pos _)) := by
  interval_cases k <;> rfl

theorem powerOfTen_value {k : ℕ} (hk : k ≤ 22) :
    ((5 ^ k <<< (52 - (5 ^ k).log2) : ℕ) : ℚ) * 2 ^ ((k : ℤ) + (5 ^ k).log2 - 52) = 10 ^ k := by
  have hlog : (5 ^ k).log2 ≤ 52 := by
    have h5 : 5 ^ k < 2 ^ 53 := by
      calc 5 ^ k ≤ 5 ^ 22 := Nat.pow_le_pow_right (by norm_num) hk
        _ < 2 ^ 53 := by norm_num
    have := (Nat.log2_lt (Nat.ne_of_gt (Nat.pow_pos (by norm_num)))).2 h5
    omega
  rw [Nat.shiftLeft_eq]
  push_cast
  rw [← zpow_natCast (2 : ℚ) (52 - ((5 : ℕ) ^ k).log2 : ℕ), mul_assoc,
    ← zpow_add₀ (by norm_num)]
  have : ((52 - (5 ^ k).log2 : ℕ) : ℤ) + ((k : ℤ) + (5 ^ k).log2 - 52) = k := by omega
  rw [this, zpow_natCast, ← mul_pow]
  norm_num

/-- Shifting a mantissa left by `s` and lowering the exponent by `s` keeps the value. -/
theorem shiftLeft_mul_zpow (n s : ℕ) (E : ℤ) :
    ((n <<< s : ℕ) : ℚ) * 2 ^ (E - s) = n * 2 ^ E := by
  rw [Nat.shiftLeft_eq]
  push_cast
  rw [← zpow_natCast (2 : ℚ) s, mul_assoc, ← zpow_add₀ (by norm_num)]
  congr 2
  ring

/-- The value of a natural number below `2^53` as `ofNat_exact` stores it. -/
theorem ofNat_exact_value {M : ℕ} (hM : 0 < M) (hM' : M < 2 ^ 53) :
    ((M <<< (52 - M.log2) : ℕ) : ℚ) * 2 ^ ((M.log2 : ℤ) - 52) = M := by
  have := shiftLeft_mul_zpow M (52 - M.log2) 0
  have hlog : M.log2 < 53 := (Nat.log2_lt (Nat.ne_of_gt hM)).2 hM'
  rwa [show (0 : ℤ) - ((52 - M.log2 : ℕ) : ℤ) = (M.log2 : ℤ) - 52 by omega, zpow_zero,
    mul_one] at this

/-- Every number of a rounding interval lies between `2^-1076` and `2^1024`. -/
theorem InRounding.bounds {m : ℕ} {e : ℤ} {q : ℚ} (hc : Canonical m e) (hq : InRounding m e q) :
    (2 : ℚ) ^ (-1076 : ℤ) < q ∧ q < 2 ^ (1024 : ℤ) := by
  obtain ⟨hlo, hhi⟩ := hq
  have hm1 : (1 : ℚ) ≤ m := by exact_mod_cast hc.pos
  have hm53 : (m : ℚ) + 1 ≤ 2 ^ 53 := by exact_mod_cast hc.lt
  have he : (2 : ℚ) ^ (-1074 : ℤ) ≤ 2 ^ e := zpow_le_zpow_right₀ (by norm_num) hc.low
  have he' : (2 : ℚ) ^ e ≤ 2 ^ (971 : ℤ) := zpow_le_zpow_right₀ (by norm_num) hc.high
  have hgap : ((m : ℚ) - if m = 2 ^ 52 ∧ -1074 < e then 1 / 4 else 1 / 2) ≥ 1 / 2 := by
    split_ifs <;> linarith
  have hp : (0 : ℚ) < 2 ^ e := zpow_pos (by norm_num) e
  have h1 : (2 : ℚ) ^ (-1076 : ℤ) < 1 / 2 * 2 ^ (-1074 : ℤ) := by
    have : (2 : ℚ) ^ (-1076 : ℤ) = 2 ^ (-1074 : ℤ) / 4 := by
      rw [show (-1076 : ℤ) = -1074 + -2 by norm_num, zpow_add₀ (by norm_num)]; ring
    have : (0 : ℚ) < 2 ^ (-1074 : ℤ) := zpow_pos (by norm_num) _
    linarith
  have h2 : (2 : ℚ) ^ 53 * 2 ^ (971 : ℤ) = 2 ^ (1024 : ℤ) := by
    rw [← zpow_natCast, ← zpow_add₀ (by norm_num)]; norm_num
  constructor
  · have : 1 / 2 * 2 ^ (-1074 : ℤ) ≤
        ((m : ℚ) - if m = 2 ^ 52 ∧ -1074 < e then 1 / 4 else 1 / 2) * 2 ^ e := by
      apply mul_le_mul hgap he (by positivity) (by linarith)
    rcases hlo with h | ⟨-, h⟩ <;> linarith
  · have : ((m : ℚ) + 1 / 2) * 2 ^ e < 2 ^ (1024 : ℤ) := by
      calc ((m : ℚ) + 1 / 2) * 2 ^ e < 2 ^ 53 * 2 ^ e := by gcongr; linarith
        _ ≤ 2 ^ 53 * 2 ^ (971 : ℤ) := by gcongr
        _ = 2 ^ (1024 : ℤ) := h2
    rcases hhi with h | ⟨-, h⟩ <;> linarith

/-- The number of decimals of a decimal in a rounding interval is below the bound past which
reading rounds to zero without dividing. -/
theorem InRounding.decimals_lt {m M k : ℕ} {e : ℤ} (hc : Canonical m e)
    (hq : InRounding m e ((M : ℚ) / 10 ^ k)) : k < M.log2 + 1077 := by
  have hlow := (hq.bounds hc).1
  have hM' : (M : ℚ) < 2 ^ (M.log2 + 1) := by exact_mod_cast Nat.lt_log2_self
  have h10 : (2 : ℚ) ^ k ≤ 10 ^ k := pow_le_pow_left₀ (by norm_num) (by norm_num) k
  rw [lt_div_iff₀ (by positivity)] at hlow
  have : (2 : ℚ) ^ (-1076 : ℤ) * 2 ^ k < 2 ^ (M.log2 + 1) := by
    calc (2 : ℚ) ^ (-1076 : ℤ) * 2 ^ k ≤ 2 ^ (-1076 : ℤ) * 10 ^ k := by gcongr
      _ < M := hlow
      _ < _ := hM'
  rw [← zpow_natCast, ← zpow_natCast, ← zpow_add₀ (by norm_num)] at this
  have := (zpow_lt_zpow_iff_right₀ (by norm_num : (1 : ℚ) < 2)).1 this
  omega

/-- **Reading a decimal.** `M · 10^-k` in the rounding interval of `m · 2^e` reads as that
double, by the exact division of the two stored values when both are small, and by the
rounded division of the exact values otherwise. -/
theorem ofScientific_of_inRounding {m : ℕ} {e : ℤ} (hc : Canonical m e) {M k : ℕ} (hM : 0 < M)
    (hk : 0 < k) (hq : InRounding m e ((M : ℚ) / 10 ^ k)) :
    (Float.ofScientific M true k).toModel = Float.Model.pack (.finite .positive m e hc.pos) := by
  unfold Float.ofScientific
  split
  · -- both `M` and `10^k` are stored exactly
    rename_i h
    obtain ⟨hc₁, hnat⟩ := ofNat_exact hM h.1
    have hpow := powerOfTen_unpack h.2
    have hM64 : M.toUInt64.toNat = M := by
      rw [Nat.toUInt64_eq, UInt64.toNat_ofNat', Nat.mod_eq_of_lt (by omega)]
    have hsize : k < Float.exactlyRepresentablePowersOfTen.size := by
      have : Float.exactlyRepresentablePowersOfTen.size = 23 := rfl
      omega
    change Float.Model.pack (UnpackedFloat.div Format.binary64
      (UnpackedFloat.unpack Format.binary64 (UnpackedFloat.pack Format.binary64
        (UnpackedFloat.ofNat Format.binary64 M.toUInt64.toNat)))
      Float.exactlyRepresentablePowersOfTen[k].toModel.unpack) = _
    rw [← getElem!_pos, hpow, hM64, hnat, unpack_pack_finite hc₁]
    congr 1
    apply div_of_inRounding hc
    rwa [ofNat_exact_value hM h.1, powerOfTen_value h.2]
  · -- the exact values are divided and rounded
    change Float.Model.pack (UnpackedFloat.ofScientific Format.binary64 M (Int.negOfNat k)) = _
    have hneg : Int.negOfNat k = -(k : ℤ) := Int.negOfNat_eq
    have hlarge : ¬ (-(k : ℤ) < -((2 : ℤ) ^ 11 + M.log2)) := by
      have := hq.decimals_lt hc
      omega
    simp only [UnpackedFloat.ofScientific, hneg, Nat.ne_of_gt hM, ↓reduceDIte, hlarge,
      if_false]
    rw [if_neg (by omega), if_neg (by omega)]
    congr 1
    apply div_of_inRounding hc
    convert hq using 1
    simp

end Questionnaire.Binary64

namespace Questionnaire.Decimal

/-- Two powers of a base split at the smaller exponent. -/
theorem zpow_split (r : ℚ) (hr : r ≠ 0) (i k : ℤ) : r ^ i = r ^ (i - k).toNat * r ^ min i k := by
  rw [← zpow_natCast, ← zpow_add₀ hr]
  congr 1
  omega

theorem compareScaled_spec (a : ℕ) (i j : ℤ) (b : ℕ) (k l : ℤ) :
    compareScaled a i j b k l =
      compare ((a : ℚ) * 2 ^ i * 10 ^ j) ((b : ℚ) * 2 ^ k * 10 ^ l) := by
  have hS : (0 : ℚ) < 2 ^ min i k * 10 ^ min j l := by positivity
  have hl : (a : ℚ) * 2 ^ i * 10 ^ j =
      ((a * Nat.pow 2 (i - k).toNat * Nat.pow 10 (j - l).toNat : ℕ) : ℚ) *
        (2 ^ min i k * 10 ^ min j l) := by
    rw [zpow_split 2 (by norm_num) i k, zpow_split 10 (by norm_num) j l]
    simp only [Nat.pow_eq]; push_cast; ring
  have hr : (b : ℚ) * 2 ^ k * 10 ^ l =
      ((b * Nat.pow 2 (k - i).toNat * Nat.pow 10 (l - j).toNat : ℕ) : ℚ) *
        (2 ^ min i k * 10 ^ min j l) := by
    rw [zpow_split 2 (by norm_num) k i, zpow_split 10 (by norm_num) l j, min_comm k i,
      min_comm l j]
    simp only [Nat.pow_eq]; push_cast; ring
  simp only [compareScaled, neg_sub]
  rw [hl, hr]
  generalize a * Nat.pow 2 (i - k).toNat * Nat.pow 10 (j - l).toNat = x
  generalize b * Nat.pow 2 (k - i).toNat * Nat.pow 10 (l - j).toNat = y
  rcases lt_trichotomy x y with h | h | h
  · rw [Nat.compare_eq_lt.2 h, eq_comm, compare_lt_iff_lt]
    exact mul_lt_mul_of_pos_right (by exact_mod_cast h) hS
  · subst h; simp
  · rw [Nat.compare_eq_gt.2 h, eq_comm, compare_gt_iff_gt]
    exact mul_lt_mul_of_pos_right (by exact_mod_cast h) hS

namespace Binary

/-- The lower end of the rounding interval, in units of `2^(e-2)`. -/
theorem interval_lo_value (b : Binary) (hm : 0 < b.m) :
    ((b.interval.1 : ℕ) : ℚ) * 2 ^ (b.e - 2) =
      ((b.m : ℚ) - if b.m = 2 ^ 52 ∧ -1074 < b.e then 1 / 4 else 1 / 2) * 2 ^ b.e := by
  have h4 : (2 : ℚ) ^ (b.e - 2) * 4 = 2 ^ b.e := by
    rw [show (4 : ℚ) = 2 ^ (2 : ℤ) by norm_num, ← zpow_add₀ (by norm_num), sub_add_cancel]
  rw [← h4]
  simp only [interval, Nat.pow_eq, Bool.and_eq_true, beq_iff_eq, gt_iff_lt, decide_eq_true_eq]
  split_ifs <;> rw [Nat.cast_sub (by omega)] <;> push_cast <;> ring

theorem interval_hi_value (b : Binary) :
    ((b.interval.2.2 : ℕ) : ℚ) * 2 ^ (b.e - 2) = ((b.m : ℚ) + 1 / 2) * 2 ^ b.e := by
  have h4 : (2 : ℚ) ^ (b.e - 2) * 4 = 2 ^ b.e := by
    rw [show (4 : ℚ) = 2 ^ (2 : ℤ) by norm_num, ← zpow_add₀ (by norm_num), sub_add_cancel]
  rw [← h4]
  simp only [interval]
  push_cast; ring

/-- `admits` tests membership of `c · 10^t` in the rounding interval. -/
theorem admits_iff {b : Binary} (hm : 0 < b.m) (c : ℕ) (t : ℤ) :
    b.admits c t = true ↔ Binary64.InRounding b.m b.e ((c : ℚ) * 10 ^ t) := by
  have hlo := interval_lo_value b hm
  have hhi := interval_hi_value b
  simp only [admits, compareScaled_spec, zpow_zero, mul_one]
  simp only [Binary64.InRounding]
  rw [hlo, hhi]
  simp only [Bool.and_eq_true, Bool.or_eq_true, beq_iff_eq, compare_gt_iff_gt,
    compare_eq_iff_eq, compare_lt_iff_lt]

end Binary

/-- The sign, exponent and mantissa that `classify` reads are those of a double as the format
stores it, and they give back its bits. -/
theorem classify_finite {x : Float} {b : Binary} (h : classify x = .finite b) :
    b.m < 2 ^ 53 ∧ -1074 ≤ b.e ∧ b.e ≤ 971 ∧ (2 ^ 52 ≤ b.m ∨ b.e = -1074) ∧
      x.toBits.toNat = (if b.neg then 2 ^ 63 else 0) +
        if 2 ^ 52 ≤ b.m then (b.e + 1075).toNat * 2 ^ 52 + (b.m - 2 ^ 52) else b.m := by
  have hlt : x.toBits.toNat < 2 ^ 64 := x.toBits.toNat_lt
  simp only [classify, Nat.pow_eq, beq_iff_eq] at h
  generalize x.toBits.toNat = n at h hlt ⊢
  split_ifs at h with h1 h2
  · -- a subnormal or zero: no leading bit, the least exponent
    cases h
    dsimp only
    refine ⟨by omega, le_rfl, by omega, .inr rfl, ?_⟩
    simp only [beq_iff_eq, show ¬ (2 ^ 52 ≤ n % 2 ^ 52) by omega, if_false]
    split_ifs <;> omega
  · -- a normal double: the leading bit is implicit
    cases h
    dsimp only
    refine ⟨by omega, by omega, by omega, .inl (by omega), ?_⟩
    simp only [beq_iff_eq, show 2 ^ 52 ≤ n % 2 ^ 52 + 2 ^ 52 by omega, if_true]
    split_ifs <;> omega

/-- Two doubles with the same bits are the same double. -/
theorem float_eq_of_toBits {x y : Float} (h : x.toBits.toNat = y.toBits.toNat) : x = y := by
  obtain ⟨⟨bx, vx⟩⟩ := x
  obtain ⟨⟨bxy, vy⟩⟩ := y
  have : bx = bxy := UInt64.toNat_inj.1 h
  subst this
  rfl

/-- The number of digits of `n` in base `b` against powers of `b`. -/
theorem toDigits_length_bounds {b n : ℕ} (hb : 1 < b) (hn : 0 < n) :
    b ^ ((Nat.toDigits b n).length - 1) ≤ n ∧ n < b ^ (Nat.toDigits b n).length := by
  have hpos : 0 < (Nat.toDigits b n).length := Nat.length_toDigits_pos
  refine ⟨?_, (Nat.length_toDigits_le_iff hb hpos).1 le_rfl⟩
  rcases Nat.lt_or_ge 1 (Nat.toDigits b n).length with h | h
  · by_contra hlt
    have := (Nat.length_toDigits_le_iff hb (by omega)).2 (Nat.lt_of_not_le hlt)
    omega
  · rw [show (Nat.toDigits b n).length - 1 = 0 by omega]; exact hn

/-- The decimal length of `M` against powers of ten. -/
theorem repr_length_bounds {M : ℕ} (hM : 0 < M) :
    10 ^ ((toString M).length - 1) ≤ M ∧ M < 10 ^ (toString M).length := by
  rw [Nat.toString_eq_ofList_toDigits, String.length_ofList]
  exact toDigits_length_bounds (by norm_num) hM

/-- The positive double `m · 2^e` of a finite `x`, given the sign of `x`, is `x`. -/
theorem signed_eq_of_toModel {x y : Float} {b : Binary} (hx : classify x = .finite b)
    (hc : Binary64.Canonical b.m b.e)
    (hy : y.toModel = Float.Model.pack (.finite .positive b.m b.e hc.pos)) :
    (if b.neg = true then -y else y) = x := by
  obtain ⟨-, -, -, -, hbits⟩ := classify_finite hx
  apply float_eq_of_toBits
  rw [hbits]
  cases b.neg
  · simp only [Bool.false_eq_true, if_false]
    change y.toModel.toBits.toNat = _
    rw [hy]
    exact Binary64.toNat_pack_finite hc .positive
  · simp only [if_true]
    -- negation flips the sign of the unpacked value
    change (Float.Model.pack (Float.Model.unpack y.toModel).neg).toBits.toNat = _
    rw [hy]
    change (UnpackedFloat.pack Format.binary64 (UnpackedFloat.unpack Format.binary64
      (UnpackedFloat.pack Format.binary64 (.finite .positive b.m b.e hc.pos))).neg).toNat = _
    rw [Binary64.unpack_pack_finite hc]
    exact Binary64.toNat_pack_finite hc .negative

/-- **A decimal in the rounding interval of a double reads as that double**, with its sign:
the guards against huge and tiny exponents do not apply, and the division rounds to it. -/
theorem floatOfDecimal_of_admits {x : Float} {b : Binary} (hx : classify x = .finite b)
    (hm : 0 < b.m) {M k : ℕ} (hk : 0 < k) (ha : b.admits M (-(k : ℤ)) = true) :
    Json.floatOfDecimal b.neg M (-(k : ℤ)) = x := by
  obtain ⟨hlt, hlow, hhigh, hnorm, -⟩ := classify_finite hx
  have hc : Binary64.Canonical b.m b.e := ⟨hm, hlt, hlow, hhigh, hnorm⟩
  have hq : Binary64.InRounding b.m b.e ((M : ℚ) / 10 ^ k) := by
    have := (Binary.admits_iff hm M (-(k : ℤ))).1 ha
    rwa [zpow_neg, zpow_natCast, ← div_eq_mul_inv] at this
  obtain ⟨hqlo, hqhi⟩ := hq.bounds hc
  have h10k : (0 : ℚ) < 10 ^ k := by positivity
  have hM : 0 < M := by
    have hq0 : (0 : ℚ) < M / 10 ^ k := lt_trans (zpow_pos (by norm_num) _) hqlo
    have : (0 : ℚ) < M := by rwa [div_pos_iff_of_pos_right h10k] at hq0
    exact_mod_cast this
  -- the decimal is neither huge nor tiny, so reading divides
  obtain ⟨hlen₁, hlen₂⟩ := repr_length_bounds hM
  have hbig : M < 2 ^ 1024 * 10 ^ k := by
    have hcast : ((2 ^ 1024 * 10 ^ k : ℕ) : ℚ) = (2 : ℚ) ^ (1024 : ℤ) * 10 ^ k := by
      rw [Nat.cast_mul, Nat.cast_pow, Nat.cast_pow, Nat.cast_ofNat, Nat.cast_ofNat,
        ← zpow_natCast]
      rfl
    rw [div_lt_iff₀ h10k, ← hcast] at hqhi
    exact Nat.cast_lt.1 hqhi
  have hsmall : 10 ^ k < M * 2 ^ 1076 := by
    rw [lt_div_iff₀ h10k] at hqlo
    have : (10 : ℚ) ^ k < M * 2 ^ 1076 := by
      have h2 : (2 : ℚ) ^ (-1076 : ℤ) * 2 ^ 1076 = 1 := by
        rw [← zpow_natCast, ← zpow_add₀ (by norm_num)]; norm_num
      calc (10 : ℚ) ^ k = 2 ^ (-1076 : ℤ) * 10 ^ k * 2 ^ 1076 := by
            rw [mul_right_comm, h2, one_mul]
        _ < M * 2 ^ 1076 := by gcongr
    have hcast : ((M * 2 ^ 1076 : ℕ) : ℚ) = M * 2 ^ 1076 := by
      rw [Nat.cast_mul, Nat.cast_pow, Nat.cast_ofNat]
    have hcast' : ((10 ^ k : ℕ) : ℚ) = 10 ^ k := by rw [Nat.cast_pow, Nat.cast_ofNat]
    rw [← hcast, ← hcast'] at this
    exact Nat.cast_lt.1 this
  have hguard₁ : ¬ (-(k : ℤ) + (toString M).length > 400) := by
    intro h
    have h1 : 10 ^ ((toString M).length - 1) < 10 ^ (309 + k) := by
      calc 10 ^ ((toString M).length - 1) ≤ M := hlen₁
        _ < 2 ^ 1024 * 10 ^ k := hbig
        _ < 10 ^ 309 * 10 ^ k := by
          apply Nat.mul_lt_mul_of_pos_right (by decide +kernel) (Nat.pow_pos (by norm_num))
        _ = 10 ^ (309 + k) := by rw [← Nat.pow_add]
    have := (Nat.pow_lt_pow_iff_right (by norm_num)).1 h1
    omega
  have hguard₂ : ¬ (-(k : ℤ) + (toString M).length < -400) := by
    intro h
    have h1 : 10 ^ k < 10 ^ ((toString M).length + 324) := by
      calc 10 ^ k < M * 2 ^ 1076 := hsmall
        _ < 10 ^ (toString M).length * 10 ^ 324 := by
          apply Nat.mul_lt_mul'' hlen₂ (by decide +kernel)
        _ = 10 ^ ((toString M).length + 324) := by rw [← Nat.pow_add]
    have := (Nat.pow_lt_pow_iff_right (by norm_num)).1 h1
    omega
  have hread := Binary64.ofScientific_of_inRounding hc hM hk hq
  simp only [Json.floatOfDecimal, beq_iff_eq, Nat.ne_of_gt hM, if_false, gt_iff_lt]
  have hguard₁' : ¬ (400 < -(k : ℤ) + (toString M).length) := hguard₁
  rw [if_neg hguard₁', if_neg hguard₂, if_neg (show ¬ (-(k : ℤ) ≥ 0) by omega),
    show (-(-(k : ℤ))).toNat = k by omega]
  exact signed_eq_of_toModel hx hc hread

/-- Zero digits read as the zero of the same sign, whatever the exponent. -/
theorem floatOfDecimal_zero {x : Float} {b : Binary} (hx : classify x = .finite b) (hm : b.m = 0)
    (t : ℤ) : Json.floatOfDecimal b.neg 0 t = x := by
  obtain ⟨-, -, -, -, hbits⟩ := classify_finite hx
  rw [hm, if_neg (show ¬ (2 ^ 52 ≤ 0) by norm_num), add_zero] at hbits
  apply float_eq_of_toBits
  rw [hbits]
  cases b.neg
  · rfl
  · rw [if_pos rfl]
    show (-(0.0 : Float)).toBits.toNat = 2 ^ 63
    rfl

end Questionnaire.Decimal

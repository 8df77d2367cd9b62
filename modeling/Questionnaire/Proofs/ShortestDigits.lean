import Questionnaire.Proofs.NearestFloat
/-!
# The shortest digits lie in the rounding interval

`Binary.shortest` settles the decimal magnitude `k` of a nonzero value, then tries 1, 2, … 17
significant digits, testing on each grid the two points around the value. Whatever it returns lies
in the rounding interval of the double, so reading it back gives the double
(`floatOfDecimal_of_admits`).

* The magnitude is never too large: `10^(k-1)` is at most the value. The estimate from the bit
  length is at most nine above the true magnitude, and a step down is taken only below the next
  power of ten (`le_settleMagnitude`).
* With seventeen significant digits the grid spacing `10^(k-17)` is narrower than the rounding
  interval, so one of the two grid points around the value lies in it and the search never runs
  out (`candidate_seventeen_ne_none`).
* Every candidate the search returns is admitted, and dropping trailing zeros keeps the value.

Main statement: `shortest_inRounding`.
-/

namespace Questionnaire.Decimal

/-- A power of a nonzero rational as a quotient of two natural powers. -/
theorem zpow_eq_div_pow (r : ℚ) (hr : r ≠ 0) (i : ℤ) :
    r ^ i = r ^ i.toNat / r ^ (-i).toNat := by
  rw [← zpow_natCast, ← zpow_natCast, ← zpow_sub₀ hr]
  congr 1
  omega

/-- Powers of ten bounded by powers of two, through `10^3 ≤ 2^10` and `10 ≤ 2^4`. -/
theorem ten_pow_le_two_pow {n l : ℕ} (h : 10 * (n / 3) + 4 * (n % 3) ≤ l) : 10 ^ n ≤ 2 ^ l := by
  calc 10 ^ n = 1000 ^ (n / 3) * 10 ^ (n % 3) := by
        rw [show (1000 : ℕ) = 10 ^ 3 by norm_num, ← Nat.pow_mul, ← Nat.pow_add, Nat.div_add_mod]
    _ ≤ 1024 ^ (n / 3) * 16 ^ (n % 3) := by
        gcongr <;> norm_num
    _ = 2 ^ (10 * (n / 3) + 4 * (n % 3)) := by
        rw [Nat.pow_add, Nat.pow_mul, Nat.pow_mul]
    _ ≤ 2 ^ l := Nat.pow_le_pow_right (by norm_num) h

/-- Powers of two bounded by powers of ten, through `2^93 ≤ 10^28` and the powers below `2^93`. -/
theorem two_pow_le_ten_pow {u l : ℕ} (h : 28 * (u / 93) + 3 * (u % 93) / 10 + 1 ≤ l) :
    2 ^ u ≤ 10 ^ l := by
  have hr : ∀ r < 93, 2 ^ r ≤ 10 ^ (3 * r / 10 + 1) := by decide
  calc 2 ^ u = (2 ^ 93) ^ (u / 93) * 2 ^ (u % 93) := by
        rw [← Nat.pow_mul, ← Nat.pow_add, Nat.div_add_mod]
    _ ≤ (10 ^ 28) ^ (u / 93) * 10 ^ (3 * (u % 93) / 10 + 1) := by
        exact Nat.mul_le_mul (Nat.pow_le_pow_left (by decide) _) (hr _ (Nat.mod_lt _ (by norm_num)))
    _ = 10 ^ (28 * (u / 93) + (3 * (u % 93) / 10 + 1)) := by
        rw [← Nat.pow_mul, ← Nat.pow_add]
    _ ≤ 10 ^ l := Nat.pow_le_pow_right (by norm_num) (by omega)

/-- The magnitude estimate, nine below, is a power of ten under `2^L`, for every binary exponent
`L` of a double's leading bit. -/
theorem ten_zpow_estimate_le {L : ℤ} (hlo : -1074 ≤ L) (hhi : L ≤ 1023) :
    (10 : ℚ) ^ ((L + 1) * 30103 / 100000 - 9) ≤ 2 ^ L := by
  rcases le_or_gt 0 L with hL | hL
  · rcases lt_or_ge ((L + 1) * 30103 / 100000 - 9) 0 with ha | ha
    · calc (10 : ℚ) ^ ((L + 1) * 30103 / 100000 - 9) ≤ 1 :=
            zpow_le_one_of_nonpos₀ (by norm_num) ha.le
        _ ≤ 2 ^ L := one_le_zpow₀ (by norm_num) hL
    · -- both exponents are natural numbers
      obtain ⟨a, ha'⟩ : ∃ a : ℕ, (L + 1) * 30103 / 100000 - 9 = a :=
        ⟨_, (Int.toNat_of_nonneg ha).symm⟩
      obtain ⟨l, rfl⟩ : ∃ l : ℕ, L = l := ⟨_, (Int.toNat_of_nonneg hL).symm⟩
      rw [ha', zpow_natCast, zpow_natCast]
      exact_mod_cast ten_pow_le_two_pow (by omega)
  · -- both exponents are negative: compare the reciprocals
    obtain ⟨a, ha'⟩ : ∃ a : ℕ, (L + 1) * 30103 / 100000 - 9 = -(a : ℤ) :=
      ⟨(9 - (L + 1) * 30103 / 100000).toNat, by omega⟩
    obtain ⟨u, hu⟩ : ∃ u : ℕ, L = -(u : ℤ) := ⟨(-L).toNat, by omega⟩
    rw [ha', hu, zpow_neg, zpow_neg, zpow_natCast, zpow_natCast]
    apply inv_anti₀ (by positivity)
    exact_mod_cast two_pow_le_ten_pow (by omega)

namespace Binary

/-- `below` compares the value with a power of ten. -/
theorem below_iff (b : Binary) (k : ℤ) : b.below k = true ↔ (b.m : ℚ) * 2 ^ b.e < 10 ^ k := by
  simp [below, compareScaled_spec, compare_lt_iff_lt]

/-- The magnitude search keeps `10^(k-1)` at most the value once the estimate is less than the
fuel above it: a step up is taken only past a power of ten, and a step down only below one. -/
theorem le_settleMagnitude (b : Binary) :
    ∀ (fuel : ℕ) (k : ℤ), (10 : ℚ) ^ (k - 1 - fuel) ≤ b.m * 2 ^ b.e →
      (10 : ℚ) ^ (b.settleMagnitude fuel k - 1) ≤ b.m * 2 ^ b.e := by
  intro fuel
  induction fuel with
  | zero => intro k h; simpa [settleMagnitude] using h
  | succ fuel ih =>
    intro k h
    simp only [settleMagnitude]
    by_cases hup : b.below k = true
    · by_cases hdown : b.below (k - 1) = true
      · rw [if_neg (by simp [hup]), if_pos hdown]
        apply ih
        convert h using 2
        push_cast; ring
      · rw [if_neg (by simp [hup]), if_neg hdown]
        simpa [below_iff] using hdown
    · rw [if_pos (by simpa using hup)]
      apply ih
      have hk : (10 : ℚ) ^ k ≤ b.m * 2 ^ b.e := by simpa [below_iff] using hup
      calc (10 : ℚ) ^ (k + 1 - 1 - fuel) ≤ 10 ^ k :=
            zpow_le_zpow_right₀ (by norm_num) (by omega)
        _ ≤ b.m * 2 ^ b.e := hk

/-- **The magnitude is never too large**: `10^(k-1)` is at most the value. -/
theorem ten_zpow_magnitude_le {b : Binary} (hc : Binary64.Canonical b.m b.e) :
    (10 : ℚ) ^ (b.magnitude - 1) ≤ b.m * 2 ^ b.e := by
  obtain ⟨hB, -⟩ := toDigits_length_bounds (by norm_num : 1 < 2) hc.pos
  have hlen : 0 < bitLength b.m := Nat.length_toDigits_pos
  have hB53 : bitLength b.m ≤ 53 := (Nat.length_toDigits_le_iff (by norm_num) (by norm_num)).2 hc.lt
  have hlo := hc.low
  have hhi := hc.high
  apply le_settleMagnitude
  -- the leading bit of the value is `2^L` with `L = bitLength m - 1 + e`
  have hlead : (2 : ℚ) ^ ((bitLength b.m : ℤ) - 1 + b.e) ≤ b.m * 2 ^ b.e := by
    rw [zpow_add₀ (by norm_num), show (bitLength b.m : ℤ) - 1 = ((bitLength b.m - 1 : ℕ) : ℤ)
      by omega, zpow_natCast]
    gcongr
    exact_mod_cast hB
  have hest := ten_zpow_estimate_le (L := (bitLength b.m : ℤ) - 1 + b.e) (by omega) (by omega)
  rw [show ((bitLength b.m : ℤ) - 1 + b.e + 1) * 30103 / 100000 - 9 =
    ((bitLength b.m : ℤ) + b.e) * 30103 / 100000 - 1 - ((8 : ℕ) : ℤ) by omega] at hest
  exact le_trans hest hlead

/-- `floorDiv` is the floor of the value over `10^t`. -/
theorem floorDiv_bounds (b : Binary) (t : ℤ) :
    (b.floorDiv t : ℚ) * 10 ^ t ≤ b.m * 2 ^ b.e ∧
      (b.m : ℚ) * 2 ^ b.e < (b.floorDiv t + 1) * 10 ^ t := by
  set N := b.m * Nat.pow 2 b.e.toNat * Nat.pow 10 (-t).toNat
  set D := Nat.pow 2 (-b.e).toNat * Nat.pow 10 t.toNat
  have hD : 0 < D := Nat.mul_pos (Nat.pow_pos (by norm_num)) (Nat.pow_pos (by norm_num))
  have hval : (b.m : ℚ) * 2 ^ b.e / 10 ^ t = (N : ℚ) / D := by
    rw [zpow_eq_div_pow 2 (by norm_num), zpow_eq_div_pow 10 (by norm_num)]
    simp only [N, D, Nat.pow_eq]
    push_cast
    field_simp
  have h10 : (0 : ℚ) < 10 ^ t := zpow_pos (by norm_num) t
  have hDq : (0 : ℚ) < D := by exact_mod_cast hD
  have hfloor : b.floorDiv t = N / D := rfl
  constructor
  · rw [← le_div_iff₀ h10, hval, le_div_iff₀ hDq, hfloor]
    exact_mod_cast Nat.div_mul_le_self N D
  · rw [← div_lt_iff₀ h10, hval, div_lt_iff₀ hDq, hfloor]
    have h := Nat.lt_div_mul_add (a := N) hD
    exact_mod_cast (show N < (N / D + 1) * D by rw [Nat.add_mul, Nat.one_mul]; exact h)

/-- One of the two grid points around the value is in the rounding interval once the grid is
finer than the interval. -/
theorem admits_floor_or_succ {b : Binary} (hc : Binary64.Canonical b.m b.e) {t : ℤ}
    (hfine : (10 : ℚ) ^ t <
      ((1 / 2 : ℚ) + if b.m = 2 ^ 52 ∧ -1074 < b.e then 1 / 4 else 1 / 2) * 2 ^ b.e) :
    b.admits (b.floorDiv t) t = true ∨ b.admits (b.floorDiv t + 1) t = true := by
  obtain ⟨hle, hlt⟩ := b.floorDiv_bounds t
  have h2 : (0 : ℚ) < 2 ^ b.e := zpow_pos (by norm_num) _
  have hgap : (0 : ℚ) < (if b.m = 2 ^ 52 ∧ -1074 < b.e then 1 / 4 else 1 / 2) * 2 ^ b.e := by
    apply mul_pos _ h2
    split_ifs <;> norm_num
  rw [admits_iff hc.pos, admits_iff hc.pos]
  by_cases hX : ((b.m : ℚ) - if b.m = 2 ^ 52 ∧ -1074 < b.e then 1 / 4 else 1 / 2) * 2 ^ b.e <
      b.floorDiv t * 10 ^ t
  · -- the lower point is above the lower end, and at most the value
    left
    exact ⟨.inl hX, .inl (by linarith)⟩
  · -- the upper point is then less than the grid spacing above the lower end
    right
    refine ⟨.inl ?_, .inl ?_⟩ <;> push_cast <;> linarith

/-- Every candidate is admitted: of two admitted grid points the nearer is taken. -/
theorem candidate_admits {b : Binary} {k : ℤ} {n : ℕ} {p : ℕ × ℤ}
    (h : b.candidate k n = some p) : b.admits p.1 p.2 = true := by
  simp only [candidate] at h
  split at h
  · cases h
  · rename_i hlo _
    cases h; exact hlo
  · rename_i hhi
    cases h; exact hhi
  · rename_i hlo hhi
    split at h
    · cases h; exact hlo
    · cases h; exact hhi
    · split at h
      · cases h; exact hlo
      · cases h; exact hhi

/-- A grid with an admitted point around the value gives a candidate. -/
theorem candidate_ne_none {b : Binary} {k : ℤ} {n : ℕ}
    (h : b.admits (b.floorDiv (k - n)) (k - n) = true ∨
      b.admits (b.floorDiv (k - n) + 1) (k - n) = true) :
    b.candidate k n ≠ none := by
  simp only [candidate]
  split
  · rename_i hlo hhi
    rcases h with h | h
    · rw [hlo] at h; cases h
    · rw [hhi] at h; cases h
  all_goals
    intro hnone
    repeat' split at hnone
    all_goals cases hnone

/-- **Seventeen significant digits always give a candidate**: their grid is finer than the
rounding interval once `10^(k-1)` is at most the value. -/
theorem candidate_seventeen_ne_none {b : Binary} (hc : Binary64.Canonical b.m b.e) {k : ℤ}
    (hk : (10 : ℚ) ^ (k - 1) ≤ b.m * 2 ^ b.e) : b.candidate k 17 ≠ none := by
  apply candidate_ne_none
  apply admits_floor_or_succ hc
  have hm : (b.m : ℚ) < 2 ^ 53 := by exact_mod_cast hc.lt
  have hspacing : (10 : ℚ) ^ (k - ((17 : ℕ) : ℤ)) * 10 ^ 16 ≤ b.m * 2 ^ b.e := by
    rw [← zpow_natCast, ← zpow_add₀ (by norm_num)]
    convert hk using 2
    push_cast; ring
  have h2 : (0 : ℚ) < 2 ^ b.e := zpow_pos (by norm_num) _
  -- the spacing is at most the value over `10^16`, and `2^53 < 10^16`
  generalize (10 : ℚ) ^ (k - ((17 : ℕ) : ℤ)) = T at hspacing ⊢
  generalize (2 : ℚ) ^ b.e = P at h2 hspacing ⊢
  have hvalue := mul_lt_mul_of_pos_right hm h2
  split_ifs with hbottom
  · -- at the bottom of a binade the value is `2^52 · 2^e`
    rw [hbottom.1] at hspacing
    push_cast at hspacing
    linarith
  · linarith

/-- Every decimal the search returns is admitted. -/
theorem search_admits {b : Binary} {k : ℤ} :
    ∀ {fuel n : ℕ} {p : ℕ × ℤ}, b.search k fuel n = some p → b.admits p.1 p.2 = true := by
  intro fuel
  induction fuel with
  | zero => intro n p h; cases h
  | succ fuel ih =>
    intro n p h
    simp only [search] at h
    split at h
    · rename_i hcand
      cases h; exact candidate_admits hcand
    · exact ih h

/-- The search finds a decimal when some number of digits within its fuel gives a candidate. -/
theorem search_ne_none {b : Binary} {k : ℤ} :
    ∀ {fuel n j : ℕ}, j < fuel → b.candidate k (n + j) ≠ none → b.search k fuel n ≠ none := by
  intro fuel
  induction fuel with
  | zero => intro n j hj; omega
  | succ fuel ih =>
    intro n j hj hcand
    simp only [search]
    split
    · simp
    · rename_i hnone
      cases j with
      | zero => exact absurd hnone hcand
      | succ j =>
        exact ih (n := n + 1) (j := j) (by omega) (by rwa [show n + 1 + j = n + (j + 1) by omega])

/-- Dropping trailing zeros keeps the value `c · 10^t`. -/
theorem trimZeros_value :
    ∀ (fuel : ℕ) (p : ℕ × ℤ), ((trimZeros fuel p).1 : ℚ) * 10 ^ (trimZeros fuel p).2 =
      p.1 * 10 ^ p.2 := by
  intro fuel
  induction fuel with
  | zero => intro p; rfl
  | succ fuel ih =>
    intro ⟨c, t⟩
    simp only [trimZeros]
    split
    · rename_i hzero
      rw [ih]
      simp only [Bool.and_eq_true, bne_iff_ne, ne_eq, beq_iff_eq] at hzero
      have hc : c = c / 10 * 10 := (Nat.div_mul_cancel (Nat.dvd_of_mod_eq_zero hzero.2)).symm
      dsimp only
      conv_rhs => rw [hc]
      rw [zpow_add₀ (by norm_num)]
      push_cast; ring
    · rfl

/-- **The shortest digits of a nonzero double lie in its rounding interval.** -/
theorem shortest_inRounding {b : Binary} (hc : Binary64.Canonical b.m b.e) :
    Binary64.InRounding b.m b.e ((b.shortest.1 : ℚ) * 10 ^ b.shortest.2) := by
  have hsome : b.search b.magnitude 17 1 ≠ none :=
    search_ne_none (j := 16) (by norm_num)
      (candidate_seventeen_ne_none hc (ten_zpow_magnitude_le hc))
  obtain ⟨p, hp⟩ := Option.ne_none_iff_exists'.1 hsome
  have hm : (b.m == 0) = false := by simpa using Nat.ne_of_gt hc.pos
  simp only [shortest, hm, hp, Bool.false_eq_true, if_false]
  rw [trimZeros_value]
  exact (admits_iff hc.pos _ _).1 (search_admits hp)

end Binary

end Questionnaire.Decimal

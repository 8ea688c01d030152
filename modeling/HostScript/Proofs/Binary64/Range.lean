import HostScript.Proofs.Binary64.Rounding

/-!
# Decimals in the range of doubles

A ratio below `2 ^ 1023` is rounded to a finite double, and one from `2 ^ 1024` on is not
(`isFinite_ofRatio`, `ofRatio_eq_infinite`). Every decimal is rounded as a ratio of units, those far
outside the range too (`ofDecimal_eq_ofRatio`).
-/

namespace HostScript.Binary64

/-! ## Ratios -/

/-- Rounding never falls below the quotient. -/
theorem div_le_roundHalfEven (numerator denominator : Nat) :
    numerator / denominator ≤ roundHalfEven numerator denominator := by
  unfold roundHalfEven
  dsimp only
  split
  · exact Nat.le_refl _
  · exact Nat.le_succ _

/-- Rounding exceeds the quotient by one at most. -/
theorem roundHalfEven_le (numerator denominator : Nat) :
    roundHalfEven numerator denominator ≤ numerator / denominator + 1 := by
  unfold roundHalfEven
  dsimp only
  split
  · exact Nat.le_succ _
  · exact Nat.le_refl _

/-- Divided by the step of its block a ratio is below `2 ^ 53`. -/
theorem div_block_lt (numerator denominator : Nat) :
    numerator / (denominator * 2 ^ ((numerator / denominator).log2 - 52)) < 2 ^ 53 := by
  rw [← Nat.div_div_eq_div_mul, Nat.div_lt_iff_lt_mul (Nat.two_pow_pos _), ← Nat.pow_add]
  exact Nat.lt_of_lt_of_le Nat.lt_log2_self (Nat.pow_le_pow_right (by decide) (by omega))

/-- Divided by the step of its block a ratio of at least `2 ^ 52` is still at least that. -/
theorem le_div_block {numerator denominator : Nat} (h : 52 ≤ (numerator / denominator).log2) :
    2 ^ 52 ≤ numerator / (denominator * 2 ^ ((numerator / denominator).log2 - 52)) := by
  have hne : numerator / denominator ≠ 0 := by
    intro hzero
    rw [hzero] at h
    exact absurd h (by decide)
  rw [← Nat.div_div_eq_div_mul, Nat.le_div_iff_mul_le (Nat.two_pow_pos _), ← Nat.pow_add,
    Nat.add_sub_cancel' h]
  exact Nat.log2_self_le hne

/-- A ratio below a power of two is rounded to a rank of the blocks before that power. -/
theorem nearestRank_le {numerator denominator block : Nat}
    (h : numerator / denominator < 2 ^ (block + 53)) :
    nearestRank numerator denominator ≤ (block + 2) * 2 ^ 52 := by
  have hquotient := div_block_lt numerator denominator
  unfold nearestRank
  dsimp only
  generalize hblock : (numerator / denominator).log2 - 52 = found at hquotient ⊢
  have hle : found ≤ block := by
    by_cases hzero : numerator / denominator = 0
    · rw [hzero] at hblock
      exact hblock ▸ Nat.zero_le block
    · have := (Nat.log2_lt hzero).2 h
      omega
  have hround := roundHalfEven_le numerator (denominator * 2 ^ found)
  calc found * 2 ^ 52 + roundHalfEven numerator (denominator * 2 ^ found)
      ≤ block * 2 ^ 52 + 2 * 2 ^ 52 := Nat.add_le_add (Nat.mul_le_mul_right _ hle)
        (Nat.le_trans hround (Nat.succ_le_of_lt hquotient))
    _ = (block + 2) * 2 ^ 52 := (Nat.add_mul _ _ _).symm

/-- A ratio from a power of two on is rounded to a rank of the blocks after that power. -/
theorem le_nearestRank {numerator denominator block : Nat}
    (h : 2 ^ (block + 52) ≤ numerator / denominator) :
    (block + 1) * 2 ^ 52 ≤ nearestRank numerator denominator := by
  have hne : numerator / denominator ≠ 0 :=
    Nat.ne_of_gt (Nat.lt_of_lt_of_le (Nat.two_pow_pos _) h)
  have hlog := (Nat.le_log2 hne).2 h
  have hquotient := le_div_block (Nat.le_of_add_left_le hlog)
  unfold nearestRank
  dsimp only
  generalize hblock : (numerator / denominator).log2 - 52 = found at hquotient ⊢
  have hround := div_le_roundHalfEven numerator (denominator * 2 ^ found)
  have hle : block ≤ found := by omega
  calc (block + 1) * 2 ^ 52 = block * 2 ^ 52 + 2 ^ 52 := Nat.succ_mul _ _
    _ ≤ found * 2 ^ 52 + roundHalfEven numerator (denominator * 2 ^ found) :=
        Nat.add_le_add (Nat.mul_le_mul_right _ hle) (Nat.le_trans hquotient hround)

/-- A ratio of fewer than `2 ^ 2097` units is in range. -/
theorem isFinite_ofRatio (negative : Bool) {numerator denominator : Nat}
    (h : numerator < denominator * 2 ^ 2097) :
    (ofRatio negative numerator denominator).isFinite = true := by
  rw [show 2097 = 2044 + 53 from rfl] at h
  have hrank := nearestRank_le (Nat.div_lt_of_lt_mul h)
  unfold ofRatio
  rw [dif_pos (by omega)]
  rfl

/-- A ratio from `2 ^ 2098` units on is out of range. -/
theorem ofRatio_eq_infinite (negative : Bool) {numerator denominator : Nat}
    (hpos : 0 < denominator) (h : denominator * 2 ^ 2098 ≤ numerator) :
    ofRatio negative numerator denominator = .infinite negative := by
  rw [show 2098 = 2046 + 52 from rfl, Nat.mul_comm] at h
  have hrank := le_nearestRank ((Nat.le_div_iff_mul_le hpos).2 h)
  unfold ofRatio
  rw [dif_neg (by omega)]

/-- A ratio below half a unit is rounded to zero. -/
theorem ofRatio_eq_zero (negative : Bool) {numerator denominator : Nat}
    (h : 2 * numerator < denominator) :
    ofRatio negative numerator denominator = zero negative := by
  have hlt : numerator < denominator := by omega
  have hrank : nearestRank numerator denominator = 0 := by
    unfold nearestRank roundHalfEven
    simp [Nat.div_eq_of_lt hlt, Nat.mod_eq_of_lt hlt, h]
  unfold ofRatio zero
  simp [hrank]

/-! ## Decimals -/

/-- The units of a number are counted in powers of two. -/
theorem mul_units_lt_iff (number factor power : Nat) :
    number * unitsPerOne < factor * 2 ^ (power + 1074) ↔ number < factor * 2 ^ power := by
  unfold unitsPerOne
  generalize 1074 = places
  rw [Nat.pow_add, ← Nat.mul_assoc]
  exact Nat.mul_lt_mul_right (Nat.two_pow_pos places)

/-- A power of eight is not above a power of ten that is as large. -/
theorem two_pow_le_ten_pow {power bound : Nat} (h : power ≤ bound) :
    2 ^ (3 * power) ≤ 10 ^ bound := by
  rw [Nat.pow_mul]
  exact Nat.le_trans (Nat.pow_le_pow_left (by decide) power) (Nat.pow_le_pow_right (by decide) h)

/-- Decimals far outside the range are rounded as the others are. -/
theorem ofDecimal_eq_ofRatio (negative : Bool) (digits : Nat) (exponent : Int) :
    ofDecimal negative ⟨digits, exponent⟩ =
      ofRatio negative (digits * 10 ^ exponent.toNat * unitsPerOne) (10 ^ (-exponent).toNat) := by
  unfold ofDecimal
  dsimp only
  split
  · next hdigits =>
      rw [hdigits, Nat.zero_mul, Nat.zero_mul, ofRatio_eq_zero negative (Nat.pow_pos (by decide))]
  split
  · next hdigits hlarge =>
      -- Such a decimal is at least `10 ^ 342`, which is above `2 ^ 1024`.
      have hle : 1 * 2 ^ 1024 ≤ digits * 10 ^ exponent.toNat :=
        calc 1 * 2 ^ 1024 = 2 ^ 1024 := Nat.one_mul _
          _ ≤ 2 ^ (3 * 342) := Nat.pow_le_pow_right (by decide) (by decide)
          _ ≤ 10 ^ exponent.toNat := @two_pow_le_ten_pow 342 _ (by omega)
          _ ≤ digits * 10 ^ exponent.toNat := Nat.le_mul_of_pos_left _ (Nat.pos_of_ne_zero hdigits)
      rw [show (-exponent).toNat = 0 by omega, Nat.pow_zero]
      refine (ofRatio_eq_infinite negative Nat.one_pos ?_).symm
      rw [show 2098 = 1024 + 1074 from rfl]
      exact Nat.not_lt.1 fun hlt => Nat.not_lt.2 hle ((mul_units_lt_iff _ 1 1024).1 hlt)
  split
  · next hsmall =>
      -- Such a decimal is below `10 ^ -400`, which is below half a unit.
      rw [show exponent.toNat = 0 by omega, Nat.pow_zero, Nat.mul_one]
      refine (ofRatio_eq_zero negative ?_).symm
      rw [Nat.mul_left_comm]
      unfold unitsPerOne
      generalize hplaces : 1074 = places
      calc digits * (2 * 2 ^ places) < 2 ^ (digits.log2 + 1) * (2 * 2 ^ places) :=
            Nat.mul_lt_mul_of_pos_right Nat.lt_log2_self
              (Nat.mul_pos (by decide) (Nat.two_pow_pos places))
        _ = 2 ^ (digits.log2 + 1 + (places + 1)) := by
            rw [Nat.pow_add 2 (digits.log2 + 1), Nat.pow_succ' (n := places)]
        _ ≤ 2 ^ (3 * (digits.log2 + 401)) := Nat.pow_le_pow_right (by decide) (by omega)
        _ ≤ 10 ^ (-exponent).toNat := two_pow_le_ten_pow (by omega)
  split
  · next power _ _ =>
      rw [show (-Int.ofNat power).toNat = 0 from Int.toNat_neg_natCast power]
      rfl
  · next power _ _ =>
      rw [show (Int.negSucc power).toNat = 0 from rfl, Nat.pow_zero, Nat.mul_one]
      rfl

end HostScript.Binary64

import HostScript.Binary64.Approximation
import HostScript.Proofs.Binary64.Shortest

/-!
# Decimals read in few steps

Reading a decimal in few steps gives the nearest double if its digits and its power of ten are
exact (`approximate_eq_ofDecimal`). Rounding keeps the order of numbers (`nearestRank_mono`), so a
product is finite if one with larger digits is. Therefore the shortest decimal of every double stays
in range, and so does everything below it with as few digits (`isFinite_approximate`,
`shortest_le_largest`).
-/

namespace HostScript

namespace Binary64

/-! ## Rounding keeps the order -/

/-- A larger number has no smaller nearest rank: otherwise both numbers would be on the wrong side
of the middle between the two magnitudes. -/
theorem Nearest.mono {number larger : ℚ} {rank other : Nat} (h : Nearest number rank)
    (hother : Nearest larger other) (hle : number ≤ larger) : rank ≤ other := by
  refine Nat.le_of_not_lt fun hlt => ?_
  have hless := magnitude_strictMono hlt
  have hnear := h.le _ (isMagnitude_iff.2 ⟨other, rfl⟩)
  have hfar := hother.le _ (isMagnitude_iff.2 ⟨rank, rfl⟩)
  have habove : magnitude other + magnitude rank ≤ 2 * number := by
    refine le_of_not_gt fun hbelow => ?_
    have hcloser : |magnitude other - number| < magnitude rank - number :=
      abs_lt.2 ⟨by linarith, by linarith⟩
    linarith [le_abs_self (magnitude rank - number)]
  have hbelow : 2 * larger ≤ magnitude other + magnitude rank := by
    refine le_of_not_gt fun habove => ?_
    have hcloser : |magnitude rank - larger| < larger - magnitude other :=
      abs_lt.2 ⟨by linarith, by linarith⟩
    linarith [neg_le_abs (magnitude other - larger)]
  obtain rfl : number = larger := by linarith
  exact Nat.ne_of_gt hlt (h.unique hother)

section Ratios

variable {numerator denominator largerNumerator largerDenominator : Nat}

/-- A larger ratio has no smaller nearest rank. -/
theorem nearestRank_mono (hpos : 0 < denominator) (hlarger : 0 < largerDenominator)
    (hle : numerator * largerDenominator ≤ largerNumerator * denominator) :
    nearestRank numerator denominator ≤ nearestRank largerNumerator largerDenominator := by
  refine (nearest_nearestRank hpos).mono (nearest_nearestRank hlarger) ?_
  rw [← div_div, ← div_div]
  refine div_le_div_of_nonneg_right ?_ (le_of_lt cast_unitsPerOne_pos)
  rw [div_le_div_iff₀ (Nat.cast_pos.2 hpos) (Nat.cast_pos.2 hlarger)]
  exact_mod_cast hle

/-- A ratio is in range if its nearest rank is. -/
theorem isFinite_ofRatio_iff {negative : Bool} :
    (ofRatio negative numerator denominator).isFinite = true ↔
      nearestRank numerator denominator < 2047 * 2 ^ 52 := by
  unfold ofRatio
  split
  · next hrange => exact iff_of_true rfl hrange
  · next hrange => exact iff_of_false Bool.false_ne_true hrange

/-- A ratio is in range if a larger one is. -/
theorem isFinite_ofRatio_of_le {negative other : Bool} (hpos : 0 < denominator)
    (hlarger : 0 < largerDenominator)
    (hle : numerator * largerDenominator ≤ largerNumerator * denominator)
    (h : (ofRatio other largerNumerator largerDenominator).isFinite = true) :
    (ofRatio negative numerator denominator).isFinite = true := by
  rw [isFinite_ofRatio_iff] at h ⊢
  exact Nat.lt_of_le_of_lt (nearestRank_mono hpos hlarger hle) h

end Ratios

/-! ## Products and quotients -/

/-- A ratio in range is the double of its nearest rank. -/
theorem ofRatio_of_isFinite {negative : Bool} {numerator denominator : Nat}
    (h : (ofRatio negative numerator denominator).isFinite = true) :
    ofRatio negative numerator denominator =
      .finite negative ⟨nearestRank numerator denominator, isFinite_ofRatio_iff.1 h⟩ :=
  dif_pos (isFinite_ofRatio_iff.1 h)

/-- The product of finite doubles is the exact product rounded. -/
theorem finite_mul (leftSign rightSign : Bool) (left right : Fin (2047 * 2 ^ 52)) :
    finite leftSign left * finite rightSign right =
      ofRatio (leftSign ^^ rightSign) (scaled left.val * scaled right.val) unitsPerOne := by
  show mul (finite leftSign left) (finite rightSign right) = _
  rw [mul]

/-- The quotient of finite doubles is the exact quotient rounded, unless the divisor is zero. -/
theorem finite_div (leftSign rightSign : Bool) (left : Fin (2047 * 2 ^ 52))
    {right : Fin (2047 * 2 ^ 52)} (h : right.val ≠ 0) :
    finite leftSign left / finite rightSign right =
      ofRatio (leftSign ^^ rightSign) (scaled left.val * unitsPerOne) (scaled right.val) :=
  if_neg h

/-- A product is in range if one with larger factors is. -/
theorem isFinite_mul_of_le {left right larger largest : Fin (2047 * 2 ^ 52)}
    (hleft : left.val ≤ larger.val) (hright : right.val ≤ largest.val)
    (h : (finite false larger * finite false largest).isFinite = true) :
    (finite false left * finite false right).isFinite = true := by
  have hscaled : scaled left.val * scaled right.val ≤ scaled larger.val * scaled largest.val :=
    Nat.mul_le_mul (scaled_strictMono.monotone hleft) (scaled_strictMono.monotone hright)
  rw [finite_mul] at h ⊢
  exact isFinite_ofRatio_of_le unitsPerOne_pos unitsPerOne_pos (Nat.mul_le_mul_right _ hscaled) h

/-- A quotient is in range if the divisor is not below one. -/
theorem isFinite_div {value : Binary64} {divisor : Fin (2047 * 2 ^ 52)}
    (h : value.isFinite = true) (hdivisor : unitsPerOne ≤ scaled divisor.val) :
    (value / finite false divisor).isFinite = true := by
  cases value with
  | nan => cases h
  | infinite => cases h
  | finite negative rank =>
      have hne : divisor.val ≠ 0 := by
        intro hzero
        rw [hzero] at hdivisor
        exact Nat.not_le.2 unitsPerOne_pos hdivisor
      have hself : (ofRatio false (scaled rank.val) 1).isFinite = true := by
        rw [ofRatio_scaled false rank Nat.one_pos (Nat.one_mul _).symm]
        rfl
      rw [finite_div negative false rank hne]
      have hpos : 0 < scaled divisor.val := Nat.lt_of_lt_of_le unitsPerOne_pos hdivisor
      refine isFinite_ofRatio_of_le hpos Nat.one_pos ?_ hself
      rw [Nat.mul_one]
      exact Nat.mul_le_mul_left _ hdivisor

/-! ## Powers of ten -/

/-- A power of ten is rounded as a whole number. -/
theorem powerOfTen_eq (power : Nat) :
    powerOfTen power = ofRatio false (10 ^ power * unitsPerOne) 1 := by
  rw [powerOfTen, ofDecimal_eq_ofRatio, Int.toNat_natCast, Int.toNat_neg_natCast, Nat.one_mul,
    Nat.pow_zero]

/-- The powers of ten up to the largest one are in range. -/
theorem isFinite_powerOfTen {power : Nat} (h : power ≤ largestPower) :
    (powerOfTen power).isFinite = true := by
  have hlargest : (powerOfTen largestPower).isFinite = true := by decide +kernel
  rw [powerOfTen_eq] at hlargest ⊢
  refine isFinite_ofRatio_of_le Nat.one_pos Nat.one_pos ?_ hlargest
  exact Nat.mul_le_mul_right 1 (Nat.mul_le_mul_right _ (Nat.pow_le_pow_right (by decide) h))

/-- The powers of ten are not below one. -/
theorem exists_powerOfTen {power : Nat} (h : power ≤ largestPower) :
    ∃ rank : Fin (2047 * 2 ^ 52), powerOfTen power = .finite false rank ∧
      unitsPerOne ≤ scaled rank.val ∧ rank.val = nearestRank (10 ^ power * unitsPerOne) 1 := by
  have hfinite := isFinite_powerOfTen h
  rw [powerOfTen_eq] at hfinite ⊢
  refine ⟨_, ofRatio_of_isFinite hfinite, ?_, rfl⟩
  have hone : scaled (1023 * 2 ^ 52) = unitsPerOne := by decide +kernel
  have hrank : 1023 * 2 ^ 52 ≤ nearestRank (10 ^ power * unitsPerOne) 1 := by
    rw [← nearestRank_scaled (1023 * 2 ^ 52), hone]
    refine nearestRank_mono Nat.one_pos Nat.one_pos (Nat.mul_le_mul_right 1 ?_)
    exact Nat.le_mul_of_pos_left _ (Nat.pow_pos (by decide))
  calc unitsPerOne = scaled (1023 * 2 ^ 52) := hone.symm
    _ ≤ scaled (nearestRank (10 ^ power * unitsPerOne) 1) := scaled_strictMono.monotone hrank

/-- Dividing by the largest power of ten stays in range. -/
theorem isFinite_shrink (count : Nat) {value : Binary64} (h : value.isFinite = true) :
    (shrink count value).isFinite = true := by
  induction count generalizing value with
  | zero => exact h
  | succ count ih =>
      obtain ⟨rank, hrank, hlarge, -⟩ := exists_powerOfTen (Nat.le_refl largestPower)
      unfold shrink
      split
      · exact h
      · rw [hrank]
        exact ih (isFinite_div h hlarge)

/-! ## Decimals in range -/

/-- Numbers of few digits are in range. -/
theorem isFinite_ofNat {number : Nat} (h : number ≤ 10 ^ 17) : (ofNat number).isFinite = true := by
  have hbits : number < 2 ^ 60 := Nat.lt_of_le_of_lt h (by decide)
  refine isFinite_ofRatio false ?_
  rw [show 2097 = 1023 + 1074 from rfl]
  have hle : 60 ≤ 1023 := by decide
  generalize 1023 = power at hle ⊢
  refine (mul_units_lt_iff number 1 power).2 ?_
  rw [Nat.one_mul]
  exact Nat.lt_of_lt_of_le hbits (Nat.pow_le_pow_right (by decide) hle)

/-- A product of digits and a power of ten is in range if one with more digits and a larger power
is. -/
theorem isFinite_ofNat_mul_powerOfTen {digits larger power largest : Nat}
    (hdigits : digits ≤ larger) (hlarger : larger ≤ 10 ^ 17) (hpower : power ≤ largest)
    (hlargest : largest ≤ largestPower)
    (h : (ofNat larger * powerOfTen largest).isFinite = true) :
    (ofNat digits * powerOfTen power).isFinite = true := by
  obtain ⟨rank, hrank, -, hrankEq⟩ := exists_powerOfTen (Nat.le_trans hpower hlargest)
  obtain ⟨other, hother, -, hotherEq⟩ := exists_powerOfTen hlargest
  have hfew := ofRatio_of_isFinite (isFinite_ofNat (Nat.le_trans hdigits hlarger))
  have hmany := ofRatio_of_isFinite (isFinite_ofNat hlarger)
  rw [hother, ofNat, hmany] at h
  rw [hrank, ofNat, hfew]
  refine isFinite_mul_of_le ?_ ?_ h
  · refine nearestRank_mono Nat.one_pos Nat.one_pos (Nat.mul_le_mul_right 1 ?_)
    exact Nat.mul_le_mul_right _ hdigits
  · rw [hrankEq, hotherEq]
    refine nearestRank_mono Nat.one_pos Nat.one_pos (Nat.mul_le_mul_right 1 ?_)
    exact Nat.mul_le_mul_right _ (Nat.pow_le_pow_right (by decide) hpower)

/-- The most digits that a decimal with a power of ten above `10 ^ 291` may have. -/
theorem isFinite_largest_mul_powerOfTen : ∀ less ≤ 16,
    (ofNat (17976931348623157 / 10 ^ less) * powerOfTen (292 + less)).isFinite = true := by
  decide +kernel

end Binary64

/-- A decimal of at most 17 digits that is not above the shortest decimal of the largest double. -/
structure Decimal.Moderate (decimal : Decimal) : Prop where
  digits_lt : decimal.digits < 10 ^ 17
  le_largest : decimal.digits * 10 ^ decimal.exponent.toNat ≤ 17976931348623157 * 10 ^ 292

namespace Binary64

/-- The product with a positive power of ten is in range. -/
theorem isFinite_mul_of_moderate {digits power : Nat} (h : Decimal.Moderate ⟨digits, power⟩)
    (hpower : power ≤ largestPower) : (ofNat digits * powerOfTen power).isFinite = true := by
  obtain ⟨hdigits, hle⟩ := h
  rw [Int.toNat_natCast] at hle
  dsimp only at hdigits hle
  by_cases hsmall : power ≤ 291
  · -- Even the most digits are in range with this power.
    have hmost : (ofNat (10 ^ 17) * powerOfTen 291).isFinite = true := by decide +kernel
    exact isFinite_ofNat_mul_powerOfTen (Nat.le_of_lt hdigits) (Nat.le_refl _) hsmall
      (by decide) hmost
  · obtain ⟨less, rfl⟩ : ∃ less, power = 292 + less := ⟨power - 292, by omega⟩
    have hless : less ≤ 16 := by
      unfold largestPower at hpower
      omega
    have hfew : digits ≤ 17976931348623157 / 10 ^ less := by
      rw [Nat.le_div_iff_mul_le (Nat.pow_pos (by decide))]
      generalize 292 = high at hle
      rw [Nat.pow_add, Nat.mul_left_comm, Nat.mul_comm 17976931348623157] at hle
      exact Nat.le_of_mul_le_mul_left hle (Nat.pow_pos (by decide))
    have hlarger : 17976931348623157 / 10 ^ less ≤ 10 ^ 17 :=
      Nat.le_trans (Nat.div_le_self _ _) (by decide)
    exact isFinite_ofNat_mul_powerOfTen hfew hlarger (Nat.le_refl _) hpower
      (isFinite_largest_mul_powerOfTen less hless)

/-- A power of ten that is too large is left only to zero. -/
theorem digits_eq_zero_of_moderate {digits power : Nat} (h : Decimal.Moderate ⟨digits, power⟩)
    (hpower : largestPower < power) : digits = 0 := by
  have hle := h.le_largest
  rw [Int.toNat_natCast] at hle
  have hhigh : 17 + 292 ≤ power := hpower
  generalize 292 = high at hle hhigh
  refine Nat.eq_zero_of_not_pos fun hpos => Nat.not_lt.2 hle ?_
  calc 17976931348623157 * 10 ^ high < 10 ^ 17 * 10 ^ high :=
        Nat.mul_lt_mul_of_pos_right (by decide) (Nat.pow_pos (by decide))
    _ = 10 ^ (17 + high) := (Nat.pow_add 10 17 high).symm
    _ ≤ 10 ^ power := Nat.pow_le_pow_right (by decide) hhigh
    _ ≤ digits * 10 ^ power := Nat.le_mul_of_pos_left _ hpos

/-- The other sign keeps a number finite. -/
theorem isFinite_neg {value : Binary64} (h : value.isFinite = true) : (-value).isFinite = true := by
  cases value with
  | nan => cases h
  | infinite => cases h
  | finite => rfl

/-- A moderate decimal is read as a finite double. -/
theorem isFinite_approximate (negative : Bool) {decimal : Decimal} (h : decimal.Moderate) :
    (approximate negative decimal).isFinite = true := by
  have hneg : ∀ {value : Binary64}, value.isFinite = true →
      (if negative then -value else value).isFinite = true := by
    intro value hvalue
    split
    · exact isFinite_neg hvalue
    · exact hvalue
  obtain ⟨digits, exponent⟩ := decimal
  have hdigits : (ofNat digits).isFinite = true := isFinite_ofNat (Nat.le_of_lt h.digits_lt)
  unfold approximate
  refine hneg ?_
  cases exponent with
  | ofNat power =>
      dsimp only
      split
      · next hpower => exact isFinite_mul_of_moderate h hpower
      · next hpower =>
          obtain rfl := digits_eq_zero_of_moderate h (Nat.not_le.1 hpower)
          rw [if_pos (by decide +kernel)]
          exact hdigits
  | negSucc less =>
      obtain ⟨rank, hrank, hlarge, -⟩ := exists_powerOfTen
        (show less % largestPower + 1 ≤ largestPower from Nat.mod_lt less (by decide))
      dsimp only
      rw [hrank]
      exact isFinite_div (isFinite_shrink _ hdigits) hlarge

end Binary64

namespace Decimal

/-- Without a positive power of ten only the digits count. -/
theorem Moderate.of_nonpos {decimal : Decimal} (hdigits : decimal.digits < 10 ^ 17)
    (hexponent : decimal.exponent ≤ 0) : decimal.Moderate where
  digits_lt := hdigits
  le_largest := by
    rw [Int.toNat_of_nonpos hexponent, Nat.pow_zero, Nat.mul_one]
    calc decimal.digits ≤ 17976931348623157 * 10 := Nat.le_of_lt (Nat.lt_trans hdigits (by decide))
      _ ≤ 17976931348623157 * 10 ^ 292 :=
        Nat.mul_le_mul_left _
          (Nat.pow_le_pow_right (show 0 < 10 by decide) (show 1 ≤ 292 by decide))

/-- With a smaller power of ten a decimal stays moderate. -/
theorem Moderate.of_le {digits : Nat} {exponent smaller : Int} (h : Moderate ⟨digits, exponent⟩)
    (hle : smaller ≤ exponent) : Moderate ⟨digits, smaller⟩ where
  digits_lt := h.digits_lt
  le_largest := Nat.le_trans (Nat.mul_le_mul_left digits
    (Nat.pow_le_pow_right (by decide) (Int.toNat_le_toNat hle))) h.le_largest

end Decimal

/-! ## Shortest decimals -/

namespace Binary64

/-- The rank of the largest double. -/
def largestRank : Fin (2047 * 2 ^ 52) := ⟨2047 * 2 ^ 52 - 1, by decide⟩

/-- The shortest decimal of the largest double. -/
theorem shortest_largestRank : Decimal.shortest largestRank = ⟨17976931348623157, 292⟩ := by
  decide +kernel

/-- A decimal that reads back has the rank as its nearest one. -/
theorem nearestRank_of_readsBack {rank : Fin (2047 * 2 ^ 52)} {digits : Nat} {exponent : Int}
    (h : Decimal.ReadsBack rank ⟨digits, exponent⟩) :
    nearestRank (digits * 10 ^ exponent.toNat * unitsPerOne) (10 ^ (-exponent).toNat) =
      rank.val := by
  have hratio := (ofDecimal_eq_ofRatio false digits exponent).symm.trans h
  have hfinite : (ofRatio false (digits * 10 ^ exponent.toNat * unitsPerOne)
      (10 ^ (-exponent).toNat)).isFinite = true := by
    rw [hratio]
    rfl
  rw [ofRatio_of_isFinite hfinite] at hratio
  exact congrArg Fin.val (finite.inj hratio).2

/-- Only the largest double has a decimal that is not below its shortest one. -/
theorem eq_largestRank_of_le {rank : Fin (2047 * 2 ^ 52)} {digits : Nat} {power : Nat}
    (h : Decimal.ReadsBack rank ⟨digits, power⟩)
    (hle : 17976931348623157 * 10 ^ 292 ≤ digits * 10 ^ power) : rank = largestRank := by
  have hlargest := shortest_readsBack largestRank
  rw [shortest_largestRank] at hlargest
  have hrank := nearestRank_of_readsBack h
  have hother := nearestRank_of_readsBack hlargest
  rw [show (292 : Int) = ((292 : Nat) : Int) from rfl] at hother
  rw [Int.toNat_natCast, Int.toNat_neg_natCast, Nat.pow_zero] at hrank hother
  have hmono := nearestRank_mono Nat.one_pos Nat.one_pos
    (Nat.mul_le_mul_right 1 (Nat.mul_le_mul_right unitsPerOne hle))
  rw [hrank, hother] at hmono
  exact Fin.le_antisymm (Nat.le_pred_of_lt rank.isLt) hmono

/-- A decimal of few digits that reads back is moderate, unless it is a longer one of the largest
double. -/
theorem moderate_of_readsBack {rank : Fin (2047 * 2 ^ 52)} {decimal : Decimal}
    (hdigits : decimal.digits < 10 ^ 17) (h : decimal.ReadsBack rank)
    (hlargest : rank = largestRank → decimal = ⟨17976931348623157, 292⟩) : decimal.Moderate := by
  obtain ⟨digits, exponent⟩ := decimal
  by_cases hnonpos : exponent ≤ 0
  · exact .of_nonpos hdigits hnonpos
  · obtain ⟨power, rfl⟩ : ∃ power : Nat, exponent = power :=
      ⟨_, (Int.toNat_of_nonneg (Int.le_of_not_le hnonpos)).symm⟩
    refine ⟨hdigits, Nat.le_of_not_lt fun habove => ?_⟩
    rw [Int.toNat_natCast] at habove
    obtain ⟨rfl, hpower⟩ := Decimal.mk.inj (hlargest (eq_largestRank_of_le h (Nat.le_of_lt habove)))
    obtain rfl : power = 292 := Int.ofNat_inj.1 hpower
    generalize 10 ^ 292 = high at habove
    exact Nat.lt_irrefl _ habove

/-- The shortest decimals are moderate. -/
theorem moderate_shortest {rank : Fin (2047 * 2 ^ 52)} (h : rank.val ≠ 0) :
    (Decimal.shortest rank).Moderate := by
  refine moderate_of_readsBack (shortest_digits_lt h) (shortest_readsBack rank) ?_
  rintro rfl
  exact shortest_largestRank

/-! ## Exact digits and powers -/

/-- The sign of a ratio is that of its double. -/
theorem neg_ofRatio (numerator denominator : Nat) :
    -ofRatio false numerator denominator = ofRatio true numerator denominator := by
  unfold ofRatio
  split
  · rfl
  · rfl

/-- A whole number of few bits, times a power of two, has a rank if it is in range. -/
theorem exists_ofRatio_eq {significand power : Nat} (h : significand < 2 ^ 53)
    (hfinite : (ofRatio false (significand * 2 ^ power * unitsPerOne) 1).isFinite = true) :
    ∃ rank : Fin (2047 * 2 ^ 52),
      ofRatio false (significand * 2 ^ power * unitsPerOne) 1 = .finite false rank ∧
      scaled rank.val = significand * 2 ^ power * unitsPerOne := by
  obtain ⟨exponent, hexponent⟩ : ∃ exponent, unitsPerOne = 2 ^ exponent :=
    ⟨1074, by rw [unitsPerOne]⟩
  obtain ⟨rank, hrank⟩ := exists_scaled_eq h (power + exponent)
  rw [Nat.pow_add, ← Nat.mul_assoc, ← hexponent] at hrank
  have hratio := ofRatio_of_isFinite hfinite
  refine ⟨_, hratio, ?_⟩
  dsimp only
  rw [← hrank, nearestRank_scaled]

/-- Whole numbers of few bits are exact. -/
theorem exists_ofNat_eq {digits : Nat} (h : digits < 2 ^ 53) :
    ∃ rank : Fin (2047 * 2 ^ 52), ofNat digits = .finite false rank ∧
      scaled rank.val = digits * unitsPerOne := by
  have hfinite := isFinite_ofNat (Nat.le_trans (Nat.le_of_lt h) (by decide))
  have hone : digits * 2 ^ 0 = digits := by rw [Nat.pow_zero, Nat.mul_one]
  have hexists := @exists_ofRatio_eq digits 0 h (by rw [hone]; exact hfinite)
  rwa [hone] at hexists

/-- Small powers of ten are exact. -/
theorem exists_powerOfTen_eq {power : Nat} (h : power ≤ 22) :
    ∃ rank : Fin (2047 * 2 ^ 52), powerOfTen power = .finite false rank ∧
      scaled rank.val = 10 ^ power * unitsPerOne := by
  have hfinite := isFinite_powerOfTen (Nat.le_trans h (by decide : 22 ≤ largestPower))
  have hsmall : 5 ^ power < 2 ^ 53 :=
    Nat.lt_of_le_of_lt (Nat.pow_le_pow_right (by decide) h) (by decide)
  rw [powerOfTen_eq, Nat.mul_pow 5 2 power] at hfinite ⊢
  exact exists_ofRatio_eq hsmall hfinite

/-- The product of exact factors is rounded once. -/
theorem ofNat_mul_powerOfTen {digits power : Nat} (hdigits : digits < 2 ^ 53)
    (hpower : power ≤ 22) : ofNat digits * powerOfTen power =
      ofRatio false (digits * 10 ^ power * unitsPerOne) 1 := by
  obtain ⟨rank, hrank, hscaled⟩ := exists_ofNat_eq hdigits
  obtain ⟨other, hother, hten⟩ := exists_powerOfTen_eq hpower
  have hproduct : scaled rank.val * scaled other.val =
      unitsPerOne * (digits * 10 ^ power * unitsPerOne) := by
    rw [hscaled, hten]
    ring
  have hratio := ofRatio_scale false (digits * 10 ^ power * unitsPerOne) 1 unitsPerOne_pos
  rw [Nat.mul_one, ← hproduct] at hratio
  rw [hrank, hother, finite_mul]
  exact hratio

/-- The quotient of exact parts is rounded once. -/
theorem ofNat_div_powerOfTen {digits power : Nat} (hdigits : digits < 2 ^ 53)
    (hpower : power ≤ 22) : ofNat digits / powerOfTen power =
      ofRatio false (digits * unitsPerOne) (10 ^ power) := by
  obtain ⟨rank, hrank, hscaled⟩ := exists_ofNat_eq hdigits
  obtain ⟨other, hother, hten⟩ := exists_powerOfTen_eq hpower
  have hne : other.val ≠ 0 := by
    intro hzero
    have hpos : 0 < 10 ^ power * unitsPerOne :=
      Nat.mul_pos (Nat.pow_pos (by decide)) unitsPerOne_pos
    rw [← hten, hzero] at hpos
    exact absurd hpos (by decide)
  have hratio := ofRatio_scale false (digits * unitsPerOne) (10 ^ power) unitsPerOne_pos
  rw [Nat.mul_comm unitsPerOne, Nat.mul_comm unitsPerOne, ← hscaled, ← hten, hscaled] at hratio
  rw [hrank, hother, finite_div false false rank hne, hscaled]
  exact hratio

/-- A decimal with few digits and a small power of ten is read as the nearest double, since only one
step rounds. -/
theorem approximate_eq_ofDecimal (negative : Bool) {decimal : Decimal}
    (hdigits : decimal.digits < 2 ^ 53) (hexponent : decimal.exponent.natAbs ≤ 22) :
    approximate negative decimal = ofDecimal negative decimal := by
  obtain ⟨digits, exponent⟩ := decimal
  dsimp only at hdigits hexponent
  have hneg : ∀ {numerator denominator : Nat},
      (if negative then -ofRatio false numerator denominator
        else ofRatio false numerator denominator) = ofRatio negative numerator denominator := by
    intro numerator denominator
    cases negative with
    | true => rw [if_pos rfl, neg_ofRatio]
    | false => rw [if_neg Bool.false_ne_true]
  rw [ofDecimal_eq_ofRatio, approximate]
  cases exponent with
  | ofNat power =>
      have hpower : power ≤ 22 := hexponent
      dsimp only
      rw [if_pos (Nat.le_trans hpower (by decide)), ofNat_mul_powerOfTen hdigits hpower, hneg,
        Int.ofNat_eq_natCast, Int.toNat_natCast, Int.toNat_neg_natCast, Nat.pow_zero]
  | negSucc less =>
      have hless : less + 1 ≤ 22 := hexponent
      have hlt : less < largestPower := Nat.lt_of_lt_of_le hless (by decide)
      have hdiv : less / largestPower = 0 := Nat.div_eq_of_lt hlt
      have hmod : less % largestPower = less := Nat.mod_eq_of_lt hlt
      dsimp only
      rw [hdiv, hmod, shrink, ofNat_div_powerOfTen hdigits hless, hneg, Int.neg_negSucc,
        Int.toNat_negSucc, Nat.pow_zero, Nat.mul_one, Int.toNat_natCast]

end Binary64

end HostScript

import HostScript.Proofs.Binary64.Range
import Mathlib.Algebra.Order.Field.Basic
import Mathlib.Algebra.Order.Ring.Rat
import Mathlib.Tactic.FieldSimp
import Mathlib.Tactic.Linarith

/-!
# The nearest double

The magnitudes of doubles are the 53-bit significands times powers of two, and a double is a number
correctly rounded if no other magnitude is nearer and a tie went to the even significand. This
determines the double (`Rounds.unique`), and it is what reading a decimal gives
(`rounds_ofDecimal_iff`). A magnitude is found by dividing by the step of its block, so the nearest
whole number of steps is compared with magnitudes of the same block and later ones, which are whole
numbers of steps too, and with those before the block, which are further away than its start.
-/

namespace HostScript

/-- The exact value of a decimal. -/
def Decimal.value (decimal : Decimal) : ℚ :=
  decimal.digits * 10 ^ decimal.exponent

namespace Binary64

/-! ## Magnitudes -/

/-- The magnitude of a rank. -/
def magnitude (rank : Nat) : ℚ :=
  scaled rank / unitsPerOne

/-- The magnitudes of doubles if there were no largest one: significands of 53 bits times powers of
two. -/
def IsMagnitude (value : ℚ) : Prop :=
  ∃ significand < 2 ^ 53, ∃ exponent : ℤ, -1074 ≤ exponent ∧
    value = (significand : ℕ) * 2 ^ exponent

/-- There is at least one unit in one. -/
theorem unitsPerOne_pos : 0 < unitsPerOne := by
  unfold unitsPerOne
  generalize 1074 = places
  exact Nat.two_pow_pos places

/-- The rational number of units in one is positive. -/
theorem cast_unitsPerOne_pos : (0 : ℚ) < unitsPerOne :=
  Nat.cast_pos.2 unitsPerOne_pos

/-- The magnitude of a rank is its significand times the step of its block. This goes up to the
first rank of the next block, and in the first block it starts from zero. -/
theorem scaled_block {block significand : Nat} (hle : significand ≤ 2 ^ 53)
    (hnormal : block = 0 ∨ 2 ^ 52 ≤ significand) :
    scaled (block * 2 ^ 52 + significand) = significand * 2 ^ block := by
  unfold scaled
  split
  · next hsmall =>
      obtain rfl : block = 0 := by omega
      rw [Nat.zero_mul, Nat.zero_add, Nat.pow_zero, Nat.mul_one]
  · next hlarge =>
      rcases Nat.lt_or_eq_of_le hle with hlt | rfl
      · have hdiv : (block * 2 ^ 52 + significand) / 2 ^ 52 = block + 1 := by omega
        have hmod : 2 ^ 52 + (block * 2 ^ 52 + significand) % 2 ^ 52 = significand := by omega
        rw [hdiv, hmod, Nat.add_sub_cancel]
      · have hdiv : (block * 2 ^ 52 + 2 ^ 53) / 2 ^ 52 = block + 2 := by omega
        have hmod : (block * 2 ^ 52 + 2 ^ 53) % 2 ^ 52 = 0 := by omega
        rw [hdiv, hmod, Nat.add_zero, show block + 2 - 1 = 1 + block by omega, Nat.pow_add,
          ← Nat.mul_assoc]

/-- Every rank has a block and a significand, which has 53 bits except in the first block. -/
theorem exists_significand (rank : Nat) : ∃ block significand, significand < 2 ^ 53 ∧
    (block = 0 ∨ 2 ^ 52 ≤ significand) ∧ rank = block * 2 ^ 52 + significand := by
  by_cases hsmall : rank < 2 ^ 52
  · exact ⟨0, rank, by omega, .inl rfl, by omega⟩
  · exact ⟨rank / 2 ^ 52 - 1, 2 ^ 52 + rank % 2 ^ 52, by omega, .inr (by omega), by omega⟩

/-- The next rank has the next significand, so magnitudes increase. -/
theorem scaled_strictMono : StrictMono scaled := by
  refine strictMono_nat_of_lt_succ fun rank => ?_
  obtain ⟨block, significand, hlt, hnormal, rfl⟩ := exists_significand rank
  rw [Nat.add_assoc, scaled_block (Nat.le_of_lt hlt) hnormal,
    scaled_block hlt (hnormal.imp_right Nat.le_succ_of_le)]
  exact Nat.mul_lt_mul_of_pos_right (Nat.lt_succ_self significand) (Nat.two_pow_pos block)

/-- A higher rank is a greater number. -/
theorem magnitude_strictMono : StrictMono magnitude := by
  intro first second hlt
  exact div_lt_div_of_pos_right (Nat.cast_lt.2 (scaled_strictMono hlt)) cast_unitsPerOne_pos

/-- The magnitude of a rank is a whole number of steps of a block, or it is before that block. -/
theorem scaled_grid (rank block : Nat) : (∃ multiple, scaled rank = multiple * 2 ^ block) ∨
    0 < block ∧ scaled rank < 2 ^ 52 * 2 ^ block := by
  obtain ⟨own, significand, hlt, hnormal, rfl⟩ := exists_significand rank
  rw [scaled_block (Nat.le_of_lt hlt) hnormal]
  rcases Nat.lt_or_ge own block with hless | hge
  · refine .inr ⟨Nat.zero_lt_of_lt hless, ?_⟩
    calc significand * 2 ^ own < 2 ^ 53 * 2 ^ own :=
          Nat.mul_lt_mul_of_pos_right hlt (Nat.two_pow_pos own)
      _ = 2 ^ (53 + own) := (Nat.pow_add ..).symm
      _ ≤ 2 ^ (52 + block) := Nat.pow_le_pow_right (by decide) (by omega)
      _ = 2 ^ 52 * 2 ^ block := Nat.pow_add ..
  · refine .inl ⟨significand * 2 ^ (own - block), ?_⟩
    rw [Nat.mul_assoc, ← Nat.pow_add, Nat.sub_add_cancel hge]

/-- A significand of fewer bits times a power of two has a rank in an earlier block. -/
theorem exists_scaled_eq {significand : Nat} (h : significand < 2 ^ 53) (exponent : Nat) :
    ∃ rank, scaled rank = significand * 2 ^ exponent := by
  induction exponent generalizing significand with
  | zero => exact ⟨0 * 2 ^ 52 + significand, scaled_block (Nat.le_of_lt h) (.inl rfl)⟩
  | succ exponent ih =>
      by_cases hsmall : significand < 2 ^ 52
      · have hdouble : significand * 2 < 2 ^ 53 := by omega
        obtain ⟨rank, hrank⟩ := ih hdouble
        exact ⟨rank, by rw [hrank, Nat.pow_succ', Nat.mul_assoc]⟩
      · exact ⟨_, scaled_block (Nat.le_of_lt h) (.inr (Nat.le_of_not_lt hsmall))⟩

/-- Units counted in ones: the power of two of a significand is smaller by that of the unit. -/
theorem steps_div_units (significand exponent : Nat) :
    ((significand * 2 ^ exponent : Nat) : ℚ) / unitsPerOne =
      significand * 2 ^ ((exponent : ℤ) - 1074) := by
  unfold unitsPerOne
  rw [show (1074 : ℤ) = (1074 : ℕ) from rfl]
  generalize 1074 = places
  rw [zpow_sub₀ two_ne_zero, zpow_natCast, zpow_natCast]
  push_cast
  exact mul_div_assoc _ _ _

/-- The ranks number all magnitudes. -/
theorem isMagnitude_iff {value : ℚ} : IsMagnitude value ↔ ∃ rank, magnitude rank = value := by
  constructor
  · rintro ⟨significand, hlt, exponent, hexponent, rfl⟩
    obtain ⟨steps, rfl⟩ : ∃ steps : Nat, exponent = (steps : ℤ) - 1074 :=
      ⟨(exponent + 1074).toNat, by omega⟩
    obtain ⟨rank, hrank⟩ := exists_scaled_eq hlt steps
    exact ⟨rank, by rw [magnitude, hrank, steps_div_units]⟩
  · rintro ⟨rank, rfl⟩
    obtain ⟨block, significand, hlt, hnormal, rfl⟩ := exists_significand rank
    refine ⟨significand, hlt, (block : ℤ) - 1074, by omega, ?_⟩
    rw [magnitude, scaled_block (Nat.le_of_lt hlt) hnormal, steps_div_units]

/-! ## Correct rounding -/

/-- The magnitude of a rank is the nearest one to a number. If another one is as near, then the rank
is even, as its significand is. -/
structure Nearest (number : ℚ) (rank : Nat) : Prop where
  le : ∀ other, IsMagnitude other → |magnitude rank - number| ≤ |other - number|
  even_of_tie : ∀ other, IsMagnitude other → other ≠ magnitude rank →
    |other - number| = |magnitude rank - number| → rank % 2 = 0

/-- A double is a number of the given sign and magnitude correctly rounded: it is nearest, or an
infinity if what is nearest is past the largest double. -/
inductive Rounds (negative : Bool) (number : ℚ) : Binary64 → Prop where
  | finite (rank : Fin (2047 * 2 ^ 52)) : Nearest number rank.val →
      Rounds negative number (.finite negative rank)
  | infinite (rank : Nat) : 2047 * 2 ^ 52 ≤ rank → Nearest number rank →
      Rounds negative number (.infinite negative)

/-- Every other rank is further from a number, or as far while this one is even. -/
theorem Nearest.of_ranks {number : ℚ} {rank : Nat}
    (h : ∀ other ≠ rank, |magnitude rank - number| < |magnitude other - number| ∨
      |magnitude rank - number| = |magnitude other - number| ∧ rank % 2 = 0) :
    Nearest number rank where
  le value hvalue := by
    obtain ⟨other, rfl⟩ := isMagnitude_iff.1 hvalue
    by_cases heq : other = rank
    · rw [heq]
    · rcases h other heq with hless | ⟨hsame, -⟩
      · exact le_of_lt hless
      · exact le_of_eq hsame
  even_of_tie value hvalue hne htie := by
    obtain ⟨other, rfl⟩ := isMagnitude_iff.1 hvalue
    rcases h other fun heq => hne (congrArg magnitude heq) with hless | ⟨-, heven⟩
    · exact absurd htie (ne_of_gt hless)
    · exact heven

/-- Between two nearest ranks there would be a rank that is nearer than both. -/
theorem Nearest.not_lt {number : ℚ} {first second : Nat} (hfirst : Nearest number first)
    (hsecond : Nearest number second) : ¬ first < second := by
  intro hlt
  have hmagnitude : ∀ rank, IsMagnitude (magnitude rank) := fun rank =>
    isMagnitude_iff.2 ⟨rank, rfl⟩
  have hless := magnitude_strictMono hlt
  have hsame : |magnitude first - number| = |magnitude second - number| :=
    le_antisymm (hfirst.le _ (hmagnitude second)) (hsecond.le _ (hmagnitude first))
  have heven := hfirst.even_of_tie _ (hmagnitude second) (ne_of_gt hless) hsame.symm
  have hother := hsecond.even_of_tie _ (hmagnitude first) (ne_of_lt hless) hsame
  -- Both are even, so the rank after the first one is not the second one.
  have hbefore := magnitude_strictMono (show first < first + 1 by omega)
  have hafter := magnitude_strictMono (show first + 1 < second by omega)
  have hmiddle : magnitude first - number = -(magnitude second - number) := by
    rcases abs_eq_abs.1 hsame with hequal | hopposite
    · linarith
    · exact hopposite
  have hnearer : |magnitude (first + 1) - number| < magnitude second - number :=
    abs_lt.2 ⟨by linarith, by linarith⟩
  have hle := hsecond.le _ (hmagnitude (first + 1))
  rw [abs_of_pos (show 0 < magnitude second - number by linarith)] at hle
  exact absurd hnearer (not_lt_of_ge hle)

/-- The nearest rank is determined. -/
theorem Nearest.unique {number : ℚ} {first second : Nat} (hfirst : Nearest number first)
    (hsecond : Nearest number second) : first = second :=
  Nat.le_antisymm (Nat.le_of_not_lt (hsecond.not_lt hfirst))
    (Nat.le_of_not_lt (hfirst.not_lt hsecond))

/-- The correctly rounded double is determined. -/
theorem Rounds.unique {negative : Bool} {number : ℚ} {first second : Binary64}
    (hfirst : Rounds negative number first) (hsecond : Rounds negative number second) :
    first = second := by
  cases hfirst with
  | finite rank hrank =>
      cases hsecond with
      | finite other hother => rw [Fin.ext (hrank.unique hother)]
      | infinite other hlarge hother =>
          have hsame := hrank.unique hother
          omega
  | infinite rank hlarge hrank =>
      cases hsecond with
      | finite other hother =>
          have hsame := hrank.unique hother
          omega
      | infinite other hlarge hother => rfl

/-! ## Rounding a ratio of units -/

/-- How far a number of units is from a ratio of units, times the denominator. -/
def gap (numerator denominator units : Nat) : Nat :=
  ((units * denominator : Nat) - numerator : Int).natAbs

/-- Every other whole number is further from a ratio than the rounded one, or as far while that one
is even. -/
theorem gap_roundHalfEven {numerator denominator other : Nat} (hpos : 0 < denominator)
    (hne : other ≠ roundHalfEven numerator denominator) :
    gap numerator denominator (roundHalfEven numerator denominator) <
        gap numerator denominator other ∨
      gap numerator denominator (roundHalfEven numerator denominator) =
        gap numerator denominator other ∧ roundHalfEven numerator denominator % 2 = 0 := by
  have hsplit := Nat.div_add_mod' numerator denominator
  have hexcess := Nat.mod_lt numerator hpos
  unfold roundHalfEven at hne ⊢
  dsimp only at hne ⊢
  unfold gap
  generalize numerator / denominator = quotient at hsplit hne ⊢
  generalize numerator % denominator = excess at hsplit hexcess hne ⊢
  -- Another whole number is one of the two around the ratio, or a denominator further away.
  have hbelow : other < quotient → other * denominator + denominator ≤ quotient * denominator := by
    intro hlt
    rw [← Nat.add_one_mul]
    exact Nat.mul_le_mul_right denominator hlt
  have habove : quotient + 1 < other →
      quotient * denominator + 2 * denominator ≤ other * denominator := by
    intro hlt
    rw [← Nat.add_mul]
    exact Nat.mul_le_mul_right denominator hlt
  have hsame : other = quotient → other * denominator = quotient * denominator :=
    congrArg (· * denominator)
  have hsucc := Nat.add_one_mul quotient denominator
  have hnext : other = quotient + 1 →
      other * denominator = quotient * denominator + denominator := by
    rintro rfl
    exact hsucc
  by_cases hdown : 2 * excess < denominator ∨ 2 * excess = denominator ∧ quotient % 2 = 0
  · rw [if_pos hdown] at hne ⊢
    generalize other * denominator = multiple at *
    generalize quotient * denominator = floor at *
    omega
  · rw [if_neg hdown] at hne ⊢
    rw [hsucc]
    generalize other * denominator = multiple at *
    generalize quotient * denominator = floor at *
    omega

/-- No number of units is nearer to a ratio than the rounded one. -/
theorem gap_roundHalfEven_le {denominator : Nat} (hpos : 0 < denominator) (numerator other : Nat) :
    gap numerator denominator (roundHalfEven numerator denominator) ≤
      gap numerator denominator other := by
  by_cases heq : other = roundHalfEven numerator denominator
  · rw [heq]
  · rcases gap_roundHalfEven hpos heq with hless | ⟨hsame, -⟩
    · exact Nat.le_of_lt hless
    · exact Nat.le_of_eq hsame

/-- The nearest rank has the rounded number of steps of the block of the ratio as its significand,
and the ratio is not before that block. -/
theorem exists_block (numerator denominator : Nat) : ∃ block significand,
    significand = roundHalfEven numerator (denominator * 2 ^ block) ∧ significand ≤ 2 ^ 53 ∧
      (block = 0 ∨ 2 ^ 52 ≤ significand) ∧
      (0 < block → 2 ^ 52 * (denominator * 2 ^ block) ≤ numerator) ∧
      nearestRank numerator denominator = block * 2 ^ 52 + significand := by
  have hlt := div_block_lt numerator denominator
  have hle : 0 < (numerator / denominator).log2 - 52 →
      2 ^ 52 ≤ numerator / (denominator * 2 ^ ((numerator / denominator).log2 - 52)) :=
    fun hblock => le_div_block (by omega)
  refine ⟨(numerator / denominator).log2 - 52, _, rfl, ?_, ?_, ?_, rfl⟩
  · exact Nat.le_trans (roundHalfEven_le _ _) hlt
  · rcases Nat.eq_zero_or_pos ((numerator / denominator).log2 - 52) with hzero | hblock
    · exact .inl hzero
    · exact .inr (Nat.le_trans (hle hblock) (div_le_roundHalfEven _ _))
  · intro hblock
    exact Nat.mul_le_of_le_div _ _ _ (hle hblock)

/-- Every other magnitude is further from a ratio than that of its rank, or as far while that rank
is even. -/
theorem gap_nearestRank {numerator denominator other : Nat} (hpos : 0 < denominator)
    (hne : other ≠ nearestRank numerator denominator) :
    gap numerator denominator (scaled (nearestRank numerator denominator)) <
        gap numerator denominator (scaled other) ∨
      gap numerator denominator (scaled (nearestRank numerator denominator)) =
        gap numerator denominator (scaled other) ∧
      nearestRank numerator denominator % 2 = 0 := by
  obtain ⟨block, significand, hround, hle, hnormal, hlarge, hrank⟩ :=
    exists_block numerator denominator
  have hstep : 0 < denominator * 2 ^ block := Nat.mul_pos hpos (Nat.two_pow_pos block)
  have hgap : ∀ multiple, gap numerator denominator (multiple * 2 ^ block) =
      gap numerator (denominator * 2 ^ block) multiple := by
    intro multiple
    unfold gap
    rw [Nat.mul_assoc, Nat.mul_comm (2 ^ block)]
  have hscaled : scaled (nearestRank numerator denominator) = significand * 2 ^ block := by
    rw [hrank, scaled_block hle hnormal]
  rw [hscaled, hgap, hround]
  rcases scaled_grid other block with ⟨multiple, hmultiple⟩ | ⟨hblock, hless⟩
  · have hother : multiple ≠ roundHalfEven numerator (denominator * 2 ^ block) := by
      rintro rfl
      refine hne (scaled_strictMono.injective ?_)
      rw [hmultiple, hscaled, hround]
    rw [hmultiple, hgap]
    refine (gap_roundHalfEven hstep hother).imp_right fun ⟨hsame, heven⟩ => ⟨hsame, ?_⟩
    rw [← hround] at heven
    omega
  · -- The start of the block is nearer than the magnitudes before the block.
    have hnearest := gap_roundHalfEven_le hstep numerator (2 ^ 52)
    have hbefore : scaled other * denominator < 2 ^ 52 * (denominator * 2 ^ block) := by
      rw [Nat.mul_comm denominator, ← Nat.mul_assoc]
      exact Nat.mul_lt_mul_of_pos_right hless hpos
    have hstart := hlarge hblock
    refine .inl (Nat.lt_of_le_of_lt hnearest ?_)
    unfold gap
    generalize scaled other * denominator = product at hbefore ⊢
    generalize 2 ^ 52 * (denominator * 2 ^ block) = start at hbefore hstart ⊢
    omega

/-- How far a magnitude is from a ratio of units. -/
theorem abs_magnitude_sub {numerator denominator : Nat} (hpos : 0 < denominator) (rank : Nat) :
    |magnitude rank - numerator / (denominator * unitsPerOne)| =
      gap numerator denominator (scaled rank) / (denominator * unitsPerOne) := by
  have hdenominator : (0 : ℚ) < denominator := Nat.cast_pos.2 hpos
  have hunits := cast_unitsPerOne_pos
  have hsub : magnitude rank - numerator / (denominator * unitsPerOne) =
      ((scaled rank * denominator : Nat) - numerator : Int) / (denominator * unitsPerOne) := by
    unfold magnitude
    push_cast
    field_simp
  rw [hsub, abs_div, abs_of_pos (mul_pos hdenominator hunits), gap, Nat.cast_natAbs, Int.cast_abs]

/-- The rank that is found is the nearest one to the ratio. -/
theorem nearest_nearestRank {numerator denominator : Nat} (hpos : 0 < denominator) :
    Nearest (numerator / (denominator * unitsPerOne)) (nearestRank numerator denominator) := by
  refine .of_ranks fun other hne => ?_
  have hunits : (0 : ℚ) < denominator * unitsPerOne :=
    mul_pos (Nat.cast_pos.2 hpos) cast_unitsPerOne_pos
  rw [abs_magnitude_sub hpos, abs_magnitude_sub hpos]
  rcases gap_nearestRank hpos hne with hless | ⟨hsame, heven⟩
  · exact .inl (div_lt_div_of_pos_right (Nat.cast_lt.2 hless) hunits)
  · exact .inr ⟨by rw [hsame], heven⟩

/-- A ratio of units is correctly rounded. -/
theorem rounds_ofRatio (negative : Bool) {numerator denominator : Nat} (hpos : 0 < denominator) :
    Rounds negative (numerator / (denominator * unitsPerOne))
      (ofRatio negative numerator denominator) := by
  have hnearest := @nearest_nearestRank numerator denominator hpos
  unfold ofRatio
  split
  · next hrange => exact .finite ⟨_, hrange⟩ hnearest
  · next hrange => exact .infinite _ (Nat.le_of_not_lt hrange) hnearest

/-! ## Rounding a decimal -/

/-- The value of a decimal as a ratio of units. -/
theorem value_eq_ratio (digits : Nat) (exponent : Int) : Decimal.value ⟨digits, exponent⟩ =
    ((digits * 10 ^ exponent.toNat * unitsPerOne : Nat) : ℚ) /
      ((10 ^ (-exponent).toNat : Nat) * unitsPerOne) := by
  rw [Nat.cast_mul, mul_div_mul_right _ _ (ne_of_gt cast_unitsPerOne_pos)]
  unfold Decimal.value
  obtain ⟨power, rfl | rfl⟩ := exponent.eq_nat_or_neg
  · rw [Int.toNat_natCast, Int.toNat_neg_natCast]
    simp
  · rw [Int.toNat_neg_natCast, neg_neg, Int.toNat_natCast]
    simp [div_eq_mul_inv]

/-- The double that a decimal is read as is the decimal correctly rounded. -/
theorem rounds_ofDecimal_iff {negative : Bool} {decimal : Decimal} {number : Binary64} :
    Rounds negative decimal.value number ↔ number = ofDecimal negative decimal := by
  obtain ⟨digits, exponent⟩ := decimal
  have hrounds : Rounds negative (Decimal.value ⟨digits, exponent⟩)
      (ofDecimal negative ⟨digits, exponent⟩) := by
    rw [ofDecimal_eq_ofRatio, value_eq_ratio]
    exact rounds_ofRatio negative (Nat.pow_pos (by decide))
  constructor
  · exact fun h => h.unique hrounds
  · rintro rfl
    exact hrounds

-- Half way between two doubles the one with the even significand is the nearest.
example : ofDecimal false ⟨2 ^ 53 + 1, 0⟩ = ofNat (2 ^ 53) ∧
    ofDecimal false ⟨2 ^ 53 + 3, 0⟩ = ofNat (2 ^ 53 + 4) := by decide +kernel

end Binary64

end HostScript

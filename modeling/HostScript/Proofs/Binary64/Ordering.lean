import HostScript.Proofs.Binary64.Rounding
import Mathlib.Logic.Function.Basic

/-!
# The orders of doubles

Numeric comparison and equality go by the position of a double, which the values that are not
numbers lack. So equal doubles are numbers that are the same up to the sign of zero
(`equals_iff_unsignZero_eq`). The total order of all doubles is the one of IEEE 754
(`totalOrder_ne_gt_iff`) and refines the numeric order (`position_le_of_totalPosition_le`).
-/

namespace HostScript.Binary64

variable {left middle right number : Binary64}

/-! ## Positions -/

/-- Every double has a position, unless it is not a number. -/
theorem exists_position?_iff : (∃ position, number.position? = some position) ↔
    number.isNaN = false := by
  cases number with
  | nan negative rank => simp [position?, isNaN]
  | infinite negative => simp [position?, isNaN]
  | finite negative rank => simp [position?, isNaN]

/-- Numbers are compared by their positions, which NaN lacks. -/
theorem compare?_eq_some_iff {order : Ordering} : left.compare? right = some order ↔
    ∃ leftPosition rightPosition, left.position? = some leftPosition ∧
      right.position? = some rightPosition ∧ compare leftPosition rightPosition = order := by
  simp [compare?, Option.bind_eq_some_iff]

/-- Doubles are equal if they stand at the same position. -/
theorem equals_iff : left.equals right = true ↔
    ∃ position, left.position? = some position ∧ right.position? = some position := by
  rw [equals, beq_iff_eq, compare?_eq_some_iff]
  constructor
  · rintro ⟨position, other, hleft, hright, hcompare⟩
    obtain rfl := Int.compare_eq_eq.1 hcompare
    exact ⟨position, hleft, hright⟩
  · rintro ⟨position, hleft, hright⟩
    exact ⟨position, position, hleft, hright, Int.compare_eq_eq.2 rfl⟩

/-- A NaN has a sign and a rank. -/
theorem exists_eq_nan (h : number.isNaN = true) : ∃ negative rank, number = .nan negative rank := by
  cases number with
  | nan negative rank => exact ⟨negative, rank, rfl⟩
  | infinite negative => cases h
  | finite negative rank => cases h

/-- A natural number is rounded to a number. -/
theorem isNaN_ofNat (count : Nat) : (ofNat count).isNaN = false := by
  unfold ofNat ofRatio
  split <;> rfl

/-- A natural number is never rounded to the negative zero. -/
theorem unsignZero_ofNat (count : Nat) : (ofNat count).unsignZero = ofNat count := by
  unfold ofNat ofRatio
  split <;> rfl

/-! ## Equal doubles -/

/-- The double at a position, without the sign of zero. -/
def atPosition (position : Int) : Binary64 :=
  if inRange : position.natAbs < 2047 * 2 ^ 52 then
    .finite (decide (position < 0)) ⟨position.natAbs, inRange⟩
  else
    .infinite (decide (position < 0))

/-- A position belongs to one double, but both zeros are at position zero. -/
theorem unsignZero_eq_atPosition {position : Int} (h : number.position? = some position) :
    number.unsignZero = atPosition position := by
  cases number with
  | nan negative rank => cases h
  | infinite negative =>
      cases negative <;> simp only [position?, Option.some.injEq] at h <;> subst h <;> rfl
  | finite negative rank =>
      simp only [position?, Option.some.injEq] at h
      have habs : position.natAbs = rank.val := by
        cases negative <;> simp only [if_true, if_false, Bool.false_eq_true] at h <;> omega
      rw [atPosition, dif_pos (habs ▸ rank.isLt)]
      by_cases hzero : rank.val = 0
      · have hposition : ¬ position < 0 := by omega
        rw [unsignZero_eq_zero hzero, zero]
        simp [habs, hzero, hposition]
      · have hsign : decide (position < 0) = negative := by
          cases negative <;> simp at h ⊢ <;> omega
        rw [unsignZero_finite hzero]
        simp [habs, hsign]

/-- What is the same for both zeros does not depend on the sign of zero. -/
theorem apply_unsignZero {α : Type} (f : Binary64 → α) (h : f (zero false) = f (zero true))
    (number : Binary64) : f number.unsignZero = f number := by
  unfold unsignZero
  split
  · next hzero =>
      rw [eq_zero_of_isNegativeZero hzero]
      exact h
  · rfl

/-- Equal doubles are numbers that are the same without the sign of zero. -/
theorem equals_iff_unsignZero_eq : left.equals right = true ↔
    left.isNaN = false ∧ left.unsignZero = right.unsignZero := by
  rw [equals_iff, ← exists_position?_iff]
  constructor
  · rintro ⟨position, hleft, hright⟩
    exact ⟨⟨position, hleft⟩,
      (unsignZero_eq_atPosition hleft).trans (unsignZero_eq_atPosition hright).symm⟩
  · rintro ⟨⟨position, hleft⟩, hsame⟩
    have hright : right.position? = some position := by
      rw [← apply_unsignZero position? rfl, ← hsame, apply_unsignZero position? rfl, hleft]
    exact ⟨position, hleft, hright⟩

/-! ## The total order -/

/-- The predicate totalOrder of IEEE 754: numbers go by their value and the negative zero before the
other one; the values that are not numbers go before all numbers or after them by their sign, and
among each other by their sign and their bits. -/
inductive TotalOrder : Binary64 → Binary64 → Prop where
  | same (number : Binary64) : TotalOrder number number
  | less {left right : Binary64} (h : left.compare? right = some .lt) : TotalOrder left right
  | zeros : TotalOrder (zero true) (zero false)
  | numberNaN {number : Binary64} (h : number.isNaN = false) (rank : Fin (2 ^ 52 - 1)) :
      TotalOrder number (.nan false rank)
  | nanNumber {number : Binary64} (h : number.isNaN = false) (rank : Fin (2 ^ 52 - 1)) :
      TotalOrder (.nan true rank) number
  | opposite (left right : Fin (2 ^ 52 - 1)) : TotalOrder (.nan true left) (.nan false right)
  | positive {left right : Fin (2 ^ 52 - 1)} (h : left ≤ right) :
      TotalOrder (.nan false left) (.nan false right)
  | negative {left right : Fin (2 ^ 52 - 1)} (h : right ≤ left) :
      TotalOrder (.nan true left) (.nan true right)

/-- The total order is the order of total positions. -/
theorem totalOrder_ne_gt :
    left.totalOrder right ≠ .gt ↔ left.totalPosition ≤ right.totalPosition := by
  rw [totalOrder, Ne, Int.compare_eq_gt, Int.not_lt]

/-- A positive NaN stands after the infinite number, by its rank. -/
theorem totalPosition_positive (rank : Fin (2 ^ 52 - 1)) :
    (nan false rank).totalPosition = 2047 * 2 ^ 52 + 1 + rank.val := rfl

/-- A negative NaN stands before the negative infinite number, by its rank. -/
theorem totalPosition_negative (rank : Fin (2 ^ 52 - 1)) :
    (nan true rank).totalPosition = -(2047 * 2 ^ 52 + 1 + rank.val : Int) - 1 := rfl

/-- Different doubles have different places in the total order. -/
theorem totalPosition_injective : Function.Injective totalPosition := by
  intro left right h
  rcases left with ⟨leftSign, leftRank⟩ | leftSign | ⟨leftSign, leftRank⟩ <;>
    rcases right with ⟨rightSign, rightRank⟩ | rightSign | ⟨rightSign, rightRank⟩ <;>
    cases leftSign <;> cases rightSign <;> simp [totalPosition, Fin.ext_iff] at h ⊢ <;> omega

/-- The place of a number in the total order is its position, or one before it if the sign is
negative. -/
theorem totalPosition_of_position? {position : Int} (h : number.position? = some position) :
    (0 < position ∧ number.totalPosition = position) ∨
      (position < 0 ∧ number.totalPosition = position - 1) ∨
      (position = 0 ∧ (number.totalPosition = 0 ∨ number.totalPosition = -1)) := by
  cases number with
  | nan negative rank => cases h
  | infinite negative => cases negative <;> simp [position?, totalPosition] at h ⊢ <;> omega
  | finite negative rank => cases negative <;> simp [position?, totalPosition] at h ⊢ <;> omega

/-- All numbers lie between the infinities. -/
theorem totalPosition_bounds (h : number.isNaN = false) :
    -(2047 * 2 ^ 52) - 1 ≤ number.totalPosition ∧ number.totalPosition ≤ 2047 * 2 ^ 52 := by
  cases number with
  | nan negative rank => cases h
  | infinite negative => cases negative <;> simp [totalPosition]
  | finite negative rank =>
      cases negative with
      | false =>
          simp only [totalPosition, Bool.false_eq_true, if_false]
          omega
      | true =>
          simp only [totalPosition, if_true]
          omega

/-- The total order does not reverse the numeric order. -/
theorem position_le_of_totalPosition_le {leftPosition rightPosition : Int}
    (hleft : left.position? = some leftPosition) (hright : right.position? = some rightPosition)
    (h : left.totalPosition ≤ right.totalPosition) : leftPosition ≤ rightPosition := by
  have hleftPlace := totalPosition_of_position? hleft
  have hrightPlace := totalPosition_of_position? hright
  omega

/-- Numbers in the total order have their total positions in order. -/
theorem TotalOrder.totalPosition_le (h : TotalOrder left right) :
    left.totalPosition ≤ right.totalPosition := by
  cases h with
  | same => exact Int.le_refl _
  | less h =>
      obtain ⟨leftPosition, rightPosition, hleft, hright, hcompare⟩ := compare?_eq_some_iff.1 h
      have hlt := Int.compare_eq_lt.1 hcompare
      have hleftPlace := totalPosition_of_position? hleft
      have hrightPlace := totalPosition_of_position? hright
      omega
  | zeros => decide
  | numberNaN h rank =>
      have hbounds := totalPosition_bounds h
      rw [totalPosition_positive]
      omega
  | nanNumber h rank =>
      have hbounds := totalPosition_bounds h
      rw [totalPosition_negative]
      omega
  | opposite leftRank rightRank =>
      rw [totalPosition_positive, totalPosition_negative]
      omega
  | positive h =>
      have hrank := Fin.le_def.1 h
      rw [totalPosition_positive, totalPosition_positive]
      omega
  | negative h =>
      have hrank := Fin.le_def.1 h
      rw [totalPosition_negative, totalPosition_negative]
      omega

/-- Numbers at the same position are the same number or the two zeros. -/
theorem TotalOrder.of_position?_eq {position : Int} (hleft : left.position? = some position)
    (hright : right.position? = some position) (h : left.totalPosition ≤ right.totalPosition) :
    TotalOrder left right := by
  by_cases hsame : left.totalPosition = right.totalPosition
  · rw [totalPosition_injective hsame]
    exact .same right
  · have hleftPlace := totalPosition_of_position? hleft
    have hrightPlace := totalPosition_of_position? hright
    have hleftZero : left.totalPosition = (zero true).totalPosition := by
      show left.totalPosition = -1
      omega
    have hrightZero : right.totalPosition = (zero false).totalPosition := by
      show right.totalPosition = 0
      omega
    rw [totalPosition_injective hleftZero, totalPosition_injective hrightZero]
    exact .zeros

/-- Numbers in order of their places are in the total order. -/
theorem TotalOrder.of_numbers (hleft : left.isNaN = false) (hright : right.isNaN = false)
    (h : left.totalPosition ≤ right.totalPosition) : TotalOrder left right := by
  obtain ⟨leftPosition, hleftPosition⟩ := exists_position?_iff.2 hleft
  obtain ⟨rightPosition, hrightPosition⟩ := exists_position?_iff.2 hright
  have hle := position_le_of_totalPosition_le hleftPosition hrightPosition h
  by_cases hsame : leftPosition = rightPosition
  · subst hsame
    exact .of_position?_eq hleftPosition hrightPosition h
  · exact .less (compare?_eq_some_iff.2 ⟨_, _, hleftPosition, hrightPosition,
      Int.compare_eq_lt.2 (by omega)⟩)

/-- Numbers whose total positions are in order are in the total order. -/
theorem TotalOrder.of_totalPosition_le (h : left.totalPosition ≤ right.totalPosition) :
    TotalOrder left right := by
  cases hleft : left.isNaN with
  | false =>
      have hleftBounds := totalPosition_bounds hleft
      cases hright : right.isNaN with
      | false => exact .of_numbers hleft hright h
      | true =>
          obtain ⟨negative, rank, rfl⟩ := exists_eq_nan hright
          cases negative with
          | false => exact .numberNaN hleft rank
          | true => rw [totalPosition_negative] at h; omega
  | true =>
      obtain ⟨negative, rank, rfl⟩ := exists_eq_nan hleft
      cases hright : right.isNaN with
      | false =>
          have hrightBounds := totalPosition_bounds hright
          cases negative with
          | false => rw [totalPosition_positive] at h; omega
          | true => exact .nanNumber hright rank
      | true =>
          obtain ⟨otherNegative, otherRank, rfl⟩ := exists_eq_nan hright
          cases negative <;> cases otherNegative <;>
            simp only [totalPosition_positive, totalPosition_negative] at h
          · exact .positive (Fin.le_def.2 (by omega))
          · omega
          · exact .opposite rank otherRank
          · exact .negative (Fin.le_def.2 (by omega))

/-- Comparison by place is the total order of IEEE 754. -/
theorem totalOrder_ne_gt_iff : left.totalOrder right ≠ .gt ↔ TotalOrder left right :=
  totalOrder_ne_gt.trans ⟨.of_totalPosition_le, fun h => h.totalPosition_le⟩

/-- The total order is transitive. -/
theorem TotalOrder.trans (h : TotalOrder left middle) (h' : TotalOrder middle right) :
    TotalOrder left right :=
  .of_totalPosition_le (Int.le_trans h.totalPosition_le h'.totalPosition_le)

/-- Any two numbers are in the total order, one way or the other. -/
theorem TotalOrder.total (left right : Binary64) : TotalOrder left right ∨ TotalOrder right left :=
  (Int.le_total _ _).imp .of_totalPosition_le .of_totalPosition_le

/-- Numbers that are in the total order either way round are the same. -/
theorem TotalOrder.antisymm (h : TotalOrder left right) (h' : TotalOrder right left) :
    left = right :=
  totalPosition_injective (Int.le_antisymm h.totalPosition_le h'.totalPosition_le)

/-- No number is below one that comes before it, and none is above one that comes after it. -/
theorem TotalOrder.compare?_ne (h : TotalOrder left right) :
    right.compare? left ≠ some .lt ∧ left.compare? right ≠ some .gt := by
  simp only [ne_eq, compare?_eq_some_iff, Int.compare_eq_lt, Int.compare_eq_gt]
  constructor
  · rintro ⟨rightPosition, leftPosition, hright, hleft, hlt⟩
    have := position_le_of_totalPosition_le hleft hright h.totalPosition_le
    omega
  · rintro ⟨leftPosition, rightPosition, hleft, hright, hlt⟩
    have := position_le_of_totalPosition_le hleft hright h.totalPosition_le
    omega

end HostScript.Binary64

import HostScript.Proofs.Binary64.Nearest
import Mathlib.Tactic.Ring

/-!
# Seventeen digits

The magnitudes next to a magnitude are at least `2 ^ -53` of it away, so every decimal that is
closer to it than `2 ^ -54` of it is read as that magnitude (`readsBack_of_close`). A decimal with
17 digits is that close. The search for the shortest decimal therefore never gives up, and what it
finds has at most 17 digits (`shortest_digits_lt`).
-/

namespace HostScript.Binary64

/-! ## Gaps between magnitudes -/

/-- The step to the next magnitude is at least `2 ^ -53` of that magnitude. -/
theorem exists_step (rank : Nat) : ∃ step, scaled (rank + 1) = scaled rank + step ∧
    scaled (rank + 1) ≤ 2 ^ 53 * step := by
  obtain ⟨block, significand, hlt, hnormal, rfl⟩ := exists_significand rank
  have hnext := scaled_block hlt (hnormal.imp_right Nat.le_succ_of_le)
  refine ⟨2 ^ block, ?_, ?_⟩
  · rw [Nat.add_assoc, hnext, scaled_block (Nat.le_of_lt hlt) hnormal, Nat.succ_mul]
  · rw [Nat.add_assoc, hnext]
    exact Nat.mul_le_mul_right _ hlt

/-- Every other magnitude is at least `2 ^ -53` of a magnitude away from it. -/
theorem magnitude_le_gap {rank other : Nat} (hne : other ≠ rank) :
    magnitude rank ≤ 2 ^ 53 * |magnitude other - magnitude rank| := by
  have hscaled : scaled rank ≤ 2 ^ 53 * ((scaled other : Int) - scaled rank).natAbs := by
    rcases Nat.lt_or_gt_of_ne hne with hless | hmore
    · obtain ⟨before, rfl⟩ : ∃ before, rank = before + 1 := ⟨rank - 1, by omega⟩
      obtain ⟨step, hstep, hle⟩ := exists_step before
      have hother : scaled other ≤ scaled before :=
        scaled_strictMono.monotone (Nat.le_of_lt_succ hless)
      omega
    · obtain ⟨step, hstep, hle⟩ := exists_step rank
      have hother : scaled (rank + 1) ≤ scaled other :=
        scaled_strictMono.monotone (Nat.succ_le_of_lt hmore)
      omega
  have hgap : |magnitude other - magnitude rank| =
      (((scaled other : Int) - scaled rank).natAbs : ℚ) / unitsPerOne := by
    unfold magnitude
    rw [← sub_div, abs_div, abs_of_pos cast_unitsPerOne_pos, Nat.cast_natAbs, Int.cast_abs]
    push_cast
    rfl
  rw [hgap, magnitude, ← mul_div_assoc]
  refine div_le_div_of_nonneg_right ?_ (le_of_lt cast_unitsPerOne_pos)
  exact_mod_cast hscaled

/-- The magnitude that a number is close to is the nearest one. -/
theorem nearest_of_close {number : ℚ} {rank : Nat}
    (h : 2 ^ 54 * |magnitude rank - number| < magnitude rank) : Nearest number rank := by
  refine .of_ranks fun other hne => .inl ?_
  have hgap := magnitude_le_gap hne
  have htriangle := abs_sub_le (magnitude other) number (magnitude rank)
  rw [abs_sub_comm number] at htriangle
  linarith

/-- A decimal that is close to a magnitude reads back as that magnitude. -/
theorem readsBack_of_close {rank : Fin (2047 * 2 ^ 52)} {decimal : Decimal}
    (h : 2 ^ 54 * |magnitude rank.val - decimal.value| < magnitude rank.val) :
    decimal.ReadsBack rank :=
  (rounds_ofDecimal_iff.1 (.finite rank (nearest_of_close h))).symm

/-! ## The position of the point -/

/-- The digits of a number other than zero are counted by the powers of ten around it. -/
theorem length_toDigits_bounds {number : Nat} (h : 0 < number) :
    ∃ less, (Nat.toDigits 10 number).length = less + 1 ∧ 10 ^ less ≤ number ∧
      number < 10 ^ (less + 1) := by
  obtain ⟨less, hless⟩ : ∃ less, (Nat.toDigits 10 number).length = less + 1 :=
    ⟨_, (Nat.succ_pred_eq_of_pos (List.length_pos_iff.2 Nat.toDigits_ne_nil)).symm⟩
  refine ⟨less, hless, ?_, ?_⟩
  · rcases Nat.eq_zero_or_pos less with rfl | hpos
    · exact h
    · refine Nat.le_of_not_lt fun hlt => ?_
      have hshort := (Nat.length_toDigits_le_iff (by decide) hpos).2 hlt
      omega
  · exact (Nat.length_toDigits_le_iff (by decide) (Nat.succ_pos less)).1 (Nat.le_of_eq hless)

/-- A number of units is between the powers of ten around the position of its point. -/
theorem pointPosition_bounds {units : Nat} (h : 0 < units) :
    (10 : ℚ) ^ (Decimal.pointPosition units - 1) ≤ units / unitsPerOne ∧
      (units : ℚ) / unitsPerOne < 10 ^ Decimal.pointPosition units := by
  have hplaces : (0 : ℚ) < 10 ^ 330 := pow_pos (by norm_num) 330
  -- The first 330 places of every number of units have a digit.
  have hpos : 0 < units * 10 ^ 330 / unitsPerOne := by
    refine Nat.div_pos (Nat.le_trans ?_ (Nat.le_mul_of_pos_left _ h)) unitsPerOne_pos
    decide +kernel
  obtain ⟨less, hlength, hle, hlt⟩ := length_toDigits_bounds hpos
  rw [Nat.le_div_iff_mul_le unitsPerOne_pos] at hle
  rw [Nat.div_lt_iff_lt_mul unitsPerOne_pos] at hlt
  have hpoint : Decimal.pointPosition units = ((less + 1 : Nat) : ℤ) - (330 : Nat) := by
    rw [← hlength, Decimal.pointPosition, unitsPerOne]
    rfl
  rw [hpoint, show ((less + 1 : Nat) : ℤ) - (330 : Nat) - 1 = (less : ℤ) - (330 : Nat) by omega,
    zpow_sub₀ (by norm_num), zpow_sub₀ (by norm_num), zpow_natCast, zpow_natCast, zpow_natCast,
    div_le_div_iff₀ hplaces cast_unitsPerOne_pos, div_lt_div_iff₀ cast_unitsPerOne_pos hplaces]
  rw [← Nat.cast_le (α := ℚ)] at hle
  rw [← Nat.cast_lt (α := ℚ)] at hlt
  simp only [Nat.cast_mul, Nat.cast_pow, Nat.cast_ofNat] at hle hlt
  exact ⟨hle, hlt⟩

/-! ## Candidates of a given length -/

/-- A rounded ratio is at most half a unit away from it. -/
theorem gap_roundHalfEven_half {denominator : Nat} (hpos : 0 < denominator) (numerator : Nat) :
    2 * gap numerator denominator (roundHalfEven numerator denominator) ≤ denominator := by
  have hsplit := Nat.div_add_mod' numerator denominator
  have hexcess := Nat.mod_lt numerator hpos
  have hsucc := Nat.add_one_mul (numerator / denominator) denominator
  unfold roundHalfEven gap
  dsimp only
  split
  · omega
  · rw [hsucc]
    omega

/-- The decimal after another one is larger by one unit of its last place. -/
theorem value_above {count : Nat} (hcount : 0 < count) (decimal : Decimal) :
    (decimal.above count).value = (decimal.digits + 1) * 10 ^ decimal.exponent := by
  unfold Decimal.above
  split
  · next hnines =>
      obtain ⟨less, rfl⟩ : ∃ less, count = less + 1 := ⟨count - 1, by omega⟩
      have hdigits : (decimal.digits : ℚ) + 1 = 10 ^ (less + 1) := mod_cast hnines
      rw [hdigits, Decimal.value, Nat.add_sub_cancel, zpow_add₀ (by norm_num)]
      push_cast
      ring
  · unfold Decimal.value
    push_cast
    rfl

/-- The decimal after another one has no more digits. -/
theorem digits_above_lt {count : Nat} (hcount : 0 < count) {decimal : Decimal}
    (h : decimal.digits < 10 ^ count) : (decimal.above count).digits < 10 ^ count := by
  unfold Decimal.above
  split
  · exact Nat.pow_lt_pow_right (by decide) (by omega)
  · dsimp only
    omega

section Ratio

variable (units : Nat) (exponent : Int)

/-- The numerator of some units in a last place. -/
def placeNumerator : Nat :=
  units * 10 ^ (-exponent).toNat

/-- The denominator of some units in a last place. -/
def placeDenominator : Nat :=
  unitsPerOne * 10 ^ exponent.toNat

/-- The denominator of a decimal place is positive. -/
theorem placeDenominator_pos : 0 < placeDenominator exponent :=
  Nat.mul_pos unitsPerOne_pos (Nat.pow_pos (by decide))

/-- Some units are so many times the unit of the last place. -/
theorem units_eq_ratio : (units : ℚ) / unitsPerOne =
    placeNumerator units exponent / placeDenominator exponent * 10 ^ exponent := by
  have hne : (unitsPerOne : ℚ) ≠ 0 := ne_of_gt cast_unitsPerOne_pos
  unfold placeNumerator placeDenominator
  obtain ⟨power, rfl | rfl⟩ := exponent.eq_nat_or_neg
  · rw [Int.toNat_neg_natCast, Int.toNat_natCast, zpow_natCast]
    push_cast
    field_simp
  · rw [Int.toNat_neg_natCast, neg_neg, Int.toNat_natCast, zpow_neg, zpow_natCast]
    push_cast
    field_simp

/-- The candidate below some units is their ratio without its fraction, and it is the nearer one if
the rounded ratio is the same. -/
theorem below_eq : Decimal.below units exponent =
    (⟨placeNumerator units exponent / placeDenominator exponent, exponent⟩,
      roundHalfEven (placeNumerator units exponent) (placeDenominator exponent) ==
        placeNumerator units exponent / placeDenominator exponent) := by
  unfold placeNumerator placeDenominator unitsPerOne
  rfl

end Ratio

/-- The candidate that is tried first. -/
def nearer (units : Nat) (exponent : Int) (count : Nat) : Decimal :=
  if (Decimal.below units exponent).2 then (Decimal.below units exponent).1
  else (Decimal.below units exponent).1.above count

/-- The candidate that is tried first is the rounded ratio. -/
theorem value_nearer (units : Nat) (exponent : Int) {count : Nat} (hcount : 0 < count) :
    (nearer units exponent count).value =
      roundHalfEven (placeNumerator units exponent) (placeDenominator exponent) *
        10 ^ exponent := by
  unfold nearer
  rw [below_eq]
  dsimp only
  generalize placeNumerator units exponent = numerator
  generalize placeDenominator exponent = denominator
  split
  · next hlower => rw [beq_iff_eq.1 hlower, Decimal.value]
  · next hupper =>
      have hle := roundHalfEven_le numerator denominator
      have hge := div_le_roundHalfEven numerator denominator
      have hne : roundHalfEven numerator denominator ≠ numerator / denominator := by
        simpa using hupper
      rw [value_above hcount, show roundHalfEven numerator denominator =
        numerator / denominator + 1 by omega]
      push_cast
      rfl

/-- The candidate that is tried first is at most half a unit of its last place away. -/
theorem close_nearer (units : Nat) (exponent : Int) {count : Nat} (hcount : 0 < count) :
    2 * |(units : ℚ) / unitsPerOne - (nearer units exponent count).value| ≤ 10 ^ exponent := by
  have hpos := placeDenominator_pos exponent
  rw [value_nearer units exponent hcount, units_eq_ratio units exponent]
  generalize placeNumerator units exponent = numerator
  generalize placeDenominator exponent = denominator at hpos ⊢
  have hdenominator : (0 : ℚ) < denominator := Nat.cast_pos.2 hpos
  have hpower : (0 : ℚ) < 10 ^ exponent := zpow_pos (by norm_num) _
  have hgap : (2 : ℚ) * gap numerator denominator (roundHalfEven numerator denominator) ≤
      denominator := mod_cast gap_roundHalfEven_half hpos numerator
  have herror : |(numerator : ℚ) / denominator - roundHalfEven numerator denominator| =
      gap numerator denominator (roundHalfEven numerator denominator) / denominator := by
    rw [abs_sub_comm, gap, Nat.cast_natAbs, Int.cast_abs, ← abs_of_pos hdenominator, ← abs_div]
    push_cast
    rw [abs_of_pos hdenominator, sub_div, mul_div_cancel_right₀ _ (ne_of_gt hdenominator)]
  rw [← sub_mul, abs_mul, abs_of_pos hpower, herror, ← mul_assoc, ← mul_div_assoc]
  exact mul_le_of_le_one_left (le_of_lt hpower) ((div_le_one hdenominator).2 hgap)

/-- The candidate below some units has no more digits than asked for. -/
theorem digits_below_lt {units : Nat} (h : 0 < units) (count : Nat) :
    (Decimal.below units (Decimal.pointPosition units - count)).1.digits < 10 ^ count := by
  have hbelow := (pointPosition_bounds h).2
  generalize Decimal.pointPosition units = point at hbelow
  have hpos := placeDenominator_pos (point - count)
  have hpower : (0 : ℚ) < 10 ^ (point - count) := zpow_pos (by norm_num) _
  rw [below_eq, Nat.div_lt_iff_lt_mul hpos]
  rw [units_eq_ratio units (point - count)] at hbelow
  have hsplit : (10 : ℚ) ^ point = 10 ^ count * 10 ^ (point - count) := by
    rw [← zpow_natCast, ← zpow_add₀ (by norm_num)]
    congr 1
    omega
  rw [hsplit, mul_lt_mul_iff_left₀ hpower, div_lt_iff₀ (Nat.cast_pos.2 hpos)] at hbelow
  exact_mod_cast hbelow

/-! ## The search -/

variable {rank : Fin (2047 * 2 ^ 52)}

/-- With 17 digits the candidate that is tried first reads back. -/
theorem readsBack_nearer (h : rank.val ≠ 0) :
    (nearer (scaled rank.val) (Decimal.pointPosition (scaled rank.val) - (17 : Nat)) 17).ReadsBack
      rank := by
  have hlarge := (pointPosition_bounds (scaled_pos (Nat.pos_of_ne_zero h))).1
  have hclose := close_nearer (scaled rank.val)
    (Decimal.pointPosition (scaled rank.val) - (17 : Nat)) (show 0 < 17 by decide)
  generalize Decimal.pointPosition (scaled rank.val) = point at hlarge hclose ⊢
  have hpower : (0 : ℚ) < 10 ^ (point - (17 : Nat)) := zpow_pos (by norm_num) _
  have hsplit : (10 : ℚ) ^ (point - 1) = 10 ^ 16 * 10 ^ (point - (17 : Nat)) := by
    rw [show point - 1 = (16 : Nat) + (point - (17 : Nat)) by omega, zpow_add₀ (by norm_num),
      zpow_natCast]
  refine readsBack_of_close ?_
  unfold magnitude
  rw [hsplit] at hlarge
  generalize (10 : ℚ) ^ (point - (17 : Nat)) = step at hlarge hclose hpower
  linarith

/-- The candidate that is tried first is found if it reads back. -/
theorem ofLength?_of_readsBack {point : Int} {count : Nat}
    (h : (nearer (scaled rank.val) (point - count) count).ReadsBack rank) :
    Decimal.ofLength? rank point count = some (nearer (scaled rank.val) (point - count) count) := by
  unfold Decimal.ofLength?
  unfold nearer at h ⊢
  dsimp only
  split at h
  · next hlower =>
      rw [if_pos hlower, if_pos hlower]
      exact if_pos h
  · next hupper =>
      rw [if_neg hupper, if_neg hupper]
      exact if_pos h

/-- What is found is one of the two candidates. -/
theorem ofLength?_eq_some {point : Int} {count : Nat} {decimal : Decimal}
    (h : Decimal.ofLength? rank point count = some decimal) :
    decimal = (Decimal.below (scaled rank.val) (point - count)).1 ∨
      decimal = (Decimal.below (scaled rank.val) (point - count)).1.above count := by
  unfold Decimal.ofLength? at h
  dsimp only at h
  generalize (Decimal.below (scaled rank.val) (point - count)).1 = lower at h ⊢
  have hcandidates : ∀ flag : Bool, ∃ first second, (if flag = true then
      (lower, lower.above count) else (lower.above count, lower)) = (first, second) ∧
      (first = lower ∨ first = lower.above count) ∧
      (second = lower ∨ second = lower.above count) := by
    rintro (_ | _)
    · exact ⟨_, _, rfl, .inr rfl, .inl rfl⟩
    · exact ⟨_, _, rfl, .inl rfl, .inr rfl⟩
  obtain ⟨first, second, hpair, hfirst, hsecond⟩ :=
    hcandidates (Decimal.below (scaled rank.val) (point - count)).2
  rw [hpair] at h
  split at h
  · exact Option.some.inj h ▸ hfirst
  · split at h
    · exact Option.some.inj h ▸ hsecond
    · cases h

/-- What is found has no more digits than asked for. -/
theorem digits_ofLength?_lt {count : Nat} {decimal : Decimal} (h : rank.val ≠ 0)
    (hcount : 0 < count) (hfound : Decimal.ofLength? rank
      (Decimal.pointPosition (scaled rank.val)) count = some decimal) :
    decimal.digits < 10 ^ count := by
  have hbelow := digits_below_lt (scaled_pos (Nat.pos_of_ne_zero h)) count
  obtain rfl | rfl := ofLength?_eq_some hfound
  · exact hbelow
  · exact digits_above_lt hcount hbelow

/-- The shortest decimal is found with some number of digits up to 17. -/
theorem exists_ofLength?_shortest (h : rank.val ≠ 0) : ∃ count < 17,
    Decimal.ofLength? rank (Decimal.pointPosition (scaled rank.val)) (count + 1) =
      some (Decimal.shortest rank) := by
  unfold Decimal.shortest
  dsimp only
  cases hfound : (List.range 17).findSome? fun count =>
      Decimal.ofLength? rank (Decimal.pointPosition (scaled rank.val)) (count + 1) with
  | none =>
      have hnone := List.findSome?_eq_none_iff.1 hfound 16 (by decide)
      rw [ofLength?_of_readsBack (readsBack_nearer h)] at hnone
      cases hnone
  | some decimal =>
      obtain ⟨count, hcount, hdecimal⟩ := List.exists_of_findSome?_eq_some hfound
      exact ⟨count, List.mem_range.1 hcount, hdecimal⟩

/-- The shortest decimal has at most 17 digits. -/
theorem shortest_digits_lt (h : rank.val ≠ 0) : (Decimal.shortest rank).digits < 10 ^ 17 := by
  obtain ⟨count, hcount, hfound⟩ := exists_ofLength?_shortest h
  calc (Decimal.shortest rank).digits < 10 ^ (count + 1) :=
        digits_ofLength?_lt h (Nat.succ_pos count) hfound
    _ ≤ 10 ^ 17 := Nat.pow_le_pow_right (by decide) hcount

end HostScript.Binary64

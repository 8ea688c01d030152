import HostScript.Binary64.Decimal

/-!
# Rounding doubles

Rounding depends on the ratio alone, and a ratio that is the magnitude of a rank is rounded to that
rank. So the exact decimal expansion of a double is read back as that double
(`ofDecimal_exact`).
-/

namespace HostScript.Binary64

/-! ## Ratios -/

/-- A whole number is rounded to itself. -/
theorem roundHalfEven_mul (quotient : Nat) {denominator : Nat} (h : 0 < denominator) :
    roundHalfEven (quotient * denominator) denominator = quotient := by
  unfold roundHalfEven
  simp only [Nat.mul_div_cancel _ h, Nat.mul_mod_left, Nat.mul_zero]
  rw [if_pos (.inl h)]

/-- Rounding depends on the ratio alone. -/
theorem roundHalfEven_scale (numerator denominator : Nat) {factor : Nat} (h : 0 < factor) :
    roundHalfEven (factor * numerator) (factor * denominator) =
      roundHalfEven numerator denominator := by
  unfold roundHalfEven
  simp only [Nat.mul_div_mul_left _ _ h, Nat.mul_mod_mul_left, Nat.mul_left_comm 2 factor,
    Nat.mul_lt_mul_left h, Nat.mul_right_inj (Nat.ne_of_gt h)]

/-- The nearest rank depends on the ratio alone. -/
theorem nearestRank_scale (numerator denominator : Nat) {factor : Nat} (h : 0 < factor) :
    nearestRank (factor * numerator) (factor * denominator) =
      nearestRank numerator denominator := by
  unfold nearestRank
  simp only [Nat.mul_div_mul_left _ _ h, Nat.mul_assoc, roundHalfEven_scale _ _ h]

/-- The double nearest to a ratio depends on the ratio alone. -/
theorem ofRatio_scale (negative : Bool) (numerator denominator : Nat) {factor : Nat}
    (h : 0 < factor) :
    ofRatio negative (factor * numerator) (factor * denominator) =
      ofRatio negative numerator denominator := by
  unfold ofRatio
  simp only [nearestRank_scale _ _ h]

/-- The rank nearest to the magnitude of a rank is that rank. -/
theorem nearestRank_scaled (rank : Nat) : nearestRank (scaled rank) 1 = rank := by
  have hone : ∀ number, roundHalfEven number 1 = number := fun number => by
    have := roundHalfEven_mul number Nat.one_pos
    rwa [Nat.mul_one] at this
  unfold nearestRank scaled
  by_cases hsmall : rank < 2 ^ 52
  · have hlog : rank.log2 ≤ 52 := by
      rcases Nat.eq_zero_or_pos rank with rfl | hpos
      · decide
      · exact Nat.le_of_lt ((Nat.log2_lt (Nat.ne_of_gt hpos)).2 hsmall)
    rw [if_pos hsmall, Nat.div_one, Nat.sub_eq_zero_of_le hlog]
    simp only [Nat.zero_mul, Nat.pow_zero, Nat.mul_one, Nat.zero_add, hone]
  · -- The block and the place of the rank in it are those of its significand.
    have hblock : 1 ≤ rank / 2 ^ 52 := (Nat.le_div_iff_mul_le (by decide)).2 (by omega)
    have hmod : rank % 2 ^ 52 < 2 ^ 52 := Nat.mod_lt _ (by decide)
    have hsplit := Nat.div_add_mod rank (2 ^ 52)
    generalize rank / 2 ^ 52 = block at hblock hsplit
    generalize rank % 2 ^ 52 = place at hmod hsplit
    obtain ⟨block, rfl⟩ : ∃ less, block = less + 1 := ⟨block - 1, by omega⟩
    have hpos : 0 < 2 ^ block := Nat.two_pow_pos block
    have hlog : ((2 ^ 52 + place) * 2 ^ block).log2 = 52 + block := by
      rw [Nat.log2_eq_iff (Nat.ne_of_gt (Nat.mul_pos (by omega) hpos))]
      constructor
      · rw [Nat.pow_add]
        exact Nat.mul_le_mul_right _ (Nat.le_add_right _ _)
      · rw [show 52 + block + 1 = 53 + block by omega, Nat.pow_add]
        exact Nat.mul_lt_mul_of_pos_right (by omega) hpos
    rw [if_neg hsmall, Nat.div_one, Nat.add_sub_cancel, hlog, Nat.add_sub_cancel_left]
    simp only [Nat.one_mul, roundHalfEven_mul _ hpos]
    omega

/-- A ratio that is the magnitude of a rank gives the double of that rank. -/
theorem ofRatio_scaled (negative : Bool) (rank : Fin (2047 * 2 ^ 52)) {numerator denominator : Nat}
    (hpos : 0 < denominator) (h : numerator = denominator * scaled rank.val) :
    ofRatio negative numerator denominator = .finite negative rank := by
  have hrank : nearestRank numerator denominator = rank.val := by
    have hscale := nearestRank_scale (scaled rank.val) 1 hpos
    rw [Nat.mul_one, nearestRank_scaled] at hscale
    rw [h, hscale]
  unfold ofRatio
  rw [dif_pos (hrank ▸ rank.isLt)]
  simp only [hrank]

/-- A nonzero rank has a nonzero magnitude. -/
theorem scaled_pos {rank : Nat} (h : 0 < rank) : 0 < scaled rank := by
  unfold scaled
  split
  · exact h
  · exact Nat.mul_pos (Nat.add_pos_left (by decide) _) (Nat.two_pow_pos _)

/-! ## Decimals -/

/-- A decimal without digits is a zero. -/
theorem ofDecimal_zero (negative : Bool) (exponent : Int) :
    ofDecimal negative ⟨0, exponent⟩ = zero negative :=
  if_pos rfl

/-- A decimal with digits after the point is rounded as a ratio, if it is not far too small. -/
theorem ofDecimal_neg (negative : Bool) {digits power : Nat} (hdigits : digits ≠ 0)
    (hpos : 0 < power) (hpower : power ≤ digits.log2 + 400) :
    ofDecimal negative ⟨digits, -(power : Int)⟩ =
      ofRatio negative (digits * unitsPerOne) (10 ^ power) := by
  unfold ofDecimal
  dsimp only
  rw [if_neg hdigits, if_neg (by omega), if_neg (by omega)]
  cases power with
  | zero => exact absurd hpos (by decide)
  | succ less => rfl

/-- A decimal without digits after the point is rounded as a whole number, if it is not far too
large. -/
theorem ofDecimal_natCast (negative : Bool) {digits power : Nat} (hdigits : digits ≠ 0)
    (hpower : power ≤ 400) :
    ofDecimal negative ⟨digits, power⟩ =
      ofRatio negative (digits * 10 ^ power * unitsPerOne) 1 := by
  unfold ofDecimal
  dsimp only
  rw [if_neg hdigits, if_neg (by omega), if_neg (by omega)]

/-- Zeros after the last digit do not change a number. -/
theorem ofDecimal_shift (negative : Bool) (digits : Nat) {power : Nat} (h : power ≤ 400) :
    ofDecimal negative ⟨digits * 10 ^ (power + 1), -(1 : Nat)⟩ =
      ofDecimal negative ⟨digits, power⟩ := by
  rcases Nat.eq_zero_or_pos digits with rfl | hpos
  · rw [Nat.zero_mul, ofDecimal_zero, ofDecimal_zero]
  · have hdigits := Nat.ne_of_gt hpos
    have hshifted : digits * 10 ^ (power + 1) ≠ 0 :=
      Nat.ne_of_gt (Nat.mul_pos hpos (Nat.pow_pos (by decide)))
    have hscale := ofRatio_scale negative (digits * 10 ^ power * unitsPerOne) 1
      (show 0 < 10 by decide)
    have hunits : digits * 10 ^ (power + 1) * unitsPerOne =
        10 * (digits * 10 ^ power * unitsPerOne) := by
      rw [Nat.pow_succ, ← Nat.mul_assoc, Nat.mul_right_comm, Nat.mul_comm]
    rw [ofDecimal_neg negative hshifted Nat.one_pos (by omega),
      ofDecimal_natCast negative hdigits h, ← hscale, hunits, Nat.pow_one, Nat.mul_one]

/-- The decimal expansion of a number of units, which end after `power` places, is read back. -/
theorem ofDecimal_scaled (negative : Bool) (rank : Fin (2047 * 2 ^ 52)) {power : Nat}
    (hpos : 0 < power) (hpower : 2 ^ power = unitsPerOne) :
    ofDecimal negative ⟨scaled rank.val * 5 ^ power, -(power : Int)⟩ = .finite negative rank := by
  have hfive : 0 < 5 ^ power := Nat.pow_pos (by decide)
  rcases Nat.eq_zero_or_pos rank.val with hzero | hrank
  · obtain rfl : rank = ⟨0, by decide⟩ := Fin.ext hzero
    rw [show scaled 0 = 0 from rfl, Nat.zero_mul, ofDecimal_zero]
    rfl
  · have hunits := scaled_pos hrank
    have hdigits : scaled rank.val * 5 ^ power ≠ 0 := Nat.ne_of_gt (Nat.mul_pos hunits hfive)
    have hlog : power ≤ (scaled rank.val * 5 ^ power).log2 := by
      refine (Nat.le_log2 hdigits).2 ?_
      calc 2 ^ power ≤ 5 ^ power := Nat.pow_le_pow_left (by decide) power
        _ ≤ scaled rank.val * 5 ^ power := Nat.le_mul_of_pos_left _ hunits
    rw [ofDecimal_neg negative hdigits hpos (Nat.le_add_right_of_le hlog)]
    refine ofRatio_scaled negative rank (Nat.pow_pos (by decide)) ?_
    rw [← hpower, Nat.mul_assoc, ← Nat.mul_pow, Nat.mul_comm]

/-- The exact decimal expansion of a double is read back as that double. -/
theorem ofDecimal_exact (negative : Bool) (rank : Fin (2047 * 2 ^ 52)) :
    ofDecimal negative (Decimal.exact (scaled rank.val)) = .finite negative rank := by
  have hunits : 2 ^ 1074 = unitsPerOne := by rw [unitsPerOne]
  rw [Decimal.exact]
  exact @ofDecimal_scaled negative rank 1074 (by decide) hunits

/-- A decimal that reads back as a magnitude does so with either sign. -/
theorem ofDecimal_of_readsBack {rank : Fin (2047 * 2 ^ 52)} {decimal : Decimal}
    (h : decimal.ReadsBack rank) (negative : Bool) :
    ofDecimal negative decimal = .finite negative rank := by
  have hratio : ∀ {numerator denominator}, ofRatio false numerator denominator =
      .finite false rank → ofRatio negative numerator denominator = .finite negative rank := by
    intro numerator denominator heq
    unfold ofRatio at heq ⊢
    split at heq
    · next hrange =>
        cases heq
        rw [dif_pos hrange]
    · cases heq
  -- Both signs take the same branch, and the branch that overflows reads back as no magnitude.
  unfold Decimal.ReadsBack ofDecimal at h
  unfold ofDecimal
  split
  · next hzero =>
      rw [if_pos hzero] at h
      cases h
      rfl
  · next hzero =>
      rw [if_neg hzero] at h
      split
      · next hlarge =>
          rw [if_pos hlarge] at h
          cases h
      · next hlarge =>
          rw [if_neg hlarge] at h
          split
          · next hsmall =>
              rw [if_pos hsmall] at h
              cases h
              rfl
          · next hsmall =>
              rw [if_neg hsmall] at h
              split
              · next heq => rw [heq] at h; exact hratio h
              · next heq => rw [heq] at h; exact hratio h

/-- A decimal that reads back as a magnitude other than zero has digits. -/
theorem digits_ne_zero_of_readsBack {rank : Fin (2047 * 2 ^ 52)} {decimal : Decimal}
    (h : decimal.ReadsBack rank) (hrank : rank.val ≠ 0) : decimal.digits ≠ 0 := by
  intro hzero
  unfold Decimal.ReadsBack ofDecimal at h
  rw [if_pos hzero] at h
  cases h
  exact hrank rfl

/-- A decimal of a given length is only given if it reads back. -/
theorem readsBack_of_ofLength? {rank : Fin (2047 * 2 ^ 52)} {point : Int} {count : Nat}
    {decimal : Decimal} (h : Decimal.ofLength? rank point count = some decimal) :
    decimal.ReadsBack rank := by
  unfold Decimal.ofLength? at h
  dsimp only at h
  generalize (if (Decimal.below (scaled rank.val) (point - count)).2 = true then _ else _ :
    Decimal × Decimal) = candidates at h
  split at h
  · next hback => exact Option.some.inj h ▸ hback
  · split at h
    · next hback => exact Option.some.inj h ▸ hback
    · cases h

/-- The shortest decimal of a magnitude reads back. -/
theorem shortest_readsBack (rank : Fin (2047 * 2 ^ 52)) :
    (Decimal.shortest rank).ReadsBack rank := by
  unfold Decimal.shortest
  dsimp only
  cases hfound : (List.range 17).findSome? fun count =>
      Decimal.ofLength? rank (Decimal.pointPosition (scaled rank.val)) (count + 1) with
  | none => exact ofDecimal_exact false rank
  | some decimal =>
      obtain ⟨count, -, hcount⟩ := List.exists_of_findSome?_eq_some hfound
      exact readsBack_of_ofLength? hcount

/-! ## Whole numbers -/

/-- The number itself, but the negative zero becomes the other one. -/
def unsignZero (number : Binary64) : Binary64 :=
  if number.isNegativeZero then zero false else number

/-- Only a zero can lose its sign. -/
theorem unsignZero_finite {negative : Bool} {rank : Fin (2047 * 2 ^ 52)} (h : rank.val ≠ 0) :
    (finite negative rank).unsignZero = .finite negative rank := by
  cases negative with
  | false => rfl
  | true => simp [unsignZero, isNegativeZero, h]

/-- There is one negative zero. -/
theorem eq_zero_of_isNegativeZero {number : Binary64} (h : number.isNegativeZero = true) :
    number = zero true := by
  cases number with
  | nan negative rank => cases h
  | infinite negative => cases h
  | finite negative rank =>
      cases negative with
      | false => cases h
      | true => exact congrArg (finite true) (Fin.ext (beq_iff_eq.1 h))

/-- Both zeros become the same. -/
theorem unsignZero_eq_zero {negative : Bool} {rank : Fin (2047 * 2 ^ 52)} (h : rank.val = 0) :
    (finite negative rank).unsignZero = zero false := by
  obtain rfl : rank = ⟨0, by decide⟩ := Fin.ext h
  cases negative with
  | false => rfl
  | true => rfl

/-- The zeros are whole. -/
theorem toInt?_zero {negative : Bool} {rank : Fin (2047 * 2 ^ 52)} (h : rank.val = 0) :
    (finite negative rank).toInt? = some 0 := by
  unfold toInt?
  dsimp only
  rw [h, show scaled 0 = 0 from rfl, Nat.zero_mod, if_pos rfl, Nat.zero_div]
  cases negative with
  | false => rfl
  | true => rfl

/-- A whole double is the double nearest to the integer that it is, up to the sign of zero. -/
theorem ofInt_of_toInt? {number : Binary64} {whole : Int} (h : number.toInt? = some whole) :
    ofInt whole = number.unsignZero := by
  cases number with
  | nan => cases h
  | infinite => cases h
  | finite negative rank =>
      unfold toInt? at h
      dsimp only at h
      split at h
      · next hwhole =>
          have hunits := Nat.div_mul_cancel (Nat.dvd_of_mod_eq_zero hwhole)
          cases h
          generalize scaled rank.val / unitsPerOne = count at hunits
          have habs : (if negative = true then -(count : Int) else count).natAbs = count := by
            cases negative <;> simp
          unfold ofInt
          rw [habs, hunits]
          rw [ofRatio_scaled _ rank Nat.one_pos (Nat.one_mul _).symm]
          cases negative with
          | false => simp [unsignZero, isNegativeZero]
          | true =>
              rcases Nat.eq_zero_or_pos count with rfl | hpos
              · have hrank : rank.val = 0 := by
                  refine Nat.eq_zero_of_not_pos fun hrank => ?_
                  have := scaled_pos hrank
                  omega
                obtain rfl : rank = ⟨0, by decide⟩ := Fin.ext hrank
                rfl
              · have hrank : rank.val ≠ 0 := by
                  intro hzero
                  rw [hzero, show scaled 0 = 0 from rfl] at hunits
                  exact Nat.ne_of_gt (Nat.mul_pos hpos (Nat.two_pow_pos _)) hunits
                rw [unsignZero_finite hrank]
                simp [hpos]
      · cases h

end HostScript.Binary64

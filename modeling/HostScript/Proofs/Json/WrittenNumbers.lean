import HostScript.Proofs.Binary64.Approximation
import HostScript.Proofs.Json.Tokens

/-!
# Reading numbers that were written

The text of a finite number spells a decimal whose nearest double is that number, up to the sign of
zero (`exists_spelling`), so the text tells numbers apart (`unsignZero_eq_of_text`). The text is
always read as a finite number (`number_text`). That number is near the one that was written, but
the steps of the reader are rounded and it can be the double next to it, so a number reads back only
if `reread` gives it again. Integers do, and so do decimals with few digits and a small power of ten
(`readsBack_of_toInt?`, `readsBack_of_few_digits`).
-/

namespace HostScript

/-- The decimal that the layout of a decimal spells: a zero that stands after the point counts as a
digit. -/
def Decimal.spelled (decimal : Decimal) : Decimal :=
  if 0 ≤ decimal.exponent ∧ (Nat.toDigits 10 decimal.digits).length + decimal.exponent ≤ 16 then
    ⟨decimal.digits * 10 ^ (decimal.exponent.toNat + 1), -1⟩
  else decimal

namespace Json

/-! ## Digits that fit -/

/-- Digits after a number make it larger. -/
theorem le_ofDigitChars (digits : List Char) (number : Nat) :
    number ≤ Nat.ofDigitChars 10 digits number := by
  rw [Nat.ofDigitChars_eq_ofDigitChars_zero]
  have hpos : 0 < 10 ^ digits.length := Nat.pow_pos (by decide)
  exact Nat.le_add_right_of_le (Nat.le_mul_of_pos_left _ hpos)

/-- All digits of a number that fits are taken. -/
theorem takeDigits_of_lt {digits : List Char} {significand : Nat}
    (h : Nat.ofDigitChars 10 digits significand < 2 ^ 64) :
    takeDigits significand digits = (Nat.ofDigitChars 10 digits significand, []) := by
  induction digits generalizing significand with
  | nil => rw [takeDigits, Nat.ofDigitChars_nil]
  | cons digit digits ih =>
      rw [Nat.ofDigitChars_cons] at h ⊢
      have hfits := Nat.lt_of_le_of_lt (le_ofDigitChars digits _) h
      rw [takeDigits, if_pos hfits]
      exact ih h

/-! ## Parts of numbers -/

/-- The parts that the text of a number without its sign consists of. -/
structure Spelling (text : List Char) where
  whole : List Char
  fractionText : List Char
  fraction : Option (List Char)
  powerText : List Char
  power : Option Int
  isWhole : IsWhole whole
  isFraction : Fraction fractionText fraction
  isPower : Power powerText power
  text_eq : whole ++ (fractionText ++ powerText) = text

namespace Spelling

open Reader

variable {text rest : List Char} (spelling : Spelling text)

/-- The decimal that is spelled. -/
def decimal : Decimal :=
  ⟨Nat.ofDigitChars 10 (spelling.whole ++ spelling.fraction.getD []) 0,
    spelling.power.getD 0 - (spelling.fraction.getD []).length⟩

/-- The number that is read, with the sign that was read before. -/
def number (negative : Bool) : Number :=
  .ofParts negative spelling.whole spelling.fraction spelling.power

/-- Whether neither a fraction nor a power of ten is spelled. -/
def isInteger : Bool :=
  spelling.fraction.isNone && spelling.power.isNone

include spelling in
/-- The text starts with a digit. -/
theorem head : ∃ first others, text = first :: others ∧ first.isDigit = true := by
  obtain ⟨first, others, hwhole⟩ := List.exists_cons_of_ne_nil spelling.isWhole.1
  have hfirst : first ∈ spelling.whole := hwhole ▸ List.mem_cons_self
  refine ⟨first, others ++ (spelling.fractionText ++ spelling.powerText), ?_,
    spelling.isWhole.2.1 first hfirst⟩
  exact spelling.text_eq.symm.trans (by rw [hwhole, List.cons_append])

include spelling in
/-- The text does not start with a sign. -/
theorem sign_cons_ne (others : List Char) : '-' :: others ≠ text := by
  obtain ⟨first, others', rfl, hfirst⟩ := spelling.head
  intro hsame
  obtain ⟨rfl, -⟩ := List.cons.inj hsame
  exact absurd hfirst (by decide)

/-- If its digits fit, a number is the integer that they are, or the double that the spelled decimal
is read as. -/
theorem number_eq (negative : Bool) (h : spelling.decimal.digits < 2 ^ 64) :
    spelling.number negative =
      if spelling.isInteger then .ofInteger negative spelling.decimal.digits
      else .float (.approximate negative spelling.decimal) := by
  unfold decimal at h ⊢
  dsimp only at h ⊢
  rw [Nat.ofDigitChars_append] at h ⊢
  have hwhole := takeDigits_of_lt (Nat.lt_of_le_of_lt (le_ofDigitChars _ _) h)
  have hfraction := takeDigits_of_lt h
  rw [number, Number.ofParts, hwhole]
  dsimp only
  rw [hfraction, List.isEmpty_nil, Bool.true_and, ← isInteger]
  split
  · next hinteger =>
      have hnone : spelling.fraction = none := by
        simp only [isInteger, Bool.and_eq_true, Option.isNone_iff_eq_none] at hinteger
        exact hinteger.1
      rw [hnone, Option.getD_none, Nat.ofDigitChars_nil]
  · simp

/-- A number that spells a moderate decimal is in range. -/
theorem inRange_number (negative : Bool) (h : spelling.decimal.Moderate) :
    (spelling.number negative).inRange = true := by
  rw [spelling.number_eq negative (Nat.lt_trans h.digits_lt (by decide))]
  split
  · unfold Number.ofInteger
    have hfinite := Binary64.isFinite_ofNat (Nat.le_of_lt h.digits_lt)
    split
    · split
      · rfl
      · exact Binary64.isFinite_neg hfinite
    · rfl
  · exact Binary64.isFinite_approximate negative h

/-- The number is read with the sign that was read before. -/
theorem unsignedNumber (negative : Bool) (h : spelling.decimal.Moderate) (hrest : NumberEnds rest) :
    unsignedNumber negative (text ++ rest) = .ok (spelling.number negative, rest) := by
  have hread := unsignedNumber_complete spelling.isWhole spelling.isFraction spelling.isPower
    (spelling.inRange_number negative h) hrest
  rwa [← List.append_assoc, ← List.append_assoc, List.append_assoc _ _ spelling.powerText,
    spelling.text_eq] at hread

/-- A text spells only one decimal. -/
theorem decimal_unique (first second : Spelling text) : first.decimal = second.decimal := by
  have hparts : ∀ spelling : Spelling text,
      integerDigits text = .ok (spelling.whole, spelling.fractionText ++ spelling.powerText) ∧
      fractionDigits (spelling.fractionText ++ spelling.powerText) =
        .ok (spelling.fraction, spelling.powerText) ∧
      exponent spelling.powerText = .ok (spelling.power, []) := by
    intro spelling
    obtain ⟨hdigit, hpoint⟩ := spelling.isPower.stops Text.stops_nil
    rw [List.append_nil] at hdigit hpoint
    have hpower := exponent_complete spelling.isPower Text.stops_nil
    rw [List.append_nil] at hpower
    refine ⟨?_, fractionDigits_complete spelling.isFraction hdigit hpoint, hpower⟩
    nth_rewrite 1 [← spelling.text_eq]
    exact integerDigits_run spelling.isWhole (spelling.isFraction.stops hdigit)
  obtain ⟨hwhole, hfraction, hpower⟩ := hparts first
  obtain ⟨hwhole', hfraction', hpower'⟩ := hparts second
  rw [hwhole] at hwhole'
  obtain ⟨hwholes, hafter⟩ := Prod.mk.inj (Except.ok.inj hwhole')
  rw [hafter, hfraction'] at hfraction
  obtain ⟨hfractions, hpowerTexts⟩ := Prod.mk.inj (Except.ok.inj hfraction)
  rw [← hpowerTexts, hpower'] at hpower
  have hpowers := (Prod.mk.inj (Except.ok.inj hpower)).1
  rw [decimal, decimal, hwholes, hfractions, hpowers]

end Spelling

/-! ## Layouts of decimals -/

/-- Digits that start with another digit than zero. -/
structure Significant (digits : List Char) : Prop where
  ne_nil : digits ≠ []
  isDigit : ∀ char ∈ digits, char.isDigit = true
  head : digits.head? ≠ some '0'

/-- The digits of a number other than zero start with another digit. -/
theorem significant_toDigits {number : Nat} (h : number ≠ 0) :
    Significant (Nat.toDigits 10 number) where
  ne_nil := Nat.toDigits_ne_nil
  isDigit _ := isDigit_of_mem_toDigits
  head := head_toDigits_ne h

namespace Significant

variable {digits : List Char} {count : Nat}

/-- The first few digits may stand before a point. -/
theorem isWhole_take (h : Significant digits) (hcount : 0 < count) :
    IsWhole (digits.take count) := by
  have hpos := List.length_pos_iff.2 h.ne_nil
  have hne : digits.take count ≠ [] := by
    refine List.ne_nil_of_length_pos ?_
    rw [List.length_take]
    omega
  refine ⟨hne, fun char hchar => h.isDigit char (List.mem_of_mem_take hchar), .inr ?_⟩
  have hhead := h.head
  rwa [← List.take_append_drop count digits, List.head?_append_of_ne_nil _ hne] at hhead

/-- The digits that are left may stand after a point. -/
theorem isDigits_drop (h : Significant digits) (hcount : count < digits.length) :
    IsDigits (digits.drop count) := by
  refine ⟨List.ne_nil_of_length_pos ?_, fun char hchar =>
    h.isDigit char (List.mem_of_mem_drop hchar)⟩
  rw [List.length_drop]
  omega

/-- All digits and zeros after them may stand before a point. -/
theorem isWhole_append_zeros (h : Significant digits) (count : Nat) :
    IsWhole (digits ++ List.replicate count '0') := by
  refine ⟨List.append_ne_nil_of_left_ne_nil h.ne_nil _,
    isDigit_of_mem_append h.isDigit isDigit_of_mem_zeros, .inr ?_⟩
  rw [List.head?_append_of_ne_nil _ h.ne_nil]
  exact h.head

/-- Zeros and all digits after them may stand after a point. -/
theorem isDigits_zeros_append (h : Significant digits) (count : Nat) :
    IsDigits (List.replicate count '0' ++ digits) :=
  ⟨List.append_ne_nil_of_right_ne_nil _ h.ne_nil,
    isDigit_of_mem_append isDigit_of_mem_zeros h.isDigit⟩

end Significant

/-- A mark with a sign and the digits of a power of ten. -/
theorem power_toDigits (power : Int) :
    Power ('e' :: (if power < 0 then '-' else '+') :: Nat.toDigits 10 power.natAbs)
      (some power) := by
  have hdigits : IsDigits (Nat.toDigits 10 power.natAbs) :=
    ⟨Nat.toDigits_ne_nil, fun _ => isDigit_of_mem_toDigits⟩
  have hvalue : Nat.ofDigitChars 10 (Nat.toDigits 10 power.natAbs) 0 = power.natAbs :=
    Nat.ofDigitChars_ten_toDigits
  by_cases hneg : power < 0
  · have hpower := Power.some 'e' ['-'] true _ (.inl rfl) .minus hdigits
    rw [if_pos rfl, hvalue, ← Int.eq_neg_natAbs_of_nonpos (Int.le_of_lt hneg)] at hpower
    rwa [if_pos hneg]
  · have hpower := Power.some 'e' ['+'] false _ (.inl rfl) .plus hdigits
    rw [if_neg Bool.false_ne_true, hvalue, Int.natAbs_of_nonneg (Int.not_lt.1 hneg)] at hpower
    rwa [if_neg hneg]

/-- Some text spells a decimal, with a fraction or a power of ten. -/
def SpellsFloat (text : List Char) (decimal : Decimal) : Prop :=
  ∃ spelling : Spelling text, spelling.decimal = decimal ∧ spelling.isInteger = false

/-- Digits around a point spell a decimal. -/
theorem spellsFloat_point {whole places : List Char} {number : Nat} {exponent : Int}
    (hwhole : IsWhole whole) (hplaces : IsDigits places)
    (hnumber : Nat.ofDigitChars 10 (whole ++ places) 0 = number)
    (hexponent : 0 - (places.length : Int) = exponent) :
    SpellsFloat (whole ++ '.' :: places) ⟨number, exponent⟩ := by
  rw [← hnumber, ← hexponent]
  exact ⟨⟨whole, _, _, [], none, hwhole, .some places hplaces, .none, by rw [List.append_nil]⟩,
    rfl, rfl⟩

/-- A digit, perhaps more digits after a point, and a power of ten spell a decimal. -/
theorem spellsFloat_power {digits : List Char} {number : Nat} (power : Int)
    (h : Significant digits) (hnumber : Nat.ofDigitChars 10 digits 0 = number) :
    SpellsFloat (digits.take 1 ++ (if digits.length = 1 then [] else '.' :: digits.drop 1) ++
      'e' :: (if power < 0 then '-' else '+') :: Nat.toDigits 10 power.natAbs)
      ⟨number, power - (digits.drop 1).length⟩ := by
  have hwhole := h.isWhole_take Nat.one_pos
  have hpower := power_toDigits power
  rw [List.append_assoc, ← hnumber]
  -- A single digit is written without a point.
  split
  · next hone =>
      obtain ⟨digit, rfl⟩ := List.length_eq_one_iff.1 hone
      exact ⟨⟨_, [], none, _, _, hwhole, .none, hpower, rfl⟩, rfl, rfl⟩
  · next hone =>
      have hpos := List.length_pos_iff.2 h.ne_nil
      have hplaces := h.isDigits_drop (show 1 < digits.length by omega)
      refine ⟨⟨_, _, _, _, _, hwhole, .some _ hplaces, hpower, rfl⟩, ?_, rfl⟩
      show Decimal.mk (Nat.ofDigitChars 10 (digits.take 1 ++ digits.drop 1) 0) _ = _
      rw [List.take_append_drop]
      rfl

/-- The layout of a decimal spells it. -/
theorem spellsFloat_layout {decimal : Decimal} (h : decimal.digits ≠ 0) :
    SpellsFloat decimal.layout decimal.spelled := by
  have hdigits := significant_toDigits h
  have hvalue : Nat.ofDigitChars 10 (Nat.toDigits 10 decimal.digits) 0 = decimal.digits :=
    Nat.ofDigitChars_ten_toDigits
  unfold Decimal.layout Decimal.spelled
  generalize Nat.toDigits 10 decimal.digits = digits at hdigits hvalue
  have hpos := List.length_pos_iff.2 hdigits.ne_nil
  obtain ⟨number, exponent⟩ := decimal
  dsimp only at hvalue ⊢
  by_cases hpoint : 0 < digits.length + exponent ∧ digits.length + exponent ≤ 16
  · rw [if_pos hpoint]
    by_cases hinside : digits.length + exponent < digits.length
    · -- The point stands among the digits.
      rw [if_pos hinside, if_neg (by omega)]
      refine spellsFloat_point (hdigits.isWhole_take (by omega)) (hdigits.isDigits_drop (by omega))
        (by rw [List.take_append_drop, hvalue]) ?_
      rw [List.length_drop]
      omega
    · -- Zeros stand between the digits and the point.
      obtain ⟨power, rfl⟩ : ∃ power : Nat, exponent = power := ⟨exponent.toNat, by omega⟩
      rw [if_neg hinside, if_pos (by omega), Int.toNat_natCast]
      refine spellsFloat_point (hdigits.isWhole_append_zeros power) ⟨by decide, by decide⟩ ?_ rfl
      rw [List.append_assoc, ← List.replicate_succ', Nat.ofDigitChars_append, hvalue,
        Nat.ofDigitChars_replicate_zero, Nat.mul_comm]
  · rw [if_neg hpoint, if_neg (show ¬ (0 ≤ exponent ∧ digits.length + exponent ≤ 16) by omega)]
    by_cases hzeros : -5 < digits.length + exponent ∧ digits.length + exponent ≤ 0
    · -- Zeros stand between the point and the digits.
      rw [if_pos hzeros, List.append_assoc]
      show SpellsFloat (['0'] ++ '.' :: (List.replicate _ '0' ++ digits)) _
      refine spellsFloat_point (isWhole_toDigits 0) (hdigits.isDigits_zeros_append _) ?_ ?_
      · rw [Nat.ofDigitChars_append, show Nat.ofDigitChars 10 ['0'] 0 = 0 from rfl,
          Nat.ofDigitChars_append, Nat.ofDigitChars_replicate_zero, Nat.mul_zero, hvalue]
      · rw [List.length_append, List.length_replicate]
        omega
    · have hsign : (if digits.length + exponent < 1 then '-' else '+') =
          if digits.length + exponent - 1 < 0 then '-' else '+' := if_congr (by omega) rfl rfl
      have hpower := spellsFloat_power (digits.length + exponent - 1) hdigits hvalue
      have hexponent : digits.length + exponent - 1 - (digits.drop 1).length = exponent := by
        rw [List.length_drop]
        omega
      rw [hexponent] at hpower
      rw [if_neg hzeros, hsign]
      exact hpower

/-- The spelled decimal has the same nearest double. -/
theorem ofDecimal_spelled (negative : Bool) (decimal : Decimal) :
    Binary64.ofDecimal negative decimal.spelled = Binary64.ofDecimal negative decimal := by
  obtain ⟨digits, exponent⟩ := decimal
  unfold Decimal.spelled
  dsimp only
  split
  · next hzeros =>
      obtain ⟨power, rfl⟩ : ∃ power : Nat, exponent = power := ⟨exponent.toNat, by omega⟩
      rw [Int.toNat_natCast]
      exact Binary64.ofDecimal_shift negative digits (by omega)
  · rfl

/-- The spelled decimal is moderate too. -/
theorem moderate_spelled {decimal : Decimal} (h : decimal.Moderate) : decimal.spelled.Moderate := by
  obtain ⟨digits, exponent⟩ := decimal
  unfold Decimal.spelled
  dsimp only
  split
  · next hzeros =>
      obtain ⟨power, rfl⟩ : ∃ power : Nat, exponent = power := ⟨exponent.toNat, by omega⟩
      rw [Int.toNat_natCast]
      have hpos : 0 < (Nat.toDigits 10 digits).length := List.length_pos_iff.2 Nat.toDigits_ne_nil
      have hlt : digits < 10 ^ (Nat.toDigits 10 digits).length :=
        (Nat.length_toDigits_le_iff (by decide) hpos).1 (Nat.le_refl _)
      refine .of_nonpos ?_ (Int.neg_nonpos_of_nonneg (Int.natCast_nonneg 1))
      calc digits * 10 ^ (power + 1)
          < 10 ^ (Nat.toDigits 10 digits).length * 10 ^ (power + 1) :=
            Nat.mul_lt_mul_of_pos_right hlt (Nat.pow_pos (by decide))
        _ = 10 ^ ((Nat.toDigits 10 digits).length + (power + 1)) := (Nat.pow_add _ _ _).symm
        _ ≤ 10 ^ 17 := Nat.pow_le_pow_right (by decide) (by omega)
  · exact h

/-! ## Texts of numbers -/

/-- Digits alone spell an integer. -/
theorem exists_spelling_toDigits (magnitude : Nat) :
    ∃ spelling : Spelling (Nat.toDigits 10 magnitude),
      spelling.decimal = ⟨magnitude, 0⟩ ∧ spelling.isInteger = true := by
  refine ⟨⟨_, [], none, [], none, isWhole_toDigits magnitude, .none, .none, by simp⟩, ?_, rfl⟩
  rw [Spelling.decimal]
  dsimp only
  rw [Option.getD_none, List.append_nil, Nat.ofDigitChars_ten_toDigits]
  rfl

/-- The text of an integer is its sign and its digits. -/
theorem text_integer (whole : Int) : (Number.integer whole).text =
    if decide (whole < 0) then '-' :: Nat.toDigits 10 whole.natAbs
    else Nat.toDigits 10 whole.natAbs := by
  cases whole with
  | ofNat magnitude => rfl
  | negSucc magnitude => exact (if_pos (decide_eq_true (Int.negSucc_lt_zero magnitude))).symm

/-- The text of a finite double other than zero is its sign and the layout of its shortest
decimal. -/
theorem text_float (negative : Bool) {rank : Fin (2047 * 2 ^ 52)} (h : rank.val ≠ 0) :
    (Number.float (.finite negative rank)).text = if negative then
      '-' :: (Decimal.shortest rank).layout else (Decimal.shortest rank).layout := by
  have hdecimal : (if rank.val = 0 then ⟨0, 0⟩ else Decimal.shortest rank) =
      Decimal.shortest rank := if_neg h
  rw [Number.text, Binary64.floatText?, hdecimal, Option.getD_some]

/-- The text of a finite number is a sign and a moderate decimal. The double nearest to that is the
number, up to the sign of zero. -/
theorem exists_spelling {value : Binary64} (hfinite : value.isFinite = true) :
    ∃ negative text, ∃ spelling : Spelling text,
      (Number.ofBinary64 value).text = (if negative then '-' :: text else text) ∧
      spelling.decimal.Moderate ∧
      Binary64.ofDecimal negative spelling.decimal = value.unsignZero := by
  obtain ⟨whole, hwhole, hsmall, hnumber⟩ | ⟨negative, rank, hrank, rfl, hnumber⟩ :=
    Reader.ofBinary64_cases hfinite
  · obtain ⟨spelling, hdecimal, -⟩ := exists_spelling_toDigits whole.natAbs
    have hvalue : Binary64.ofDecimal (decide (whole < 0)) ⟨whole.natAbs, 0⟩ = value.unsignZero := by
      rw [← Binary64.ofInt_of_toInt? hwhole, Binary64.ofDecimal_eq_ofRatio, Int.toNat_zero,
        Nat.pow_zero, Nat.mul_one, Int.neg_zero, Int.toNat_zero, Nat.pow_zero, Binary64.ofInt]
    refine ⟨decide (whole < 0), _, spelling, ?_, ?_, by rw [hdecimal, hvalue]⟩
    · rw [hnumber, text_integer]
    · rw [hdecimal]
      exact .of_nonpos (Nat.lt_of_le_of_lt hsmall (by decide)) (Int.le_refl 0)
  · have hback := Binary64.shortest_readsBack rank
    obtain ⟨spelling, hdecimal, -⟩ :=
      spellsFloat_layout (Binary64.digits_ne_zero_of_readsBack hback hrank)
    refine ⟨negative, _, spelling, ?_, ?_, ?_⟩
    · rw [hnumber, text_float negative hrank]
    · rw [hdecimal]
      exact moderate_spelled (Binary64.moderate_shortest hrank)
    · rw [hdecimal, ofDecimal_spelled, Binary64.ofDecimal_of_readsBack hback,
        Binary64.unsignZero_finite hrank]

/-- Finite numbers with the same text are the same, up to the sign of zero. -/
theorem unsignZero_eq_of_text {value other : Binary64} (hfinite : value.isFinite = true)
    (hother : other.isFinite = true)
    (h : (Number.ofBinary64 value).text = (Number.ofBinary64 other).text) :
    value.unsignZero = other.unsignZero := by
  obtain ⟨negative, text, spelling, htext, -, hvalue⟩ := exists_spelling hfinite
  obtain ⟨negative', text', spelling', htext', -, hvalue'⟩ := exists_spelling hother
  rw [htext, htext'] at h
  -- Only the sign could start with a sign.
  obtain ⟨rfl, rfl⟩ : negative = negative' ∧ text = text' := by
    cases negative with
    | true =>
        cases negative' with
        | true => exact ⟨rfl, (List.cons.inj h).2⟩
        | false => exact absurd h (spelling'.sign_cons_ne text)
    | false =>
        cases negative' with
        | true => exact absurd h.symm (spelling.sign_cons_ne text')
        | false => exact ⟨rfl, h⟩
  rw [← hvalue, ← hvalue', spelling.decimal_unique spelling']

end Json

/-! ## What is read of a number that was written -/

/-- The number that the text of a number is read as. -/
def Binary64.reread (value : Binary64) : Binary64 :=
  match Json.Reader.number (Json.Number.ofBinary64 value).text with
  | .ok (read, _) => read
  | .error _ => value

/-- The text of a number is read as that number, up to the sign of zero. -/
def Binary64.ReadsBack (value : Binary64) : Prop :=
  value.reread = value.unsignZero

instance (value : Binary64) : Decidable value.ReadsBack :=
  inferInstanceAs (Decidable (_ = _))

namespace Json.Reader

section Spelled

variable {value : Binary64} {negative : Bool} {text rest : List Char} (spelling : Spelling text)
  (hmoderate : spelling.decimal.Moderate)

include hmoderate

/-- A moderate decimal is read with its sign, whatever stands after it. -/
theorem headAfterBlanks_spelling (hrest : NumberEnds rest) :
    headAfterBlanks ((if negative then '-' :: text else text) ++ rest) =
      .ok (.number (spelling.number negative), rest) := by
  obtain ⟨first, others, htext, hdigit⟩ := spelling.head
  have hsigned := headAfterBlanks_signed
    ⟨first, others ++ rest, by rw [htext, List.cons_append], hdigit⟩
    (spelling.unsignedNumber negative hmoderate hrest)
  cases negative with
  | true => exact hsigned
  | false => exact hsigned

/-- What is read of a number depends on its spelling alone. -/
theorem reread_eq
    (htext : (Number.ofBinary64 value).text = if negative then '-' :: text else text) :
    value.reread = (spelling.number negative).toBinary64 := by
  have hhead : head ((Number.ofBinary64 value).text ++ []) =
      .ok (.number (spelling.number negative), []) := by
    refine (head_blanks noBlanks (startsValue_number _ []).stops).trans ?_
    rw [htext]
    exact headAfterBlanks_spelling spelling hmoderate Text.stops_nil
  rw [List.append_nil] at hhead
  have hnumber : number (Number.ofBinary64 value).text =
      .ok ((spelling.number negative).toBinary64, []) := bind_ok hhead
  rw [Binary64.reread, hnumber]

end Spelled

variable {value : Binary64} {rest : List Char}

/-- The text of a finite number is read as the same number, whatever stands after it. -/
theorem exists_headAfterBlanks_text (hfinite : value.isFinite = true) :
    ∃ read : Number, read.toBinary64 = value.reread ∧ ∀ {rest}, NumberEnds rest →
      headAfterBlanks ((Number.ofBinary64 value).text ++ rest) = .ok (.number read, rest) := by
  obtain ⟨negative, text, spelling, htext, hmoderate, -⟩ := exists_spelling hfinite
  refine ⟨_, (reread_eq spelling hmoderate htext).symm, fun hrest => ?_⟩
  rw [htext]
  exact headAfterBlanks_spelling spelling hmoderate hrest

/-- The text of a finite number is read as a number. -/
theorem number_text (hfinite : value.isFinite = true) (hrest : NumberEnds rest) :
    number ((Number.ofBinary64 value).text ++ rest) = .ok (value.reread, rest) := by
  obtain ⟨read, hread, hhead⟩ := exists_headAfterBlanks_text hfinite
  rw [← hread]
  exact bind_ok ((head_blanks noBlanks (startsValue_number _ rest).stops).trans (hhead hrest))

end Json.Reader

namespace Binary64

open Json Json.Reader

/-- Whole numbers of moderate size read back. -/
theorem readsBack_of_toInt? {value : Binary64} {whole : Int} (h : value.toInt? = some whole)
    (hsmall : whole.natAbs ≤ largestInteger) : value.ReadsBack := by
  obtain ⟨spelling, hdecimal, hinteger⟩ := exists_spelling_toDigits whole.natAbs
  have hmoderate : spelling.decimal.Moderate := by
    rw [hdecimal]
    exact .of_nonpos (Nat.lt_of_le_of_lt hsmall (by decide)) (Int.le_refl 0)
  have htext : (Number.ofBinary64 value).text = if decide (whole < 0) then
      '-' :: Nat.toDigits 10 whole.natAbs else Nat.toDigits 10 whole.natAbs := by
    rw [Number.ofBinary64, h, ← text_integer]
    exact congrArg Number.text (if_pos hsmall)
  have hfits : whole.natAbs ≤ 2 ^ 63 := Nat.le_trans hsmall (by decide)
  have hnumber : spelling.number (decide (whole < 0)) = .integer whole := by
    rw [spelling.number_eq _ (Nat.lt_trans hmoderate.digits_lt (by decide)), if_pos hinteger,
      hdecimal]
    cases whole with
    | ofNat magnitude => rfl
    | negSucc magnitude =>
        exact (if_pos (decide_eq_true (Int.negSucc_lt_zero magnitude))).trans
          (if_pos ⟨Nat.succ_pos magnitude, hfits⟩)
  rw [ReadsBack, reread_eq spelling hmoderate htext, hnumber]
  exact ofInt_of_toInt? h

/-- Numbers whose shortest decimal has few digits and a small power of ten read back. -/
theorem readsBack_of_few_digits (negative : Bool) {rank : Fin (2047 * 2 ^ 52)}
    (hdigits : (Decimal.shortest rank).spelled.digits < 2 ^ 53)
    (hexponent : (Decimal.shortest rank).spelled.exponent.natAbs ≤ 22) :
    (finite negative rank).ReadsBack := by
  obtain ⟨whole, hwhole, hsmall, -⟩ | ⟨_, _, hrank, hsame, hnumber⟩ :=
    @ofBinary64_cases (.finite negative rank) rfl
  · exact readsBack_of_toInt? hwhole hsmall
  · obtain ⟨rfl, rfl⟩ := finite.inj hsame
    have hback := shortest_readsBack rank
    obtain ⟨spelling, hdecimal, hfloat⟩ :=
      spellsFloat_layout (digits_ne_zero_of_readsBack hback hrank)
    have hmoderate : spelling.decimal.Moderate := by
      rw [hdecimal]
      exact moderate_spelled (moderate_shortest hrank)
    have htext := text_float negative hrank
    rw [← hnumber] at htext
    rw [ReadsBack, reread_eq spelling hmoderate htext,
      spelling.number_eq _ (Nat.lt_trans hmoderate.digits_lt (by decide)), hfloat,
      if_neg Bool.false_ne_true, hdecimal, Number.toBinary64,
      approximate_eq_ofDecimal negative hdigits hexponent, ofDecimal_spelled,
      ofDecimal_of_readsBack hback, unsignZero_finite hrank]

/-- The largest double below one is read as one. -/
example : (finite false ⟨1023 * 2 ^ 52 - 1, by decide⟩).reread = ofNat 1 := by
  decide +kernel

end Binary64

end HostScript

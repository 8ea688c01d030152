import HostScript.Proofs.Binary64.Rounding
import HostScript.Proofs.Json.Reading
import Mathlib.Data.List.Basic

/-!
# Numbers in text

The readers of the parts of a number take runs of digits, and a number is read from its parts
(`unsignedNumber_parts`). Every text of a number starts with a digit or a sign. A finite number is
written as a number of the same value, up to the sign of zero (`toBinary64_ofBinary64`).
-/

namespace HostScript.Json

/-! ## Digits -/

/-- The digits of a number are decimal digits. -/
theorem isDigit_of_mem_toDigits {number : Nat} {char : Char}
    (h : char ∈ Nat.toDigits 10 number) : char.isDigit = true :=
  Nat.isDigit_of_mem_toDigits (by decide) (by decide) h

/-- The digits of a number other than zero start with another digit than zero. -/
theorem head_toDigits_ne {number : Nat} (h : number ≠ 0) :
    (Nat.toDigits 10 number).head? ≠ some '0' := by
  induction number using Nat.strongRecOn with
  | ind number ih =>
      rcases Nat.lt_or_ge number 10 with hsmall | hlarge
      · rw [Nat.toDigits_of_lt_base hsmall]
        simpa using h
      · rw [Nat.toDigits_of_base_le (by decide) hlarge, List.head?_append_of_ne_nil _
          Nat.toDigits_ne_nil]
        exact ih (number / 10) (Nat.div_lt_self (by omega) (by decide)) (by omega)

/-- What may stand before the point of a number: a zero alone, or digits that do not start with
one. -/
def IsWhole (digits : List Char) : Prop :=
  digits ≠ [] ∧ (∀ char ∈ digits, char.isDigit = true) ∧
    (digits = ['0'] ∨ digits.head? ≠ some '0')

/-- Zeros are digits. -/
theorem isDigit_of_mem_zeros {count : Nat} :
    ∀ char ∈ List.replicate count '0', char.isDigit = true := by
  intro char hchar
  rw [List.eq_of_mem_replicate hchar]
  rfl

/-- Two texts of digits after each other are one. -/
theorem isDigit_of_mem_append {left right : List Char}
    (hleft : ∀ char ∈ left, char.isDigit = true) (hright : ∀ char ∈ right, char.isDigit = true) :
    ∀ char ∈ left ++ right, char.isDigit = true := fun char hchar =>
  (List.mem_append.1 hchar).elim (hleft char) (hright char)

/-- The digits of a number may stand before a point. -/
theorem isWhole_toDigits (number : Nat) : IsWhole (Nat.toDigits 10 number) := by
  refine ⟨Nat.toDigits_ne_nil, fun char => isDigit_of_mem_toDigits, ?_⟩
  by_cases hzero : number = 0
  · exact .inl (by rw [hzero, Nat.toDigits_zero])
  · exact .inr (head_toDigits_ne hzero)

namespace Reader

/-- A run of digits is read whole. -/
theorem digits_run {run rest : List Char} (hne : run ≠ [])
    (hrun : ∀ char ∈ run, char.isDigit = true)
    (hrest : Text.Stops Char.isDigit rest) : digits (run ++ rest) = .ok (run, rest) := by
  unfold digits
  rw [Text.takeWhile_run hrun hrest, Text.dropWhile_run hrun hrest,
    if_neg (by simpa using hne)]

/-- The digits before the point are read whole. -/
theorem integerDigits_run {run rest : List Char} (h : IsWhole run)
    (hrest : Text.Stops Char.isDigit rest) : integerDigits (run ++ rest) = .ok (run, rest) := by
  obtain ⟨hne, hdigits, hzero⟩ := h
  unfold integerDigits
  split
  · next char text heq =>
      rcases hzero with rfl | hhead
      · obtain rfl : rest = char :: text := (List.cons.inj heq).2
        have hchar : char.isDigit = false := hrest char rfl
        rw [hchar, if_neg (by decide)]
      · rw [← List.head?_append_of_ne_nil run hne, heq] at hhead
        exact absurd rfl hhead
  · exact digits_run hne hdigits hrest

/-- A point with digits after it is a fraction. -/
theorem fractionDigits_point {run rest : List Char} (hne : run ≠ [])
    (hrun : ∀ char ∈ run, char.isDigit = true) (hrest : Text.Stops Char.isDigit rest) :
    fractionDigits ('.' :: (run ++ rest)) = .ok (some run, rest) := by
  show (digits (run ++ rest) >>= fun result => pure (some result.1, result.2)) = _
  rw [digits_run hne hrun hrest]
  rfl

/-- Without a point there is no fraction. -/
theorem fractionDigits_none {rest : List Char} (h : Text.Stops (· == '.') rest) :
    fractionDigits rest = .ok (none, rest) := by
  unfold fractionDigits
  split
  · exact absurd (h '.' rfl) (by decide)
  · rfl

/-- Without a mark there is no exponent. -/
theorem exponent_none {rest : List Char}
    (h : Text.Stops (fun char => char == 'e' || char == 'E') rest) :
    exponent rest = .ok (none, rest) := by
  unfold exponent
  split
  · next char text =>
      have hmark := Text.stops_cons.1 h
      simp only [Bool.or_eq_false_iff, beq_eq_false_iff_ne] at hmark
      rw [if_neg (by rintro (h | h); exacts [hmark.1 h, hmark.2 h])]
  · rfl

/-- Nothing here continues a number. -/
def NumberEnds (rest : List Char) : Prop :=
  Text.Stops (fun char => char.isDigit || ['.', 'e', 'E'].contains char) rest

/-- No digit continues a number that ends. -/
theorem NumberEnds.digit {rest : List Char} (h : NumberEnds rest) :
    Text.Stops Char.isDigit rest := by
  intro char hchar
  have hall := h char hchar
  simp only [Bool.or_eq_false_iff] at hall
  exact hall.1

/-- No point continues a number that ends. -/
theorem NumberEnds.point {rest : List Char} (h : NumberEnds rest) :
    Text.Stops (· == '.') rest := by
  intro char hchar
  have hall := h char hchar
  simp only [List.contains_cons, Bool.or_eq_false_iff] at hall
  exact hall.2.1

/-- No exponent continues a number that ends. -/
theorem NumberEnds.mark {rest : List Char} (h : NumberEnds rest) :
    Text.Stops (fun char => char == 'e' || char == 'E') rest := by
  intro char hchar
  have hall := h char hchar
  simp only [List.contains_cons, Bool.or_eq_false_iff] at hall ⊢
  exact ⟨hall.2.2.1, hall.2.2.2.1⟩

/-- A number is read from its parts. -/
theorem unsignedNumber_parts {negative : Bool}
    {whole text afterWhole afterFraction rest : List Char}
    {fraction : Option (List Char)} {power : Option Int}
    (hwhole : integerDigits text = .ok (whole, afterWhole))
    (hfraction : fractionDigits afterWhole = .ok (fraction, afterFraction))
    (hpower : exponent afterFraction = .ok (power, rest))
    (hrange : (Number.ofParts negative whole fraction power).inRange = true) :
    unsignedNumber negative text = .ok (.ofParts negative whole fraction power, rest) := by
  unfold unsignedNumber
  rw [bind_ok hwhole, bind_ok hfraction, bind_ok hpower, if_pos hrange]
  rfl

/-! ## Numbers of a tree -/

/-- A digit starts a number without a sign. -/
theorem headAfterBlanks_digit {first : Char} {text : List Char} (h : first.isDigit = true) :
    headAfterBlanks (first :: text) =
      (Head.number <$> unsignedNumber false : Reader Head) (first :: text) := by
  have hne : ∀ other ∈ ['n', 't', 'f', '"', '-'], first ≠ other :=
    Text.ne_of_class h (by decide)
  rw [headAfterBlanks, if_neg (hne 'n' (by decide)), if_neg (hne 't' (by decide)),
    if_neg (hne 'f' (by decide)), if_neg (hne '"' (by decide)), if_neg (hne '-' (by decide)),
    if_pos h]

/-- Digits start with a digit. -/
theorem head_toDigits (magnitude : Nat) :
    ∃ first others, Nat.toDigits 10 magnitude = first :: others ∧ first.isDigit = true := by
  obtain ⟨first, others, hdigits⟩ := List.exists_cons_of_ne_nil
    (Nat.toDigits_ne_nil (n := magnitude) (b := 10))
  exact ⟨first, others, hdigits, isDigit_of_mem_toDigits (hdigits ▸ List.mem_cons_self)⟩

/-- The text of a number, after its sign, starts with a digit. -/
theorem head_layout (decimal : Decimal) :
    ∃ first others, decimal.layout = first :: others ∧ first.isDigit = true := by
  obtain ⟨first, others, hdigits, hfirst⟩ := head_toDigits decimal.digits
  unfold Decimal.layout
  rw [hdigits]
  dsimp only
  split
  · next hpoint =>
      split
      · obtain ⟨less, hless⟩ : ∃ less : Nat,
            (((first :: others).length : Int) + decimal.exponent).toNat = less + 1 :=
          ⟨_, (Nat.succ_pred_eq_of_pos (by omega)).symm⟩
        rw [hless]
        exact ⟨first, _, rfl, hfirst⟩
      · exact ⟨first, _, rfl, hfirst⟩
  · split
    · exact ⟨'0', _, rfl, rfl⟩
    · exact ⟨first, _, rfl, hfirst⟩

/-- Signed text is read as a number of that sign. -/
theorem headAfterBlanks_signed {negative : Bool} {text rest : List Char} {number : Number}
    (hfirst : ∃ first others, text = first :: others ∧ first.isDigit = true)
    (h : unsignedNumber negative text = .ok (number, rest)) :
    headAfterBlanks (if negative then '-' :: text else text) = .ok (.number number, rest) := by
  cases negative with
  | true => exact map_ok h
  | false =>
      obtain ⟨first, others, rfl, hdigit⟩ := hfirst
      rw [if_neg (by decide), headAfterBlanks_digit hdigit]
      exact map_ok h

/-- A finite number is written as an integer of moderate size, or as a float that is not zero: both
zeros are written as the integer zero. -/
theorem ofBinary64_cases {value : Binary64} (hfinite : value.isFinite = true) :
    (∃ whole, value.toInt? = some whole ∧ whole.natAbs ≤ largestInteger ∧
      Number.ofBinary64 value = .integer whole) ∨
    ∃ negative rank, rank.val ≠ 0 ∧ value = .finite negative rank ∧
      Number.ofBinary64 value = .float value := by
  cases value with
  | nan => cases hfinite
  | infinite => cases hfinite
  | finite negative rank =>
      unfold Number.ofBinary64
      by_cases hrank : rank.val = 0
      · rw [Binary64.toInt?_zero hrank]
        exact .inl ⟨0, rfl, Nat.zero_le _, if_pos (Nat.zero_le _)⟩
      · split
        · next whole hwhole =>
            split
            · next hsmall => exact .inl ⟨whole, hwhole, hsmall, rfl⟩
            · exact .inr ⟨negative, rank, hrank, rfl, rfl⟩
        · exact .inr ⟨negative, rank, hrank, rfl, rfl⟩

/-- A finite number is written as one with the same value, up to the sign of zero. -/
theorem toBinary64_ofBinary64 {value : Binary64} (hfinite : value.isFinite = true) :
    (Number.ofBinary64 value).toBinary64 = value.unsignZero := by
  obtain ⟨whole, hwhole, -, hnumber⟩ | ⟨negative, rank, hrank, rfl, hnumber⟩ :=
    ofBinary64_cases hfinite
  · rw [hnumber]
    exact Binary64.ofInt_of_toInt? hwhole
  · rw [hnumber]
    exact (Binary64.unsignZero_finite hrank).symm

end Reader

/-- A finite number is a number of the tree. -/
theorem ofBinary64_of_isFinite {value : Binary64} (h : value.isFinite = true) :
    ofBinary64 value = .number (.ofBinary64 value) := by
  cases value with
  | nan => cases h
  | infinite => cases h
  | finite negative rank => rfl

/-- Any other number is null in the tree. -/
theorem ofBinary64_of_not_isFinite {value : Binary64} (h : value.isFinite ≠ true) :
    ofBinary64 value = .null := by
  cases value with
  | nan => rfl
  | infinite => rfl
  | finite negative rank => exact absurd rfl h

end HostScript.Json

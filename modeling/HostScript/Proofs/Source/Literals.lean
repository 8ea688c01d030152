import HostScript.Proofs.Binary64.Rounding
import HostScript.Proofs.Source.Lexemes

/-!
# Literals of numbers

Literals have no exponent, so a literal for every finite double needs all digits of its decimal
expansion. `exactLiteral` writes them, and it reads back (`exactLiteral_readsBack`).
-/

namespace HostScript

open Grammar

/-- Every finite number has a literal that is read whole and reads back as that number. -/
def LiteralsReadBack (literal : Binary64 → String) : Prop :=
  ∀ value : Binary64, value.isFinite = true →
    ∃ next, Parser.number (.ofString (literal value)) = (some value, next) ∧ next.isAtEnd = true

/-- A literal that reads back is one of the grammar. -/
theorem LiteralsReadBack.literal {literal : Binary64 → String} (h : LiteralsReadBack literal)
    {value : Binary64} (hfinite : value.isFinite = true) :
    Literal (literal value).toList value := by
  obtain ⟨next, hnumber, hend⟩ := h value hfinite
  obtain ⟨text, hliteral, htext⟩ := Parser.number_sound hnumber
  rw [List.isEmpty_iff.1 hend, List.append_nil] at htext
  rwa [← htext] at hliteral

/-- Digits with a point before the last `places` of them, after as many zeros as that takes. -/
def pointed (places : Nat) (digits : List Char) : List Char :=
  (List.replicate places '0' ++ digits).take digits.length ++
    '.' :: (List.replicate places '0' ++ digits).drop digits.length

/-- The digits around a point are an unsigned number of the grammar. -/
theorem unsigned_pointed (places : Nat) {digits : List Char} (hne : digits ≠ [])
    (hdigits : ∀ char ∈ digits, char.isDigit = true) :
    ∃ whole fraction, Unsigned (pointed places digits) whole fraction ∧
      Nat.ofDigitChars 10 (whole ++ fraction) 0 = Nat.ofDigitChars 10 digits 0 ∧
      fraction.length = places := by
  have hpadded : ∀ char ∈ List.replicate places '0' ++ digits, char.isDigit = true := by
    intro char hchar
    rcases List.mem_append.1 hchar with hzero | hdigit
    · rw [List.eq_of_mem_replicate hzero]
      rfl
    · exact hdigits char hdigit
  have hlength : (List.replicate places '0' ++ digits).length = places + digits.length := by
    rw [List.length_append, List.length_replicate]
  refine ⟨_, _, .point _ _ ?_ ?_ ?_, ?_, ?_⟩
  · have hpos := List.length_pos_iff.2 hne
    refine List.ne_nil_of_length_pos ?_
    rw [List.length_take, hlength]
    omega
  · exact fun char hchar => hpadded char (List.mem_of_mem_take hchar)
  · exact fun char hchar => hpadded char (List.mem_of_mem_drop hchar)
  · rw [List.take_append_drop, Nat.ofDigitChars_append, Nat.ofDigitChars_replicate_zero,
      Nat.mul_zero]
  · rw [List.length_drop, hlength, Nat.add_sub_cancel]

/-- The literal with all digits of a finite number. -/
def exactLiteral : Binary64 → String
  | .finite negative rank =>
    String.ofList ((if negative then ['-'] else []) ++
      pointed 1074 (Nat.toDigits 10 (Decimal.exact (Binary64.scaled rank.val)).digits))
  | _ => ""

/-- The literal with all digits is one of the grammar. -/
theorem literal_exactLiteral (negative : Bool) (rank : Fin (2047 * 2 ^ 52)) :
    Literal (exactLiteral (.finite negative rank)).toList (.finite negative rank) := by
  have hvalue := Binary64.ofDecimal_exact negative rank
  rw [exactLiteral, String.toList_ofList]
  generalize hexact : Decimal.exact (Binary64.scaled rank.val) = decimal at hvalue ⊢
  obtain ⟨whole, fraction, hunsigned, hdigits, hlength⟩ :=
    @unsigned_pointed 1074 (Nat.toDigits 10 decimal.digits) Nat.toDigits_ne_nil
      fun char hchar => Nat.isDigit_of_mem_toDigits (by decide) (by decide) hchar
  have hsign : Sign (if negative then ['-'] else []) negative := by
    cases negative with
    | false => exact .none
    | true => exact .minus
  have hexponent : -(fraction.length : Int) = decimal.exponent := by
    rw [hlength, ← hexact, Decimal.exact]
    rfl
  refine ⟨_, negative, _, whole, fraction, hsign, hunsigned, rfl, rfl, ?_⟩
  rw [hdigits, Nat.ofDigitChars_ten_toDigits, hexponent, hvalue]

/-- The literals with all digits read back. -/
theorem exactLiteral_readsBack : LiteralsReadBack exactLiteral := by
  intro value hfinite
  cases value with
  | nan => cases hfinite
  | infinite => cases hfinite
  | finite negative rank =>
      have htakes := Parser.takes_number (literal_exactLiteral negative rank) Text.stops_nil
      rw [List.append_nil] at htakes
      obtain ⟨next, hnext, hnumber⟩ := htakes (.ofString _) rfl
      exact ⟨next, hnumber, List.isEmpty_iff.2 hnext⟩

end HostScript

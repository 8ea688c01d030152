import HostScript.Proofs.Json.Truncation
import HostScript.Proofs.Json.WrittenNumbers

/-!
# Numbers that are cut off

What is left of a number that was cut off is a number too, or the text ends where a digit must
stand (`unsignedNumber_front`). It stays in the range of doubles, because it has no more digits and
no larger power of ten than the number that was written. So a number streams together with the
bracket that closes its list (`number_close_streams`).
-/

namespace HostScript.Json

open Grammar (Sign)

/-! ## Fronts of numbers -/

variable {front more : List Char}

/-- The first few digits are not a larger number. -/
theorem ofDigitChars_le_of_front {shorter longer : List Char} (h : shorter <+: longer) :
    Nat.ofDigitChars 10 shorter 0 ≤ Nat.ofDigitChars 10 longer 0 := by
  obtain ⟨others, rfl⟩ := h
  rw [Nat.ofDigitChars_append]
  exact le_ofDigitChars others _

/-- The front of the digits before a point may stand before a point too. -/
theorem isWhole_of_append (h : IsWhole (front ++ more)) (hne : front ≠ []) : IsWhole front := by
  obtain ⟨-, hdigits, hzero⟩ := h
  refine ⟨hne, fun char hchar => hdigits char (List.mem_append_left more hchar), ?_⟩
  rcases hzero with hzero | hhead
  · obtain ⟨rfl, -⟩ | ⟨rfl, -⟩ := List.append_eq_singleton_iff.1 hzero
    · exact absurd rfl hne
    · exact .inl rfl
  · exact .inr (by rwa [List.head?_append_of_ne_nil _ hne] at hhead)

/-- The front of a fraction is a fraction too, with the first few of the digits, unless it is the
point alone. -/
theorem fraction_of_append {fraction : Option (List Char)} (h : Fraction (front ++ more) fraction) :
    (∃ other, Fraction front other ∧ other.getD [] <+: fraction.getD []) ∨ front = ['.'] := by
  cases front with
  | nil => exact .inl ⟨none, .none, List.nil_prefix⟩
  | cons point digits =>
      cases h with
      | some _ hdigits =>
          by_cases hne : digits = []
          · exact .inr (by rw [hne])
          · exact .inl ⟨some digits, .some digits ⟨hne, fun char hchar =>
              hdigits.2 char (List.mem_append_left more hchar)⟩, List.prefix_append digits more⟩

/-- The front of a power of ten is one too, which is not positive or not larger, unless the digits
are missing. -/
theorem power_of_append {power : Option Int} (h : Power (front ++ more) power) :
    (∃ other, Power front other ∧ (other.getD 0 ≤ 0 ∨
      ∃ smaller larger, other = some smaller ∧ power = some larger ∧ smaller ≤ larger)) ∨
    ∃ mark sign negative, (mark = 'e' ∨ mark = 'E') ∧ Sign sign negative ∧
      front = mark :: sign := by
  cases front with
  | nil => exact .inl ⟨none, .none, .inl (Int.le_refl 0)⟩
  | cons mark front =>
      rw [List.cons_append] at h
      generalize htail : front ++ more = tail at h
      cases h with
      | some _ sign negative digits hmark hsign hdigits =>
          obtain ⟨found, rfl, rfl⟩ | ⟨missing, hsigned, -⟩ :=
            List.append_eq_append_iff.1 htail.symm
          · by_cases hne : found = []
            · exact .inr ⟨mark, sign, negative, hmark, hsign, by rw [hne, List.append_nil]⟩
            · have hfound : IsDigits found :=
                ⟨hne, fun char hchar => hdigits.2 char (List.mem_append_left more hchar)⟩
              refine .inl ⟨_, .some mark sign negative found hmark hsign hfound, ?_⟩
              cases negative with
              | true => exact .inl (Int.neg_nonpos_of_nonneg (Int.natCast_nonneg _))
              | false =>
                  have hle := ofDigitChars_le_of_front (List.prefix_append found more)
                  exact .inr ⟨_, _, rfl, rfl, Int.ofNat_le.2 hle⟩
          · -- The cut is inside the sign or right before it.
            have hfront : front = [] ∨ front = sign := by
              cases hsign with
              | none => exact .inl (List.append_eq_nil_iff.1 hsigned.symm).1
              | plus | minus =>
                  obtain ⟨rfl, -⟩ | ⟨rfl, -⟩ := List.append_eq_singleton_iff.1 hsigned.symm
                  · exact .inl rfl
                  · exact .inr rfl
            obtain rfl | rfl := hfront
            · exact .inr ⟨mark, [], false, hmark, .none, rfl⟩
            · exact .inr ⟨mark, front, negative, hmark, hsign, rfl⟩

namespace Reader

/-- Where the digits of a power of ten are missing, the text has ended. -/
theorem exponent_of_sign {mark : Char} {sign : List Char} {negative : Bool}
    (hmark : mark = 'e' ∨ mark = 'E') (hsign : Sign sign negative) :
    exponent (mark :: sign) = .error .endOfText := by
  unfold exponent
  dsimp only
  rw [if_pos hmark]
  cases hsign <;> rfl

/-- Where the digits of a power of ten are missing, the number cannot be read. -/
theorem unsignedNumber_of_sign (negative : Bool) {whole fractionText : List Char}
    {fraction : Option (List Char)} (hwhole : IsWhole whole)
    (hfraction : Fraction fractionText fraction) {mark : Char} {sign : List Char} {minus : Bool}
    (hmark : mark = 'e' ∨ mark = 'E') (hsign : Sign sign minus) :
    unsignedNumber negative (whole ++ (fractionText ++ mark :: sign)) = .error .endOfText := by
  have hdigit : Text.Stops Char.isDigit (mark :: sign) := by
    obtain rfl | rfl := hmark <;> exact Text.stops_cons.2 rfl
  have hpoint : Text.Stops (· == '.') (mark :: sign) := by
    obtain rfl | rfl := hmark <;> exact Text.stops_cons.2 rfl
  unfold unsignedNumber
  rw [bind_ok (integerDigits_run hwhole (hfraction.stops hdigit)),
    bind_ok (fractionDigits_complete hfraction hdigit hpoint)]
  exact bind_error (exponent_of_sign hmark hsign)

/-- What is left of a number that was cut off is a number too, or the text ends where a digit must
stand. -/
theorem unsignedNumber_front {negative : Bool} {text front back : List Char}
    (spelling : Spelling text) (h : spelling.decimal.Moderate) (htext : text = front ++ back) :
    unsignedNumber negative front = .error .endOfText ∨
      ∃ other, unsignedNumber negative front = .ok (other, []) := by
  obtain ⟨whole, fractionText, fraction, powerText, power, hwhole, hfraction, hpower, rfl⟩ :=
    spelling
  have hread {shorter : List Char} (spelling : Spelling shorter) (h : spelling.decimal.Moderate) :
      ∃ other, unsignedNumber negative shorter = .ok (other, []) := by
    have hwritten := spelling.unsignedNumber negative h Text.stops_nil
    rw [List.append_nil] at hwritten
    exact ⟨_, hwritten⟩
  -- Without a positive power of ten, no more digits than the whole number has are moderate.
  have hfew {digits : List Char} {exponent : Int} (hdigits : digits <+: whole ++ fraction.getD [])
      (hexponent : exponent ≤ 0) :
      Decimal.Moderate ⟨Nat.ofDigitChars 10 digits 0, exponent⟩ :=
    .of_nonpos (Nat.lt_of_le_of_lt (ofDigitChars_le_of_front hdigits) h.digits_lt) hexponent
  obtain ⟨front, rfl, htail⟩ | ⟨more, rfl, -⟩ := List.append_eq_append_iff.1 htext
  · obtain ⟨front, rfl, rfl⟩ | ⟨more, rfl, -⟩ := List.append_eq_append_iff.1 htail
    · -- The cut is in the power of ten or right before it.
      obtain ⟨other, hother, hsmaller⟩ | ⟨mark, sign, _, hmark, hsign, rfl⟩ :=
        power_of_append hpower
      · refine .inr (hread ⟨whole, fractionText, fraction, front, other, hwhole, hfraction, hother,
          rfl⟩ ?_)
        obtain hnonpos | ⟨smaller, larger, rfl, rfl, hle⟩ := hsmaller
        · exact hfew (List.prefix_refl _) (show other.getD 0 - _ ≤ 0 by omega)
        · exact h.of_le (Int.sub_le_sub_right hle _)
      · exact .inl (unsignedNumber_of_sign negative hwhole hfraction hmark hsign)
    · -- The cut is in the fraction or right before it.
      obtain ⟨other, hother, hprefix⟩ | rfl := fraction_of_append hfraction
      · refine .inr (hread ⟨whole, front, other, [], none, hwhole, hother, .none, by simp⟩ ?_)
        exact hfew ((List.prefix_append_right_inj whole).2 hprefix)
          (show (0 : Int) - (other.getD []).length ≤ 0 by omega)
      · refine .inl ?_
        unfold unsignedNumber
        rw [bind_ok (integerDigits_run hwhole (Text.stops_cons.2 rfl))]
        rfl
  · by_cases hne : front = []
    · rw [hne]
      exact .inl rfl
    · refine .inr (hread ⟨front, [], none, [], none, isWhole_of_append hwhole hne, .none, .none,
        by simp⟩ ?_)
      refine hfew ?_ (Int.le_refl 0)
      rw [Option.getD_none, List.append_nil, List.append_assoc]
      exact List.prefix_append front _

/-- What is left of a written number that was cut off is a number too, or the text has ended. -/
theorem number_front {value : Binary64} (hfinite : value.isFinite = true) {front back : List Char}
    (htext : (Number.ofBinary64 value).text = front ++ back) :
    number front = .error .endOfText ∨ ∃ other, number front = .ok (other, []) := by
  obtain ⟨negative, text, spelling, hwritten, hmoderate, -⟩ := exists_spelling hfinite
  rw [hwritten] at htext
  have hnumber {unsigned : List Char}
      (hhead : head front = (Head.number <$> unsignedNumber negative : Reader Head) unsigned)
      (hunsigned : text = unsigned ++ back) :
      number front = .error .endOfText ∨ ∃ other, number front = .ok (other, []) := by
    obtain hend | ⟨other, hother⟩ := unsignedNumber_front spelling hmoderate hunsigned
    · exact .inl (bind_error (hhead.trans (map_error hend)))
    · exact .inr ⟨other.toBinary64, bind_ok (hhead.trans (map_ok hother))⟩
  cases front with
  | nil => exact .inl rfl
  | cons first front =>
      cases negative with
      | true =>
          obtain ⟨rfl, hunsigned⟩ := List.cons.inj htext
          exact hnumber (head_blanks noBlanks (Text.stops_cons.2 rfl)) hunsigned
      | false =>
          have hdigit : first.isDigit = true := by
            obtain ⟨digit, others, hdigits, hdigit⟩ := spelling.head
            rw [if_neg Bool.false_ne_true, hdigits] at htext
            exact (List.cons.inj htext).1 ▸ hdigit
          have hstarts : StartsValue (first :: front) :=
            ⟨first, front, rfl, startsValue_of_isDigit hdigit⟩
          have hhead := (head_blanks noBlanks hstarts.stops).trans (headAfterBlanks_digit hdigit)
          exact hnumber hhead htext

/-- A written number is streamed together with the bracket that closes its list. -/
theorem number_close_streams {value : Binary64} (hfinite : value.isFinite = true)
    {after rest : List Char} (hends : NumberEnds after)
    (hclose : close ']' after = .ok ((), rest)) :
    Streams (do
      let found ← number
      close ']'
      return found) ((Number.ofBinary64 value).text ++ after) rest value.reread := by
  intro front back htext
  obtain ⟨left, rfl, hafter⟩ | ⟨more, hcut, -⟩ := List.append_eq_append_iff.1 htext
  · -- The number is read, and the bracket decides.
    have hleft : NumberEnds left := by
      rw [hafter] at hends
      exact Text.Stops.of_append hends
    have hstreams : Streams (do close ']'; return value.reread) after rest value.reread :=
      (close_streaming ']' hclose).bind (.pure _ rest)
    rw [bind_ok (number_text hfinite hleft)]
    exact hstreams left back hafter
  · obtain hend | ⟨other, hother⟩ := number_front hfinite hcut
    · exact .inl (bind_error hend)
    · rw [bind_ok hother]
      exact .inl rfl

end Reader

end HostScript.Json

import HostScript.Proofs.Json.Documents

/-!
# Reading the tokens of documents

The readers of strings, numbers and heads succeed exactly on the tokens of the grammar of documents.
What is read is a token (`head_sound`), and a token is read wherever a number cannot go on after it
(`head_complete`).
-/

namespace HostScript.Json

/-- The tree of a head that is a whole value. -/
def Head.tree? : Head → Option Json
  | .null => some .null
  | .boolean value => some (.boolean value)
  | .number value => some (.number value)
  | .string value => some (.string value)
  | .array => none
  | .object => none

/-- A head: a whole scalar or an opening bracket. -/
inductive Opens : (start rest : List Char) → Head → Prop where
  | scalar (start rest found tree) : found.tree? = some tree → Value start rest tree →
      Opens start rest found
  | array (rest) : Opens ('[' :: rest) rest .array
  | object (rest) : Opens ('\x7b' :: rest) rest .object

namespace Reader

open Grammar (Blanks Sign)

variable {α β : Type} {text mid start finish rest : List Char}

/-- A success of a sequence is a success of both parts. -/
theorem bind_success {reader : Reader α} {f : α → Reader β} {result : β}
    (h : (reader >>= f) text = .ok (result, rest)) :
    ∃ value mid, reader text = .ok (value, mid) ∧ f value mid = .ok (result, rest) := by
  cases hfirst : reader text with
  | error error =>
      rw [bind_error hfirst] at h
      cases h
  | ok found =>
      rw [bind_ok (show reader text = .ok (found.1, found.2) from hfirst)] at h
      exact ⟨found.1, found.2, rfl, h⟩

/-- A success of a function applied to what is read is a success of the reader. -/
theorem map_success {reader : Reader α} {f : α → β} {result : β}
    (h : (f <$> reader) text = .ok (result, rest)) :
    ∃ value, reader text = .ok (value, rest) ∧ f value = result := by
  obtain ⟨value, mid, hfirst, hpure⟩ := bind_success (f := fun value => pure (f value)) h
  cases hpure
  exact ⟨value, hfirst, rfl⟩

/-- A success of a sequence in the errors alone is a success of both parts. -/
theorem except_bind_success {first : Except ReadError α} {f : α → Except ReadError β} {result : β}
    (h : (first >>= f) = .ok result) : ∃ value, first = .ok value ∧ f value = .ok result := by
  cases first with
  | error error => cases h
  | ok value => exact ⟨value, rfl, h⟩

/-! ## Strings -/

/-- A character in front of what is read. -/
theorem cons_success {body : Except ReadError (List Char × List Char)} {char : Char}
    {chars : List Char}
    (h : (do let (chars, rest) ← body; return (char :: chars, rest)) = .ok (chars, rest)) :
    ∃ others, body = .ok (others, rest) ∧ chars = char :: others := by
  obtain ⟨⟨others, left⟩, hbody, hrest⟩ := except_bind_success h
  cases hrest
  exact ⟨others, hbody, rfl⟩

/-- What is read as the characters of a string is one. -/
theorem stringBody_sound {chars : List Char} (h : stringBody text = .ok (chars, rest)) :
    Chars text rest chars := by
  fun_induction stringBody text generalizing chars rest with
  | case2 =>
      cases h
      exact .close _
  | case4 a b c d after code hcode hplain ih =>
      obtain ⟨others, hothers, rfl⟩ := cons_success h
      exact .code _ _ _ _ _ _ _ _ hcode hplain (ih hothers)
  | case6 a b c d leading hleading hsurrogate hnotTrailing e f g h others trailing htrailing hrange
      ih =>
      obtain ⟨others, hothers, rfl⟩ := cons_success ‹_›
      exact .pair _ _ _ _ _ _ _ _ _ _ _ _ _ hleading (by omega) (by omega) htrailing hrange.1
        hrange.2 (ih hothers)
  | case11 letter text hnotCode char hletter ih =>
      obtain ⟨others, hothers, rfl⟩ := cons_success h
      exact .letter _ _ _ _ _ hletter (ih hothers)
  | case15 char text hquote _ hescape hend hcontrol ih =>
      obtain ⟨others, hothers, rfl⟩ := cons_success h
      have hslash : char ≠ '\\' := by
        rintro rfl
        cases text with
        | nil => exact hend rfl rfl
        | cons next text => exact hescape next text rfl rfl
      exact .plain _ _ _ _ hquote hslash (Nat.le_of_not_lt hcontrol) (ih hothers)
  | _ => cases h

/-- The characters of a string are read. -/
theorem stringBody_complete {chars : List Char} (h : Chars text rest chars) :
    stringBody text = .ok (chars, rest) := by
  induction h with
  | close rest => rfl
  | plain char text rest chars hquote hslash hcontrol _ ih =>
      exact (stringBody_plain text hquote hslash (Nat.not_lt.2 hcontrol)).trans (map_ok ih)
  | letter letter char text rest chars hletter _ ih =>
      exact (stringBody_letter text hletter).trans (map_ok ih)
  | code a b c d code text rest chars hcode hplain _ ih =>
      exact (stringBody_code text hcode hplain).trans (map_ok ih)
  | pair a b c d e f g h leading trailing text rest chars hleading hlow hhigh htrailing hlow' hhigh'
      _ ih =>
      exact (stringBody_pair text hleading hlow hhigh htrailing ⟨hlow', hhigh'⟩).trans (map_ok ih)

/-! ## Numbers -/

/-- The digits that are read are those in front of the rest. -/
theorem digits_sound {found : List Char} (h : digits text = .ok (found, rest)) :
    IsDigits found ∧ text = found ++ rest := by
  unfold digits at h
  split at h
  · cases h
  · next hsome =>
      cases h
      exact ⟨⟨by simpa using hsome, fun _ hchar => List.mem_takeWhile_imp hchar⟩,
        List.takeWhile_append_dropWhile.symm⟩

/-- The integer part that is read has no superfluous zero in front. -/
theorem integerDigits_sound {found : List Char} (h : integerDigits text = .ok (found, rest)) :
    IsWhole found ∧ text = found ++ rest := by
  unfold integerDigits at h
  split at h
  · split at h
    · cases h
    · cases h
      exact ⟨⟨by decide, by decide, .inl rfl⟩, rfl⟩
  · next hnotZero =>
      obtain ⟨⟨hne, hdigits⟩, rfl⟩ := digits_sound h
      refine ⟨⟨hne, hdigits, ?_⟩, rfl⟩
      -- A zero in front could only be the whole text.
      obtain ⟨first, others, rfl⟩ := List.exists_cons_of_ne_nil hne
      by_cases hzero : first = '0'
      · subst hzero
        cases others with
        | nil => exact .inl rfl
        | cons next others => exact (hnotZero next (others ++ rest) rfl).elim
      · exact .inr (by simpa using hzero)

/-- The fraction that is read is one of the grammar, or there is none. -/
theorem fractionDigits_sound {fraction : Option (List Char)}
    (h : fractionDigits text = .ok (fraction, rest)) :
    ∃ taken, Fraction taken fraction ∧ text = taken ++ rest := by
  unfold fractionDigits at h
  split at h
  · obtain ⟨⟨digits, left⟩, hdigits, hrest⟩ := except_bind_success h
    cases hrest
    obtain ⟨hsome, rfl⟩ := digits_sound hdigits
    exact ⟨'.' :: digits, .some digits hsome, rfl⟩
  · cases h
    exact ⟨[], .none, rfl⟩

/-- Digits of an exponent stand for their value, under the sign that was read. -/
theorem signedDigits_sound {negative : Bool} {value : Int}
    (h : signedDigits negative text = .ok (value, rest)) :
    ∃ digits, IsDigits digits ∧ text = digits ++ rest ∧
      value = if negative then -(Nat.ofDigitChars 10 digits 0 : Int)
        else Nat.ofDigitChars 10 digits 0 := by
  unfold signedDigits at h
  obtain ⟨⟨digits, left⟩, hdigits, hrest⟩ := except_bind_success h
  cases hrest
  obtain ⟨hsome, rfl⟩ := digits_sound hdigits
  exact ⟨digits, hsome, rfl, rfl⟩

/-- The exponent that is read has a sign and digits that stand for it. -/
theorem exponentValue_sound {value : Int} (h : exponentValue text = .ok (value, rest)) :
    ∃ sign negative digits, Sign sign negative ∧ IsDigits digits ∧
      text = sign ++ digits ++ rest ∧
      value = if negative then -(Nat.ofDigitChars 10 digits 0 : Int)
        else Nat.ofDigitChars 10 digits 0 := by
  unfold exponentValue at h
  split at h
  · obtain ⟨digits, hdigits, rfl, hvalue⟩ := signedDigits_sound h
    exact ⟨['-'], true, digits, .minus, hdigits, rfl, hvalue⟩
  · obtain ⟨digits, hdigits, rfl, hvalue⟩ := signedDigits_sound h
    exact ⟨['+'], false, digits, .plus, hdigits, rfl, hvalue⟩
  · obtain ⟨digits, hdigits, rfl, hvalue⟩ := signedDigits_sound h
    exact ⟨[], false, digits, .none, hdigits, rfl, hvalue⟩

/-- The power that is read is one of the grammar, or there is none. -/
theorem exponent_sound {power : Option Int} (h : exponent text = .ok (power, rest)) :
    ∃ taken, Power taken power ∧ text = taken ++ rest := by
  unfold exponent at h
  split at h
  · split at h
    · next hmark =>
        obtain ⟨⟨value, left⟩, hvalue, hrest⟩ := except_bind_success h
        cases hrest
        obtain ⟨sign, negative, digits, hsign, hdigits, rfl, rfl⟩ := exponentValue_sound hvalue
        exact ⟨_, .some _ sign negative digits hmark hsign hdigits, rfl⟩
    · cases h
      exact ⟨[], .none, rfl⟩
  · cases h
    exact ⟨[], .none, rfl⟩

/-- What is read as a number consists of the parts of one, which is in range. -/
theorem unsignedNumber_exists_parts {negative : Bool} {number : Number}
    (h : unsignedNumber negative text = .ok (number, rest)) :
    ∃ whole fractionText fraction powerText power, IsWhole whole ∧ Fraction fractionText fraction ∧
      Power powerText power ∧ text = whole ++ (fractionText ++ (powerText ++ rest)) ∧
      number = .ofParts negative whole fraction power ∧ number.inRange = true := by
  obtain ⟨whole, afterWhole, hwhole, hparts⟩ := bind_success h
  obtain ⟨fraction, afterFraction, hfraction, hpowered⟩ := bind_success hparts
  obtain ⟨power, afterPower, hpower, hranged⟩ := bind_success hpowered
  dsimp only at hranged
  split at hranged
  · next hrange =>
      cases hranged
      obtain ⟨hisWhole, rfl⟩ := integerDigits_sound hwhole
      obtain ⟨fractionText, hfractionText, rfl⟩ := fractionDigits_sound hfraction
      obtain ⟨powerText, hpowerText, rfl⟩ := exponent_sound hpower
      exact ⟨whole, _, _, _, _, hisWhole, hfractionText, hpowerText, rfl, rfl, hrange⟩
  · cases hranged

/-- What is read as a number is one, with the sign that was read before. -/
theorem unsignedNumber_sound {negative : Bool} {number : Number}
    (h : unsignedNumber negative text = .ok (number, rest)) :
    ∃ token, Numeral ((if negative then ['-'] else []) ++ token) number ∧ text = token ++ rest := by
  obtain ⟨whole, fractionText, fraction, powerText, power, hwhole, hfraction, hpower, rfl, hnumber,
    hrange⟩ := unsignedNumber_exists_parts h
  exact ⟨whole ++ (fractionText ++ powerText), ⟨negative, whole, _, _, _, _, hwhole, hfraction,
    hpower, rfl, hnumber, hrange⟩, by simp⟩

/-! ### Numbers that are in the text are read -/

/-- A fraction of the grammar is read if neither a digit nor a point follows it. -/
theorem fractionDigits_complete {taken : List Char} {fraction : Option (List Char)}
    (h : Fraction taken fraction) (hdigit : Text.Stops Char.isDigit rest)
    (hpoint : Text.Stops (· == '.') rest) :
    fractionDigits (taken ++ rest) = .ok (fraction, rest) := by
  cases h with
  | none => exact fractionDigits_none hpoint
  | some digits hsome => exact fractionDigits_point hsome.1 hsome.2 hdigit

/-- Digits are read up to the first character that is none. -/
theorem signedDigits_complete (negative : Bool) {found : List Char} (h : IsDigits found)
    (hrest : Text.Stops Char.isDigit rest) :
    signedDigits negative (found ++ rest) =
      .ok (if negative then -(Nat.ofDigitChars 10 found 0 : Int) else Nat.ofDigitChars 10 found 0,
        rest) := by
  unfold signedDigits
  rw [digits_run h.1 h.2 hrest]
  rfl

/-- A signed exponent is read up to the first character that is no digit. -/
theorem exponentValue_complete {sign found : List Char} {negative : Bool}
    (hsign : Sign sign negative) (h : IsDigits found) (hrest : Text.Stops Char.isDigit rest) :
    exponentValue (sign ++ (found ++ rest)) =
      .ok (if negative then -(Nat.ofDigitChars 10 found 0 : Int) else Nat.ofDigitChars 10 found 0,
        rest) := by
  have hsigned := fun negative => signedDigits_complete negative h hrest
  cases hsign with
  | plus | minus => exact hsigned _
  | none =>
      obtain ⟨first, others, rfl⟩ := List.exists_cons_of_ne_nil h.1
      have hne : ∀ other ∈ ['-', '+'], first ≠ other :=
        Text.ne_of_class (h.2 first List.mem_cons_self) (by decide)
      rw [List.nil_append, List.cons_append, exponentValue]
      · exact hsigned false
      · rintro text ⟨⟩
        exact hne '-' (by decide) rfl
      · rintro text ⟨⟩
        exact hne '+' (by decide) rfl

/-- A power of the grammar is read if the number ends after it. -/
theorem exponent_complete {taken : List Char} {power : Option Int} (h : Power taken power)
    (hrest : NumberEnds rest) : exponent (taken ++ rest) = .ok (power, rest) := by
  cases h with
  | none => exact exponent_none hrest.mark
  | some mark sign negative digits hmark hsign hsome =>
      rw [List.cons_append, List.append_assoc]
      unfold exponent
      dsimp only
      rw [if_pos hmark, exponentValue_complete hsign hsome hrest.digit]
      rfl

/-- A number is read with the sign that was read before. -/
theorem unsignedNumber_complete {negative : Bool} {whole fractionText powerText : List Char}
    {fraction : Option (List Char)} {power : Option Int} (hwhole : IsWhole whole)
    (hfraction : Fraction fractionText fraction) (hpower : Power powerText power)
    (hrange : (Number.ofParts negative whole fraction power).inRange = true)
    (hrest : NumberEnds rest) :
    unsignedNumber negative (whole ++ (fractionText ++ (powerText ++ rest))) =
      .ok (.ofParts negative whole fraction power, rest) := by
  obtain ⟨hdigit, hpoint⟩ := hpower.stops hrest
  exact unsignedNumber_parts (integerDigits_run hwhole (hfraction.stops hdigit))
    (fractionDigits_complete hfraction hdigit hpoint) (exponent_complete hpower hrest) hrange

/-! ## Heads -/

/-- The word that is read stands in front of the rest. -/
theorem word_sound {wanted : List Char} (h : word wanted text = .ok ((), rest)) :
    text = wanted ++ rest := by
  fun_induction word wanted text with
  | case1 => cases h; rfl
  | case2 others wanted text ih => rw [ih h]; rfl
  | _ => cases h

/-- A fixed word stands for a scalar. -/
theorem word_head {wanted : List Char} {scalar found : Head}
    (h : (word wanted *> pure scalar : Reader Head) text = .ok (found, rest)) :
    text = wanted ++ rest ∧ found = scalar := by
  obtain ⟨_, mid, hword, hpure⟩ := bind_success (f := fun _ => pure scalar) h
  cases hpure
  exact ⟨word_sound hword, rfl⟩

/-- What is read after a quote is a string value of the grammar. -/
theorem stringRest_sound {value : String} (h : stringRest text = .ok (value, rest)) :
    Value ('"' :: text) rest (.string value) := by
  obtain ⟨⟨chars, left⟩, hbody, hpure⟩ := except_bind_success h
  cases hpure
  exact .string _ _ _ (stringBody_sound hbody)

/-- What is read as a head is one. -/
theorem headAfterBlanks_sound {found : Head} (h : headAfterBlanks text = .ok (found, rest)) :
    Opens text rest found := by
  cases text with
  | nil => cases h
  | cons char text =>
      unfold headAfterBlanks at h
      dsimp only at h
      split at h
      · next hchar =>
          obtain ⟨rfl, rfl⟩ := word_head h
          exact hchar ▸ .scalar _ _ _ _ rfl (.null rest)
      split at h
      · next hchar =>
          obtain ⟨rfl, rfl⟩ := word_head h
          exact hchar ▸ .scalar _ _ _ _ rfl (.trueWord rest)
      split at h
      · next hchar =>
          obtain ⟨rfl, rfl⟩ := word_head h
          exact hchar ▸ .scalar _ _ _ _ rfl (.falseWord rest)
      split at h
      · next hchar =>
          obtain ⟨value, hvalue, rfl⟩ := map_success h
          exact hchar ▸ .scalar _ _ _ _ rfl (stringRest_sound hvalue)
      split at h
      · next hchar =>
          obtain ⟨number, hnumber, rfl⟩ := map_success h
          obtain ⟨token, hnumeral, rfl⟩ := unsignedNumber_sound hnumber
          exact hchar ▸ .scalar _ _ _ _ rfl (.number ('-' :: token) rest number hnumeral)
      split at h
      · obtain ⟨number, hnumber, rfl⟩ := map_success h
        obtain ⟨token, hnumeral, htext⟩ := unsignedNumber_sound hnumber
        exact htext ▸ .scalar _ _ _ _ rfl (.number token rest number hnumeral)
      split at h
      · next hchar =>
          cases h
          exact hchar ▸ .array _
      split at h
      · next hchar =>
          cases h
          exact hchar ▸ .object _
      · cases h

/-- A scalar is read as a head. -/
theorem headAfterBlanks_complete {found : Head} {tree : Json} (hfound : found.tree? = some tree)
    (h : Value start rest tree) (hrest : NumberEnds rest) :
    headAfterBlanks start = .ok (found, rest) := by
  cases h with
  | null | trueWord | falseWord =>
      cases found <;> cases hfound
      rfl
  | number token rest number hnumeral =>
      obtain rfl : found = .number number := by cases found <;> cases hfound; rfl
      obtain ⟨negative, whole, fractionText, _, powerText, _, hwhole, hfraction, hpower, rfl, rfl,
        hrange⟩ := hnumeral
      have hread := unsignedNumber_complete hwhole hfraction hpower hrange hrest
      have hfirst : ∃ first others, whole ++ (fractionText ++ (powerText ++ rest)) =
          first :: others ∧ first.isDigit = true := by
        obtain ⟨first, others, rfl⟩ := List.exists_cons_of_ne_nil hwhole.1
        exact ⟨first, _, rfl, hwhole.2.1 first List.mem_cons_self⟩
      have hsigned := headAfterBlanks_signed hfirst hread
      cases negative <;> simpa using hsigned
  | string text rest chars hchars =>
      obtain rfl : found = .string (String.ofList chars) := by cases found <;> cases hfound; rfl
      have hstring : stringRest text = .ok (String.ofList chars, rest) := by
        unfold stringRest
        rw [stringBody_complete hchars]
        rfl
      exact map_ok hstring
  | array | object => cases found <;> cases hfound

/-- What is read as a head, after blanks, is one. -/
theorem head_sound {found : Head} (h : head text = .ok (found, rest)) :
    ∃ start, Blanks text start ∧ Opens start rest found :=
  ⟨_, .dropWhile text, headAfterBlanks_sound h⟩

/-- A scalar is read as a head after blanks. -/
theorem head_complete {found : Head} {tree : Json} (hblanks : Blanks text start)
    (hfound : found.tree? = some tree) (h : Value start rest tree) (hrest : NumberEnds rest) :
    head text = .ok (found, rest) := by
  obtain ⟨blanks, hall, rfl⟩ := hblanks.exists_separators
  exact (head_blanks hall h.starts.stops).trans (headAfterBlanks_complete hfound h hrest)

end Reader

end HostScript.Json

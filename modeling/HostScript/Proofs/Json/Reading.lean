import HostScript.Json.Reader
import HostScript.Proofs.Text.Runs

/-!
# Readers that decide

A reader decides a condition on a text if it gives a known value and stops at a known place when the
condition holds, and fails when it does not. Deciding is closed under sequences, so what a reader
does on a written text follows from what it does on the parts of that text.
-/

namespace HostScript.Json.Reader

variable {α β : Type} {reader : Reader α} {text mid rest : List Char} {value : α}

/-- A sequence goes on where its first part stops. -/
theorem bind_ok {f : α → Reader β} (h : reader text = .ok (value, mid)) :
    (reader >>= f) text = f value mid := by
  show (reader text >>= fun result => f result.1 result.2) = _
  rw [h]
  rfl

/-- A sequence fails where its first part fails. -/
theorem bind_error {f : α → Reader β} {error : ReadError} (h : reader text = .error error) :
    (reader >>= f) text = .error error := by
  show (reader text >>= fun result => f result.1 result.2) = _
  rw [h]
  rfl

/-- A function is applied to what is read. -/
theorem map_ok {f : α → β} (h : reader text = .ok (value, mid)) :
    (f <$> reader) text = .ok (f value, mid) := by
  show (reader text >>= fun result => pure (f result.1, result.2)) = _
  rw [h]
  rfl

/-- An error stays if a function is applied to what is read. -/
theorem map_error {f : α → β} {error : ReadError} (h : reader text = .error error) :
    (f <$> reader) text = .error error := by
  show (reader text >>= fun result => pure (f result.1, result.2)) = _
  rw [h]
  rfl

/-- Before `text` the reader gives `value` and stops before `rest` if the condition holds, and it
fails otherwise. -/
def Decides (reader : Reader α) (text rest : List Char) (holds : Prop) (value : α) : Prop :=
  (holds → reader text = .ok (value, rest)) ∧ (¬ holds → ∃ error, reader text = .error error)

namespace Decides

variable {holds other : Prop}

/-- A success decides what is true. -/
theorem of_ok (h : reader text = .ok (value, rest)) (hholds : holds) :
    Decides reader text rest holds value :=
  ⟨fun _ => h, fun hnot => absurd hholds hnot⟩

/-- A failure decides what is false. -/
theorem of_error {error : ReadError} (h : reader text = .error error) (hnot : ¬ holds) :
    Decides reader text rest holds value :=
  ⟨fun hholds => absurd hholds hnot, fun _ => ⟨error, h⟩⟩

/-- Equivalent conditions are decided alike. -/
theorem congr (h : Decides reader text rest holds value) (hiff : other ↔ holds) :
    Decides reader text rest other value :=
  ⟨fun hother => h.1 (hiff.1 hother), fun hnot => h.2 fun hholds => hnot (hiff.2 hholds)⟩

/-- A first part that succeeds leaves the decision to the second. -/
theorem after_ok {f : α → Reader β} {result : β} (hfirst : reader text = .ok (value, mid))
    (h : Decides (f value) mid rest holds result) :
    Decides (reader >>= f) text rest holds result := by
  unfold Decides
  rw [bind_ok hfirst]
  exact h

/-- A sequence decides what both parts decide. -/
theorem bind {f : α → Reader β} {result : β} (hfirst : Decides reader text mid holds value)
    (h : Decides (f value) mid rest other result) :
    Decides (reader >>= f) text rest (holds ∧ other) result := by
  by_cases hholds : holds
  · exact (after_ok (hfirst.1 hholds) h).congr (and_iff_right hholds)
  · obtain ⟨error, herror⟩ := hfirst.2 hholds
    exact of_error (bind_error herror) fun hboth => hholds hboth.1

/-- What is returned in the end does not change the decision. -/
theorem map {f : α → β} (h : Decides reader text rest holds value) :
    Decides (do return f (← reader)) text rest holds (f value) :=
  (h.bind (of_ok rfl trivial)).congr (iff_of_eq (and_true _)).symm

/-- A level of the budget is spent first. -/
theorem nested {body : Nat → Reader α} {depth : Nat}
    (h : 0 < depth → Decides (body (depth - 1)) text rest holds value) :
    Decides (Reader.nested depth body) text rest (0 < depth ∧ holds) value := by
  cases depth with
  | zero => exact of_error rfl fun hboth => absurd hboth.1 (by decide)
  | succ less =>
      have hless := Nat.succ_pos less
      exact (h hless).congr (and_iff_right hless)

end Decides

/-! ## Strings -/

/-- A hexadecimal digit is read as its value. -/
theorem hexDigit?_digitChar {digit : Nat} (h : digit < 16) :
    hexDigit? (Nat.digitChar digit) = some digit := by
  have hall : ∀ digit < 16, hexDigit? (Nat.digitChar digit) = some digit := by decide
  exact hall digit h

section Strings

variable (text)

/-- A character that needs no escape is read as itself. -/
theorem stringBody_plain {char : Char} (hquote : char ≠ '"') (hslash : char ≠ '\\')
    (hcontrol : ¬ char.toNat < 32) :
    stringBody (char :: text) = ((char :: ·) <$> stringBody : Reader (List Char)) text := by
  rw [stringBody]
  · rw [if_neg hcontrol]
    rfl
  · exact hquote
  · exact fun _ hchar => absurd hchar hslash
  · exact fun _ _ hchar => absurd hchar hslash
  · exact fun hchar => absurd hchar hslash

/-- An escape of one letter is read as the character that it stands for. -/
theorem stringBody_letter {letter char : Char} (hletter : letterEscape? letter = some char) :
    stringBody ('\\' :: letter :: text) =
      ((char :: ·) <$> stringBody : Reader (List Char)) text := by
  have hhex : letter ≠ 'u' := by
    rintro rfl
    cases hletter
  rw [stringBody]
  · rw [hletter]
    rfl
  · exact hhex

/-- An escape of a code that is no surrogate is read as the character with that code. -/
theorem stringBody_code {a b c d : Char} {code : Nat} (hcode : hexQuad? a b c d = some code)
    (hplain : code < 0xD800 ∨ 0xE000 ≤ code) :
    stringBody ('\\' :: 'u' :: a :: b :: c :: d :: text) =
      ((Char.ofNat code :: ·) <$> stringBody : Reader (List Char)) text := by
  rw [stringBody, hcode]
  dsimp only
  rw [if_pos hplain]
  rfl

/-- Two escapes of surrogates are read as the character that they stand for. -/
theorem stringBody_pair {a b c d e f g h : Char} {leading trailing : Nat}
    (hleading : hexQuad? a b c d = some leading) (hlow : 0xD800 ≤ leading)
    (hhigh : leading < 0xDC00) (htrailing : hexQuad? e f g h = some trailing)
    (hrange : 0xDC00 ≤ trailing ∧ trailing < 0xE000) :
    stringBody ('\\' :: 'u' :: a :: b :: c :: d :: '\\' :: 'u' :: e :: f :: g :: h :: text) =
      ((surrogatePair leading trailing :: ·) <$> stringBody : Reader (List Char)) text := by
  rw [stringBody, hleading]
  dsimp only
  rw [if_neg (by omega), if_neg (by omega)]
  split
  · next heq =>
      cases heq
      rw [htrailing]
      dsimp only
      rw [if_pos hrange]
      rfl
  · next hnot => exact absurd rfl (hnot e f g h text)

/-- An escape of a control character by its code is read as that character. -/
theorem stringBody_control {code : Nat} (hcode : code < 32) :
    stringBody ('\\' :: 'u' :: '0' :: '0' :: Nat.digitChar (code / 16) ::
      Nat.digitChar (code % 16) :: text) =
      ((Char.ofNat code :: ·) <$> stringBody : Reader (List Char)) text := by
  refine stringBody_code text ?_ (.inl (by omega))
  unfold hexQuad?
  rw [hexDigit?_digitChar (by omega), hexDigit?_digitChar (by omega)]
  show some (((0 * 16 + 0) * 16 + code / 16) * 16 + code % 16) = some code
  exact congrArg some (by omega)

/-- An escaped character is read as that character. -/
theorem stringBody_escapeChar (char : Char) :
    stringBody (escapeChar char ++ text) =
      ((char :: ·) <$> stringBody : Reader (List Char)) text := by
  have hcode : ∀ {code}, char.toNat = code → Char.ofNat code = char := fun hchar =>
    hchar ▸ Char.ofNat_toNat char
  unfold escapeChar
  split
  · next hchar => exact stringBody_letter text (by rw [hchar]; rfl)
  split
  · next hchar => exact stringBody_letter text (by rw [hchar]; rfl)
  split
  · next hchar => exact stringBody_letter text (by rw [← hcode hchar]; rfl)
  split
  · next hchar => exact stringBody_letter text (by rw [← hcode hchar]; rfl)
  split
  · next hchar => exact stringBody_letter text (by rw [hchar]; rfl)
  split
  · next hchar => exact stringBody_letter text (by rw [hchar]; rfl)
  split
  · next hchar => exact stringBody_letter text (by rw [hchar]; rfl)
  split
  · next hcontrol =>
      have hread := stringBody_control text hcontrol
      rwa [hcode rfl] at hread
  · next hquote hslash _ _ _ _ _ hcontrol => exact stringBody_plain text hquote hslash hcontrol

/-- Escaped characters up to the closing quote are read as those characters. -/
theorem stringBody_flatMap (chars rest : List Char) :
    stringBody (chars.flatMap escapeChar ++ '"' :: rest) = .ok (chars, rest) := by
  induction chars with
  | nil => rfl
  | cons char chars ih =>
      rw [List.flatMap_cons, List.append_assoc]
      exact (stringBody_escapeChar _ char).trans (map_ok ih)

end Strings

/-! ## Heads -/

/-- Blanks before a value are skipped. -/
theorem head_blanks {blanks : List Char} (hblanks : ∀ char ∈ blanks, Text.isSeparator char = true)
    (htext : Text.Stops Text.isSeparator text) : head (blanks ++ text) = headAfterBlanks text := by
  show headAfterBlanks ((blanks ++ text).dropWhile Text.isSeparator) = _
  rw [Text.dropWhile_run hblanks htext]

/-- The text of a string is read as that string. -/
theorem headAfterBlanks_string (value : String) (rest : List Char) :
    headAfterBlanks (stringText value ++ rest) = .ok (.string value, rest) := by
  have hrest : stringRest (value.toList.flatMap escapeChar ++ '"' :: rest) = .ok (value, rest) := by
    show (stringBody (value.toList.flatMap escapeChar ++ '"' :: rest) >>= fun result =>
      pure (String.ofList result.1, result.2)) = _
    rw [stringBody_flatMap]
    show Except.ok (String.ofList value.toList, rest) = _
    rw [String.ofList_toList]
  have htext : stringText value ++ rest =
      '"' :: (value.toList.flatMap escapeChar ++ '"' :: rest) := by
    simp [stringText]
  rw [htext]
  exact map_ok hrest

/-! ## Documents -/

/-- A reader that leaves nothing decides a whole text. -/
theorem document_decides {text : String} {holds : Prop}
    (h : Decides reader text.toList [] holds value) :
    (holds → document reader text = .ok value) ∧
      (¬ holds → ∃ error, document reader text = .error error) := by
  constructor
  · intro hholds
    rw [document, h.1 hholds]
    rfl
  · intro hnot
    obtain ⟨error, herror⟩ := h.2 hnot
    refine ⟨error, ?_⟩
    rw [document, herror]
    rfl

end HostScript.Json.Reader

import HostScript.Proofs.Source.Composition
import HostScript.Proofs.Source.Soundness

/-!
# Phrases in front of other text

Words and names are the only phrases that look at what follows them, and all they ask is that it
does not continue a name. So a phrase stays the same phrase when what follows it is replaced by a
text that fits there (`compositional_portable`).
-/

namespace HostScript.Grammar

open Text

/-- A text fits in the place of another one if it continues a name only where the other one does. -/
def Fits (rest other : List Char) : Prop :=
  Stops isNamePart rest → Stops isNamePart other

/-- The text starts with characters that are the phrase in front of every text that fits in the
place of `rest`. -/
def Portable (R : Phrase) (text rest : List Char) : Prop :=
  ∃ taken, text = taken ++ rest ∧ ∀ other, Fits rest other → R (taken ++ other) other

variable {R S : Phrase} {text mid rest other : List Char}

/-- What does not continue a name fits everywhere. -/
theorem fits_of_stops (h : Stops isNamePart other) : Fits rest other :=
  fun _ => h

/-- Only the first character decides what fits. -/
theorem Fits.append (h : Fits rest other) (taken : List Char) :
    Fits (taken ++ rest) (taken ++ other) := by
  cases taken with
  | nil => exact h
  | cons char taken => exact fun hstops => stops_cons.2 (stops_cons.1 hstops)

namespace Portable

/-- What a portable phrase implies is portable. -/
theorem mono (h : Portable R text rest) (hle : ∀ text rest, R text rest → S text rest) :
    Portable S text rest := by
  obtain ⟨taken, htext, hport⟩ := h
  exact ⟨taken, htext, fun other hother => hle _ _ (hport other hother)⟩

/-- Portable phrases one after the other are portable. -/
theorem followed (h : Portable R text mid) (hnext : Portable S mid rest) :
    Portable (Then R S) text rest := by
  obtain ⟨taken, rfl, hport⟩ := h
  obtain ⟨more, rfl, hnextPort⟩ := hnext
  refine ⟨taken ++ more, (List.append_assoc _ _ _).symm, fun other hother => ?_⟩
  rw [List.append_assoc]
  exact ⟨more ++ other, hport _ (hother.append more), hnextPort other hother⟩

end Portable

/-! ## Lexemes -/

/-- Blanks do not depend on the text after them. -/
theorem Blanks.portable (h : Blanks text rest) : Portable Blanks text rest := by
  obtain ⟨blanks, hblanks, rfl⟩ := h
  exact ⟨blanks, rfl, fun other _ => ⟨blanks, hblanks, rfl⟩⟩

/-- A word is one in front of every text that continues no name. -/
theorem Word.portable {word : String} (h : Word word text rest) :
    Portable (Word word) text rest :=
  ⟨word.toList, h.1, fun _ hother => ⟨rfl, hother h.2⟩⟩

/-- A name is one in front of every text that continues no name. -/
theorem Name.portable {name : String} (h : Name name text rest) :
    Portable (Name name) text rest :=
  ⟨name.toList, h.2.1, fun _ hother => ⟨h.1, rfl, hother h.2.2⟩⟩

/-- The spelling of an operator is one in front of every text that fits. -/
theorem Spelled.portable {operator : Operator} (h : Spelled operator text rest) :
    Portable (Spelled operator) text rest := by
  cases operator with
  | and | or => exact Word.portable h
  | _ => exact ⟨_, h, fun _ _ => rfl⟩

/-! ## Phrases -/

/-- Only words and names look at what follows them. -/
theorem compositional_portable : Compositional Portable where
  mono := .mono
  followed := .followed
  blanks := Blanks.portable
  plain {taken} _ _ := ⟨taken, rfl, fun _ _ => rfl⟩
  quoted {value} _ _ := ⟨'"' :: value ++ ['"'], rfl, fun _ _ => rfl⟩
  whole {taken _} _ hstops := ⟨taken, rfl, fun _ hother => ⟨rfl, hother hstops⟩⟩

/-- A block is one in front of every text that fits. -/
theorem Block.portable {statements : List Statement} (h : Block text rest statements) :
    Portable (Block · · statements) text rest :=
  compositional_portable.block h

/-- A block may be followed by another one. -/
theorem Block.append {first second : List Statement} (h : Block text mid first)
    (hnext : Block mid rest second) : Block text rest (first ++ second) := by
  induction first generalizing text with
  | nil =>
      cases h with
      | nil _ _ hblanks => exact hnext.of_blanks hblanks
  | cons statement first ih =>
      cases h with
      | cons _ _ _ _ _ _ hblanks hstatement hothers =>
          exact .cons _ _ _ _ _ _ hblanks hstatement (ih hothers)

end HostScript.Grammar

import HostScript.Text.Blank
import Mathlib.Data.List.TakeWhile

/-!
# Longest runs

A reader of a class of characters takes the longest run of them. A run is the longest one exactly
when the text after it stops the class (`longest_run_iff`), and then it is what `takeWhile` gives.
-/

namespace HostScript.Text

variable {p : Char → Bool} {run rest : List Char}

/-- What holds of each character of a text is decided along the text, not over all characters. -/
instance (priority := 2000) decidableForallMem {q : Char → Prop} [DecidablePred q]
    (text : List Char) : Decidable (∀ char ∈ text, q char) :=
  List.decidableBAll q text

/-- No run of the class goes on here. -/
def Stops (p : Char → Bool) (rest : List Char) : Prop :=
  ∀ char ∈ rest.head?, p char = false

/-- A run stops at the end of the text. -/
@[simp] theorem stops_nil : Stops p [] := fun _ h => by cases h

/-- A run stops at a character that is not of its sort. -/
@[simp] theorem stops_cons {char : Char} {text : List Char} :
    Stops p (char :: text) ↔ p char = false :=
  ⟨fun h => h char rfl, fun h other hother => by cases hother; exact h⟩

/-- Where a class stops, it stops in every front part of the text. -/
theorem Stops.of_append {front back : List Char} (h : Stops p (front ++ back)) : Stops p front := by
  cases front with
  | nil => exact stops_nil
  | cons char front => exact stops_cons.2 (stops_cons.1 h)

/-- A character of the class is none of those that are not in it. -/
theorem ne_of_class {char : Char} (h : p char = true) {others : List Char}
    (hothers : ∀ other ∈ others, p other = false) : ∀ other ∈ others, char ≠ other := by
  rintro other hother rfl
  rw [hothers char hother] at h
  cases h

/-- Where a class stops, its run is empty. -/
theorem takeWhile_of_stops (h : Stops p rest) : rest.takeWhile p = [] := by
  cases rest with
  | nil => rfl
  | cons char text => exact List.takeWhile_cons_of_neg (by simpa using h)

/-- Where a class stops, nothing is dropped. -/
theorem dropWhile_of_stops (h : Stops p rest) : rest.dropWhile p = rest := by
  cases rest with
  | nil => rfl
  | cons char text => exact List.dropWhile_cons_of_neg (by simpa using h)

/-- A run that stops is taken whole. -/
theorem takeWhile_run (hrun : ∀ char ∈ run, p char) (hrest : Stops p rest) :
    (run ++ rest).takeWhile p = run := by
  rw [List.takeWhile_append_of_pos hrun, takeWhile_of_stops hrest, List.append_nil]

/-- What follows a run that stops is left. -/
theorem dropWhile_run (hrun : ∀ char ∈ run, p char) (hrest : Stops p rest) :
    (run ++ rest).dropWhile p = rest := by
  rw [List.dropWhile_append_of_pos hrun, dropWhile_of_stops hrest]

/-- A class stops after its longest run. -/
theorem stops_dropWhile (text : List Char) : Stops p (text.dropWhile p) := by
  induction text with
  | nil => exact stops_nil
  | cons char text ih =>
      by_cases h : p char
      · rwa [List.dropWhile_cons_of_pos h]
      · rw [List.dropWhile_cons_of_neg h]
        simpa using h

/-- A longest run is determined by the text. -/
theorem run_unique {other otherRest : List Char} (hrun : ∀ char ∈ run, p char)
    (hrest : Stops p rest) (hother : ∀ char ∈ other, p char) (hotherRest : Stops p otherRest)
    (h : run ++ rest = other ++ otherRest) : run = other ∧ rest = otherRest :=
  ⟨by rw [← takeWhile_run hrun hrest, h, takeWhile_run hother hotherRest],
    by rw [← dropWhile_run hrun hrest, h, dropWhile_run hother hotherRest]⟩

/-! ## Longest front parts -/

/-- The longest front part of a text that has a property. -/
structure Longest (P : List Char → Prop) (text part : List Char) : Prop where
  front : part <+: text
  holds : P part
  longest : ∀ other, other <+: text → P other → other.length ≤ part.length

/-- There is one longest front part. -/
theorem Longest.unique {P : List Char → Prop} {text part other : List Char}
    (h : Longest P text part) (hother : Longest P text other) : part = other := by
  have hle := hother.longest part h.front h.holds
  have hfront := List.prefix_of_prefix_length_le h.front hother.front hle
  exact hfront.eq_of_length_le (h.longest other hother.front hother.holds)

/-- The longest front part of characters of a class is what `takeWhile` gives. -/
theorem longest_takeWhile (text : List Char) :
    Longest (fun part => ∀ char ∈ part, p char = true) text (text.takeWhile p) where
  front := List.takeWhile_prefix p
  holds _ hchar := List.mem_takeWhile_imp hchar
  longest other hfront hother := by
    obtain ⟨rest, rfl⟩ := hfront
    rw [List.takeWhile_append_of_pos hother, List.length_append]
    omega

/-- A run is the longest one where the class stops after it. -/
theorem longest_run_iff {text : List Char} :
    Longest (fun part => ∀ char ∈ part, p char = true) text run ↔
      ∃ rest, text = run ++ rest ∧ (∀ char ∈ run, p char = true) ∧ Stops p rest := by
  constructor
  · intro h
    obtain rfl := (longest_takeWhile text).unique h
    exact ⟨text.dropWhile p, List.takeWhile_append_dropWhile.symm, h.holds, stops_dropWhile text⟩
  · rintro ⟨rest, rfl, hrun, hrest⟩
    have h := longest_takeWhile (p := p) (run ++ rest)
    rwa [takeWhile_run hrun hrest] at h

/-- The four separators. -/
theorem isSeparator_iff (char : Char) :
    isSeparator char ↔ char ∈ [' ', '\t', '\n', '\r'] := by
  simp [isSeparator, or_assoc]

end HostScript.Text

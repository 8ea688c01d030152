import HostScript.Text.Search

/-!
# Splitting text

The leftmost occurrences of a separator, each one searched for after the one before, cut a text into
parts (`Cuts`), in one way only (`Cuts.unique`). Splitting gives these parts (`cuts_iff`), and what
is said of them follows from how they were cut: joining them gives the text back, there are several
exactly if the separator occurs, none of them holds the separator, and the first one of several is
empty exactly if the text starts with the separator.
-/

namespace HostScript.Text

variable {separator text before after : List Char} {parts others : List (List Char)}

/-! ## Occurrences -/

/-- Searching finds exactly the texts that occur. -/
theorem contains_iff {needle : List Char} : contains needle text = true ↔ needle <:+: text := by
  induction text with
  | nil => simp [contains]
  | cons char rest ih =>
      rw [contains, Bool.or_eq_true, List.isPrefixOf_iff_prefix, ih, List.infix_cons_iff]

/-- No occurrence of a separator starts before the one that stands between two texts. -/
def Leftmost (separator before after : List Char) : Prop :=
  ∀ earlier later, before ++ separator ++ after = earlier ++ separator ++ later →
    before.length ≤ earlier.length

/-- The parts that the leftmost occurrences of a separator, none of which overlaps the one before,
cut out of a text. -/
inductive Cuts (separator : List Char) : List Char → List (List Char) → Prop where
  | whole {text : List Char} (h : ¬ separator <:+: text) : Cuts separator text [text]
  | cut {before after : List Char} {parts : List (List Char)}
      (h : Leftmost separator before after) (hafter : Cuts separator after parts) :
      Cuts separator (before ++ separator ++ after) (before :: parts)

/-- A separator between two texts occurs in what they make up. -/
theorem infix_between (before separator after : List Char) :
    separator <:+: before ++ separator ++ after :=
  ⟨before, after, rfl⟩

/-- A text is cut in one way only. -/
theorem Cuts.unique (h : Cuts separator text parts) (h' : Cuts separator text others) :
    parts = others := by
  induction h generalizing others with
  | whole hnone =>
      cases h' with
      | whole => rfl
      | cut => exact absurd (infix_between _ _ _) hnone
  | @cut before after parts hleftmost _ ih =>
      generalize htext : before ++ separator ++ after = text at h'
      cases h' with
      | whole hnone => exact absurd (htext ▸ infix_between _ _ _) hnone
      | @cut before' after' parts' hleftmost' hafter' =>
          have hlength : before.length = before'.length :=
            Nat.le_antisymm (hleftmost _ _ htext) (hleftmost' _ _ htext.symm)
          rw [List.append_assoc, List.append_assoc] at htext
          obtain ⟨rfl, hrest⟩ := List.append_inj htext hlength
          rw [ih (List.append_cancel_left hrest ▸ hafter')]

/-! ## The parts -/

/-- Cutting leaves at least one part. -/
theorem Cuts.ne_nil (h : Cuts separator text parts) : parts ≠ [] := by
  cases h <;> exact List.cons_ne_nil _ _

/-- Nothing but the separators is lost. -/
theorem Cuts.intercalate (h : Cuts separator text parts) : separator.intercalate parts = text := by
  induction h with
  | whole => exact List.intercalate_singleton
  | cut _ hafter ih => rw [List.intercalate_cons_of_ne_nil hafter.ne_nil, ih]

/-- There are several parts exactly if the separator occurs. -/
theorem Cuts.two_le_length_iff (h : Cuts separator text parts) :
    2 ≤ parts.length ↔ separator <:+: text := by
  cases h with
  | whole hnone => simp [hnone]
  | cut _ hafter =>
      have := List.length_pos_iff.2 hafter.ne_nil
      simp only [List.length_cons, infix_between, iff_true]
      omega

/-- No part holds the separator. -/
theorem Cuts.not_infix (h : Cuts separator text parts) (hseparator : separator ≠ []) :
    ∀ part ∈ parts, ¬ separator <:+: part := by
  induction h with
  | whole hnone => exact List.forall_mem_singleton.2 hnone
  | @cut before after parts hleftmost _ ih =>
      refine List.forall_mem_cons.2 ⟨?_, ih⟩
      rintro ⟨earlier, later, rfl⟩
      have hle := hleftmost earlier (later ++ separator ++ after) (by simp)
      have hpos := List.length_pos_iff.2 hseparator
      simp only [List.length_append] at hle
      omega

/-- The first part is empty exactly if the text starts with the separator. -/
theorem Cuts.prefix_iff (h : Cuts separator text parts) :
    separator <+: text ↔ 2 ≤ parts.length ∧ parts.head? = some [] := by
  cases h with
  | whole hnone =>
      have hstart : ¬ separator <+: text := fun hprefix => hnone hprefix.isInfix
      simp [hstart]
  | @cut before after parts hleftmost hafter =>
      have hlength := List.length_pos_iff.2 hafter.ne_nil
      simp only [List.length_cons, List.head?_cons, Option.some.injEq]
      constructor
      · rintro ⟨rest, hrest⟩
        have hle := hleftmost [] rest (by simpa using hrest.symm)
        exact ⟨by omega, List.eq_nil_of_length_eq_zero (Nat.le_zero.1 hle)⟩
      · rintro ⟨-, rfl⟩
        exact ⟨after, rfl⟩

/-! ## Splitting -/

/-- A character in front of which the separator does not stand belongs to the first part. -/
theorem Cuts.cons {char : Char} (hstart : ¬ separator <+: char :: text)
    (h : Cuts separator text parts) : Cuts separator (char :: text) (consFirst char parts) := by
  cases h with
  | whole hnone =>
      refine .whole fun hinfix => ?_
      rcases List.infix_cons_iff.1 hinfix with hprefix | hlater
      · exact hstart hprefix
      · exact hnone hlater
  | @cut before after parts hleftmost hafter =>
      show Cuts separator (char :: before ++ separator ++ after) ((char :: before) :: parts)
      refine .cut (fun earlier later htext => ?_) hafter
      cases earlier with
      | nil => exact absurd ⟨later, by simpa using htext.symm⟩ hstart
      | cons first earlier =>
          have hle := hleftmost earlier later (by simpa using (List.cons.inj htext).2)
          simpa using hle

/-- The characters of an occurrence are passed over. -/
theorem splitSkipping_eq (separator : List Char) (skipped : Nat) (text : List Char) :
    splitSkipping separator skipped text = splitSkipping separator 0 (text.drop skipped) := by
  induction text generalizing skipped with
  | nil => cases skipped <;> simp [splitSkipping]
  | cons char rest ih =>
      cases skipped with
      | zero => rfl
      | succ skipped => rw [splitSkipping, ih, List.drop_succ_cons]

/-- At an occurrence a part ends, and the next one starts behind the occurrence. -/
theorem splitSkipping_append (hseparator : separator ≠ []) (rest : List Char) :
    splitSkipping separator 0 (separator ++ rest) = [] :: splitSkipping separator 0 rest := by
  cases separator with
  | nil => exact absurd rfl hseparator
  | cons char others =>
      have hstart : (char :: others).isPrefixOf (char :: (others ++ rest)) = true :=
        List.isPrefixOf_iff_prefix.2 ⟨rest, rfl⟩
      rw [List.cons_append, splitSkipping, if_pos hstart, splitSkipping_eq]
      simp

/-- A character at which the separator does not start goes to the first part. -/
theorem splitSkipping_cons {char : Char} (hstart : ¬ separator <+: char :: text) :
    splitSkipping separator 0 (char :: text) =
      consFirst char (splitSkipping separator 0 text) := by
  rw [splitSkipping, if_neg (mt List.isPrefixOf_iff_prefix.1 hstart)]

/-- What is split at each separator is cut by its leftmost occurrences. -/
theorem cuts_splitSkipping (hseparator : separator ≠ []) (text : List Char) :
    Cuts separator text (splitSkipping separator 0 text) := by
  -- The search goes on behind an occurrence, so the induction is on the length of the text.
  induction hlength : text.length using Nat.strongRecOn generalizing text with
  | ind length ih =>
      cases text with
      | nil => exact .whole fun hinfix => hseparator (List.infix_nil.1 hinfix)
      | cons char rest =>
          by_cases hstart : separator <+: char :: rest
          · obtain ⟨after, hafter⟩ := hstart
            have hpos := List.length_pos_iff.2 hseparator
            have hshorter : after.length < length := by
              rw [← hlength, ← hafter, List.length_append]
              omega
            rw [← hafter, splitSkipping_append hseparator]
            show Cuts separator ([] ++ separator ++ after) _
            exact .cut (fun _ _ _ => Nat.zero_le _) (ih _ hshorter after rfl)
          · rw [splitSkipping_cons hstart]
            have hshorter : rest.length < length := by
              rw [← hlength, List.length_cons]
              omega
            exact .cons hstart (ih _ hshorter rest rfl)

/-- Splitting at a separator that is not empty gives the parts that it cuts out. -/
theorem cuts_iff (hseparator : separator ≠ []) :
    Cuts separator text parts ↔ parts = split separator text := by
  have hsplit : split separator text = splitSkipping separator 0 text :=
    if_neg (mt List.isEmpty_iff.1 hseparator)
  rw [hsplit]
  constructor
  · exact fun h => h.unique (cuts_splitSkipping hseparator text)
  · rintro rfl
    exact cuts_splitSkipping hseparator text

/-- The empty separator splits a text into its characters, between two empty parts. -/
theorem split_nil (text : List Char) :
    split [] text = [[]] ++ text.map (fun char => [char]) ++ [[]] := rfl

/-- With nothing between them, parts are joined one after the other. -/
theorem nil_intercalate (parts : List (List Char)) : [].intercalate parts = parts.flatten := by
  induction parts with
  | nil => rfl
  | cons part parts ih =>
      cases parts with
      | nil => simp
      | cons next parts =>
          rw [List.intercalate_cons_cons, ih, List.append_nil]
          rfl

/-- Joining gives a text back, whatever it was split at. -/
theorem intercalate_split (separator text : List Char) :
    separator.intercalate (split separator text) = text := by
  by_cases hseparator : separator = []
  · subst hseparator
    have hchars : (text.map fun char => [char]).flatten = text := by
      rw [← List.flatMap_def, List.flatMap_singleton']
    rw [split_nil, nil_intercalate]
    simp [hchars]
  · exact ((cuts_iff hseparator).2 rfl).intercalate

/-- A separator occurs exactly if it splits the text into several parts. -/
theorem two_le_length_split_iff (separator text : List Char) :
    2 ≤ (split separator text).length ↔ separator <:+: text := by
  by_cases hseparator : separator = []
  · subst hseparator
    simp [split_nil]
  · exact ((cuts_iff hseparator).2 rfl).two_le_length_iff

end HostScript.Text

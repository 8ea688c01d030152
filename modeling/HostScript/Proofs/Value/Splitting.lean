import HostScript.Proofs.Text.Splitting
import HostScript.Value.Methods
import Mathlib.Data.List.Basic

/-!
# Splitting and joining strings

Splitting a string and joining the parts gives the string back, and splitting agrees with what
searching in the string finds. Read `split_agrees` first; what it says about the parts is proved of
texts in `HostScript.Proofs.Text.Splitting`.
-/

namespace HostScript.Value

/-- The parts of a string. -/
def splitStrings (separator text : String) : List String :=
  (Text.split separator.toList text.toList).map String.ofList

/-- Strings are split like their characters. -/
theorem map_toList_splitStrings (separator text : String) :
    (splitStrings separator text).map String.toList = Text.split separator.toList text.toList := by
  rw [splitStrings, List.map_map]
  simp [Function.comp_def]

/-- The parts are those that a separator cuts out, unless it is empty. -/
theorem cuts_splitStrings {separator : String} (hseparator : separator ≠ "") (text : String)
    (others : List String) : Text.Cuts separator.toList text.toList (others.map String.toList) ↔
      others = splitStrings separator text := by
  rw [Text.cuts_iff (mt String.toList_eq_nil_iff.1 hseparator), ← map_toList_splitStrings]
  exact (List.map_injective_iff.2 fun _ _ => String.toList_inj.1).eq_iff

/-- A string starts with the separator exactly if the first one of several parts is empty. -/
theorem prefix_iff_splitStrings {separator : String} (hseparator : separator ≠ "") (text : String) :
    separator.toList <+: text.toList ↔
      2 ≤ (splitStrings separator text).length ∧ (splitStrings separator text).head? = some "" := by
  rw [((cuts_splitStrings hseparator text _).2 rfl).prefix_iff, List.length_map, List.head?_map]
  simp

/-- A string is what stands between two others, if its text is. -/
theorem exists_eq_append_iff (separator text : String) :
    (∃ before after, text = before ++ separator ++ after) ↔ separator.toList <:+: text.toList := by
  constructor
  · rintro ⟨before, after, rfl⟩
    exact ⟨before.toList, after.toList, by simp⟩
  · rintro ⟨before, after, htext⟩
    refine ⟨String.ofList before, String.ofList after, String.toList_inj.1 ?_⟩
    simp [← htext]

/-! ## The methods -/

/-- The method gives the parts of the string in an array. -/
theorem invoke_split (separator text : String) :
    (Value.string text).invoke "split" [.string separator] =
      .ok (.array ((splitStrings separator text).map .string)) := by
  rw [splitStrings, List.map_map]
  exact invoke_string (by decide) text _

/-- The method joins strings with the separator between them. -/
theorem invoke_join (separator : String) (parts : List String) :
    (Value.array (parts.map .string)).invoke "join" [.string separator] =
      .ok (.string (String.ofList (separator.toList.intercalate (parts.map String.toList)))) := by
  have hinvoke : (Value.array (parts.map .string)).invoke "join" [.string separator] =
      .ok (join separator.toList (parts.map .string)) := invoke_array (by decide) _ _
  rw [hinvoke, join, List.map_map]
  rfl

/-- The method tells whether the needle occurs in the string. -/
theorem invoke_contains (needle text : String) :
    (Value.string text).invoke "contains" [.string needle] =
      .ok (.boolean (Text.contains needle.toList text.toList)) :=
  invoke_string (by decide) text _

/-- The method tells whether the string starts with another one. -/
theorem invoke_startswith (start text : String) :
    (Value.string text).invoke "startswith" [.string start] =
      .ok (.boolean (start.toList.isPrefixOf text.toList)) :=
  invoke_string (by decide) text _

/-- Joining the parts of a string with the separator gives the string. The separator occurs exactly
if there are several parts. A separator that is not empty occurs in no part, the parts are those
that its leftmost occurrences cut out, and the first one of several is empty exactly if the string
starts with the separator. The empty separator is found around all characters. -/
theorem split_agrees (text separator : String) : ∃ parts : List String,
    (Value.string text).invoke "split" [.string separator] = .ok (.array (parts.map .string)) ∧
    (Value.array (parts.map .string)).invoke "join" [.string separator] = .ok (.string text) ∧
    (Value.string text).invoke "contains" [.string separator] =
      .ok (.boolean (decide (2 ≤ parts.length))) ∧
    (2 ≤ parts.length ↔ ∃ before after, text = before ++ separator ++ after) ∧
    (separator ≠ "" →
      (∀ part ∈ parts, (Value.string part).invoke "contains" [.string separator] =
        .ok (.boolean false)) ∧
      (∀ others : List String,
        Text.Cuts separator.toList text.toList (others.map String.toList) ↔ others = parts) ∧
      (Value.string text).invoke "startswith" [.string separator] =
        .ok (.boolean (decide (2 ≤ parts.length ∧ parts.head? = some "")))) ∧
    (separator = "" → parts = [""] ++ text.toList.map String.singleton ++ [""]) := by
  have hlength : 2 ≤ (splitStrings separator text).length ↔ separator.toList <:+: text.toList := by
    rw [splitStrings, List.length_map, Text.two_le_length_split_iff]
  refine ⟨splitStrings separator text, invoke_split separator text, ?_, ?_, ?_,
    fun hseparator => ⟨fun part hpart => ?_, cuts_splitStrings hseparator text, ?_⟩, ?_⟩
  · rw [invoke_join, map_toList_splitStrings, Text.intercalate_split, String.ofList_toList]
  · rw [invoke_contains]
    simp only [hlength, ← Text.contains_iff, Bool.decide_eq_true]
  · rw [hlength, exists_eq_append_iff]
  · have hcuts := (cuts_splitStrings hseparator text _).2 rfl
    have hnone := hcuts.not_infix (mt String.toList_eq_nil_iff.1 hseparator) part.toList
      (List.mem_map_of_mem hpart)
    rw [invoke_contains, Bool.eq_false_iff.2 (mt Text.contains_iff.1 hnone)]
  · rw [invoke_startswith]
    simp only [← prefix_iff_splitStrings hseparator, ← List.isPrefixOf_iff_prefix,
      Bool.decide_eq_true]
  · rintro rfl
    simp [splitStrings, Text.split_nil, Function.comp_def]

/-- Of two occurrences that overlap the first one counts, and the empty separator is found around
both characters. -/
theorem split_agrees_overlapping :
    (Value.string "aaa").invoke "split" [.string "aa"] = .ok (.array [.string "", .string "a"]) ∧
    (Value.array [.string "", .string "a"]).invoke "join" [.string "aa"] = .ok (.string "aaa") ∧
    (Value.string "a").invoke "contains" [.string "aa"] = .ok (.boolean false) ∧
    (Value.string "aaa").invoke "startswith" [.string "aa"] = .ok (.boolean true) ∧
    (Value.string "xy").invoke "split" [.string ""] =
      .ok (.array [.string "", .string "x", .string "y", .string ""]) := by
  obtain ⟨parts, hsplit, hjoin, -, -, hcut, -⟩ := split_agrees "aaa" "aa"
  obtain ⟨hnone, hcuts, hstart⟩ := hcut (by decide)
  have hlast : Text.Cuts ['a', 'a'] ['a'] [['a']] := .whole (by decide)
  have hfirst : Text.Leftmost ['a', 'a'] [] ['a'] := fun _ _ _ => Nat.zero_le _
  obtain rfl : ["", "a"] = parts := (hcuts ["", "a"]).1 (.cut hfirst hlast)
  obtain ⟨chars, hchars, -, -, -, -, hempty⟩ := split_agrees "xy" ""
  obtain rfl := hempty rfl
  exact ⟨hsplit, hjoin, hnone "a" (by simp), hstart, hchars⟩

end HostScript.Value

import Mathlib.Tactic.Tauto
import HostScript.Proofs.Json.Depth
import HostScript.Proofs.Program.Hereditary

/-!
# Reading the wire form of a program

A tree travels if its numbers are finite and its text fits into the levels that are left. The
readers of the wire form read exactly the trees that travel, from either layout of the text, and
give them back with the numbers that are read for their numbers. A program whose numbers read back
is given back up to the sign of zeros (`Program.decode_encode`).
-/

namespace HostScript

open Json Json.Reader

namespace Wire

variable {α β γ : Type} {layout : Layout} {level depth : Nat}

/-- The numbers of a tree are finite and the tree fits into the levels that are left. -/
def Travels (numbers : List Binary64) (json : Json) (depth : Nat) : Prop :=
  (∀ number ∈ numbers, number.isFinite = true) ∧ json.depth ≤ depth

section Travels

variable {a b c : Json} {numbersA numbersB numbersC : List Binary64}

/-- A list of one operand needs a level of its own. -/
theorem travels_single : Travels numbersA (.array [a]) depth ↔
    0 < depth ∧ Travels numbersA a (depth - 1) := by
  rw [Travels, depth_array_le, List.forall_mem_cons]
  simp only [Travels]
  tauto

/-- A list of two operands needs a level, and both operands have to travel. -/
theorem travels_pair : Travels (numbersA ++ numbersB) (.array [a, b]) depth ↔
    0 < depth ∧ Travels numbersA a (depth - 1) ∧ Travels numbersB b (depth - 1) := by
  rw [Travels, depth_array_le, List.forall_mem_append]
  simp only [Travels, List.forall_mem_cons]
  tauto

/-- A list of three operands needs a level, and all of them have to travel. -/
theorem travels_triple : Travels (numbersA ++ numbersB ++ numbersC) (.array [a, b, c]) depth ↔
    0 < depth ∧ Travels numbersA a (depth - 1) ∧ Travels numbersB b (depth - 1) ∧
      Travels numbersC c (depth - 1) := by
  rw [Travels, depth_array_le, List.forall_mem_append, List.forall_mem_append]
  simp only [Travels, List.forall_mem_cons]
  tauto

/-- A list needs a level, and each of its items has to travel. -/
theorem travels_sequence {values : List α} {toJson : α → Json} {numbersOf : α → List Binary64} :
    Travels (values.flatMap numbersOf) (.array (values.map toJson)) depth ↔
      0 < depth ∧ ∀ value ∈ values, Travels (numbersOf value) (toJson value) (depth - 1) := by
  rw [Travels, depth_array_le, List.forall_mem_map, List.forall_mem_flatMap]
  simp only [Travels, forall_and]
  tauto

/-- A node needs a level for its object. -/
theorem travels_tagged {tag : String} {operands : List Json} :
    Travels numbersA (.tagged tag operands) depth ↔
      0 < depth ∧ Travels numbersA (.array operands) (depth - 1) := by
  rw [Travels, Json.tagged, depth_object_le, Travels]
  tauto

end Travels

/-- The reader gives a value from a tree that travels, and fails on any other. -/
def Carries (reader : Reader α) (layout : Layout) (level : Nat) (json : Json)
    (numbers : List Binary64) (depth : Nat) (value : α) : Prop :=
  Restores reader layout level json (Travels numbers json depth) value

/-! ## Scalars -/

/-- A string is always read back. -/
theorem string_carries (value : String) :
    Carries string layout level (.string value) [] depth value := by
  intro blanks rest hblanks _
  have hhead : head (blanks ++ (stringText value ++ rest)) = .ok (.string value, rest) :=
    (head_blanks hblanks (Text.stops_cons.2 rfl)).trans (headAfterBlanks_string value rest)
  exact .after_ok hhead (.of_ok rfl (by simp [Travels, Json.depth]))

/-- A truth value is always read back. -/
theorem boolean_carries (value : Bool) :
    Carries boolean layout level (.boolean value) [] depth value := by
  intro blanks rest hblanks _
  have hhead : head (blanks ++ (booleanText value ++ rest)) = .ok (.boolean value, rest) := by
    cases value <;> exact head_blanks hblanks (Text.stops_cons.2 rfl)
  exact .after_ok hhead (.of_ok rfl (by simp [Travels, Json.depth]))

/-- A number is read if it is finite; otherwise its text is no number. -/
theorem number_carries (value : Binary64) :
    Carries number layout level (.ofBinary64 value) [value] depth value.reread := by
  intro blanks rest hblanks hrest
  by_cases hfinite : value.isFinite = true
  · obtain ⟨read, hread, htext⟩ := exists_headAfterBlanks_text hfinite
    have hhead : head (blanks ++ ((Number.ofBinary64 value).text ++ rest)) =
        .ok (.number read, rest) :=
      (head_blanks hblanks (startsValue_number _ rest).stops).trans (htext hrest)
    rw [ofBinary64_of_isFinite hfinite, ← hread]
    exact .after_ok hhead (.of_ok rfl (by simp [Travels, Json.depth, hfinite]))
  · have hhead : head (blanks ++ (nullText ++ rest)) = .ok (.null, rest) :=
      head_blanks hblanks (Text.stops_cons.2 rfl)
    rw [ofBinary64_of_not_isFinite hfinite]
    exact .after_ok hhead (.of_error rfl fun htravels => hfinite (by simpa using htravels.1))

/-! ## Operands -/

section Operands

variable {reader : Reader α} {json : Json} {holds : Prop} {value : α}

/-- The first operand is read as its reader reads it. -/
theorem operand_first (hlayout : layout.IsBlank)
    (h : Restores reader layout (level + 1) json holds value) (count : Nat) (others : List Json)
    (rest : List Char) :
    Decides (operand count 0 reader)
      (layout.lineBreak (level + 1) ++
        write layout (level + 1) json (writeItems layout level others rest))
      (writeItems layout level others rest) holds value := by
  have hsome := hasItem_write hlayout level json (writeItems layout level others rest)
  exact .after_ok hsome (h [] _ noBlanks (numberEnds_writeItems hlayout level others rest))

/-- A later operand is read as its reader reads it. -/
theorem operand_next (hlayout : layout.IsBlank)
    (h : Restores reader layout (level + 1) json holds value) (count index : Nat)
    (others : List Json) (rest : List Char) :
    Decides (operand count (index + 1) reader) (writeItems layout level (json :: others) rest)
      (writeItems layout level others rest) holds value := by
  have hsome := hasItem_writeItems hlayout level json others rest
  exact .after_ok hsome (h [] _ noBlanks (numberEnds_writeItems hlayout level others rest))

/-- After the last operand the list is closed. -/
theorem close_operands (hlayout : layout.IsBlank) (value : α) (rest : List Char) :
    Decides (do close ']'; return value) (writeItems layout level [] rest) rest True value :=
  .after_ok (close_writeItems_nil hlayout level rest) (.of_ok rfl trivial)

end Operands

section Lists

variable {a b c : Json} {numbersA numbersB numbersC : List Binary64} {valueA : α} {valueB : β}
  {valueC : γ} {first : Nat → Reader α} {second : Nat → Reader β} {third : Nat → Reader γ}
  (hlayout : layout.IsBlank)
include hlayout

/-- A list of one operand carries its value. -/
theorem single_carries
    (hfirst : Carries (first (depth - 1)) layout (level + 1) a numbersA (depth - 1) valueA) :
    Carries (single depth first) layout level (.array [a]) numbersA depth valueA := by
  intro blanks rest hblanks _
  refine .congr (.after_ok (openArray_blanks _ hblanks) (.nested fun _ =>
    (operand_first hlayout hfirst 1 [] rest).bind (close_operands hlayout valueA rest))) ?_
  rw [travels_single, and_true]

/-- A list of two operands carries both values. -/
theorem pair_carries
    (hfirst : Carries (first (depth - 1)) layout (level + 1) a numbersA (depth - 1) valueA)
    (hsecond : Carries (second (depth - 1)) layout (level + 1) b numbersB (depth - 1) valueB) :
    Carries (pair depth first second) layout level (.array [a, b]) (numbersA ++ numbersB) depth
      (valueA, valueB) := by
  intro blanks rest hblanks _
  refine .congr (.after_ok (openArray_blanks _ hblanks) (.nested fun _ =>
    (operand_first hlayout hfirst 2 [b] rest).bind
      ((operand_next hlayout hsecond 2 0 [] rest).bind
        (close_operands hlayout (valueA, valueB) rest)))) ?_
  rw [travels_pair, and_true]

/-- A list of three operands carries all values. -/
theorem triple_carries
    (hfirst : Carries (first (depth - 1)) layout (level + 1) a numbersA (depth - 1) valueA)
    (hsecond : Carries (second (depth - 1)) layout (level + 1) b numbersB (depth - 1) valueB)
    (hthird : Carries (third (depth - 1)) layout (level + 1) c numbersC (depth - 1) valueC) :
    Carries (triple depth first second third) layout level (.array [a, b, c])
      (numbersA ++ numbersB ++ numbersC) depth (valueA, valueB, valueC) := by
  intro blanks rest hblanks _
  refine .congr (.after_ok (openArray_blanks _ hblanks) (.nested fun _ =>
    (operand_first hlayout hfirst 3 [b, c] rest).bind
      ((operand_next hlayout hsecond 3 0 [c] rest).bind
        ((operand_next hlayout hthird 3 1 [] rest).bind
          (close_operands hlayout (valueA, valueB, valueC) rest))))) ?_
  rw [travels_triple, and_true]

/-- A list carries the values of its items. -/
theorem sequence_carries {δ : Type} {values : List δ} {toJson : δ → Json}
    {numbersOf : δ → List Binary64} {resultOf : δ → α}
    (h : ∀ value ∈ values, Carries (first (depth - 1)) layout (level + 1) (toJson value)
      (numbersOf value) (depth - 1) (resultOf value)) :
    Carries (sequence first depth) layout level (.array (values.map toJson))
      (values.flatMap numbersOf) depth (values.map resultOf) := by
  intro blanks rest hblanks _
  obtain ⟨text, htext⟩ : ∃ text,
      write layout level (.array (values.map toJson)) rest = '[' :: text := by
    cases values <;> exact ⟨_, rfl⟩
  rw [htext]
  refine .congr (.after_ok (openArray_blanks .array hblanks) (.nested fun _ =>
    items_decides hlayout h htext)) ?_
  exact travels_sequence

/-- A node is read if a level is left for it and its list of operands is read with the others. -/
theorem node_carries {kind tag : String} {body : String → Nat → Reader β} {inner : Reader α}
    {f : α → Reader β} {operands : List Json} {numbers : List Binary64}
    (hbody : body tag (depth - 1) = (do colon; f (← inner)))
    (hresult : f valueA = pure valueB) (hnumbers : numbers = numbersA)
    (h : 0 < depth →
      Carries inner layout (level + 1) (.array operands) numbersA (depth - 1) valueA) :
    Carries (node kind depth body) layout level (.tagged tag operands) numbers depth valueB := by
  intro blanks rest hblanks _
  -- What stands after the operands: the closing brace, and no second key.
  obtain ⟨after, hafter⟩ : ∃ after, after = layout.lineBreak level ++ '\x7d' :: rest := ⟨_, rfl⟩
  have htext : write layout level (.tagged tag operands) rest =
      '\x7b' :: (layout.lineBreak (level + 1) ++ (stringText tag ++
        ':' :: (layout.afterColon ++ write layout (level + 1) (.array operands) after))) := by
    simp [Json.tagged, write, writeEntries, hafter]
  have hends : NumberEnds after :=
    hafter ▸ numberEnds_blanks (hlayout.lineBreak level) (Text.stops_cons.2 rfl)
  have hoperands : 0 < depth → Decides (body tag (depth - 1))
      (':' :: (layout.afterColon ++ write layout (level + 1) (.array operands) after)) after
      (Travels numbersA (.array operands) (depth - 1)) valueB := by
    intro hdepth
    rw [hbody]
    exact .after_ok (close_blanks noBlanks rfl)
      ((h hdepth).bind_pure hresult _ _ hlayout.afterColon hends)
  have hend : hasKey false after = .ok (false, '\x7d' :: rest) :=
    hafter ▸ hasKey_end (hlayout.lineBreak level) false
  rw [htext]
  refine .congr (.after_ok (openObject_blanks _ hblanks) (.nested fun hdepth =>
    .after_ok (hasKey_first (hlayout.lineBreak (level + 1)) tag)
      (.after_ok (string_stringText tag _) ((hoperands hdepth).bind
        (.after_ok hend (.after_ok (close_blanks noBlanks rfl) (.of_ok rfl trivial))))))) ?_
  rw [hnumbers, travels_tagged, and_true]

end Lists

/-- What is carried is combined from what the parts carry. -/
theorem carries_hereditary (hlayout : layout.IsBlank) :
    Hereditary fun reader level json numbers depth value =>
      Carries reader layout level json numbers depth value where
  string value := string_carries value
  boolean value := boolean_carries value
  number value := single_carries hlayout (number_carries value)
  single h := single_carries hlayout h
  pair ha hb := pair_carries hlayout ha hb
  triple ha hb hc := triple_carries hlayout ha hb hc
  sequence h := sequence_carries hlayout h
  node hbody hresult hnumbers h := node_carries hlayout hbody hresult hnumbers h
  map _ h := h.bind_pure rfl

end Wire

namespace Program

/-- Every number of the program is finite, and at most 127 brackets and braces of its text are open
at once. -/
def Sendable (program : Program) : Prop :=
  (∀ number ∈ program.numbers, number.isFinite = true) ∧ Json.openAtOnce program.encode ≤ 127

variable (program : Program)

/-- A program is sendable if its tree travels with all levels left. -/
theorem sendable_iff :
    program.Sendable ↔ Wire.Travels program.numbers program.toJson depthLimit := by
  rw [Sendable, encode, compact, openAtOnce_render Layout.isBlank_compact, Wire.Travels, depthLimit]

/-- A program is read from its text in any layout if it is sendable, and only then. -/
theorem decode_render {layout : Layout} (hlayout : layout.IsBlank) :
    (program.Sendable → decode (String.ofList (render layout program.toJson)) =
      .ok (program.mapNumbers Binary64.reread)) ∧
    (¬ program.Sendable →
      ∃ error, decode (String.ofList (render layout program.toJson)) = .error error) := by
  have hcarries : Wire.Carries (Wire.program depthLimit) layout 0 program.toJson program.numbers
      depthLimit (program.mapNumbers Binary64.reread) :=
    (Wire.carries_hereditary hlayout).program program depthLimit 0
  rw [sendable_iff]
  refine document_decides ?_
  rw [String.toList_ofList]
  exact hcarries [] [] noBlanks Text.stops_nil

/-- The wire form of a program is read from either layout exactly if the program is sendable, and
what is read is the program with the numbers that are read for its numbers. If these read back, it
is the program up to the sign of zeros. -/
theorem decode_encode :
    (program.Sendable →
      decode program.encode = .ok (program.mapNumbers Binary64.reread) ∧
      decode program.encodePretty = .ok (program.mapNumbers Binary64.reread)) ∧
    (program.Sendable → (∀ number ∈ program.numbers, number.ReadsBack) →
      decode program.encode = .ok (program.mapNumbers Binary64.unsignZero) ∧
      decode program.encodePretty = .ok (program.mapNumbers Binary64.unsignZero) ∧
      (program.mapNumbers Binary64.unsignZero).equals program = true) ∧
    (¬ program.Sendable →
      (∃ error, decode program.encode = .error error) ∧
      (∃ error, decode program.encodePretty = .error error)) ∧
    Json.openAtOnce program.encodePretty = Json.openAtOnce program.encode := by
  have hcompact := program.decode_render Layout.isBlank_compact
  have hpretty := program.decode_render Layout.isBlank_pretty
  refine ⟨fun hsendable => ⟨hcompact.1 hsendable, hpretty.1 hsendable⟩,
    fun hsendable hback => ?_, fun hnot => ⟨hcompact.2 hnot, hpretty.2 hnot⟩, ?_⟩
  · have hsame : program.mapNumbers Binary64.reread = program.mapNumbers Binary64.unsignZero :=
      mapNumbers_eq_iff.2 hback
    rw [← hsame]
    refine ⟨hcompact.1 hsendable, hpretty.1 hsendable, ?_⟩
    rw [hsame]
    exact mapNumbers_equals fun number hnumber =>
      Binary64.unsignZero_equals (hsendable.1 number hnumber)
  · exact (openAtOnce_render Layout.isBlank_pretty program.toJson).trans
      (openAtOnce_render Layout.isBlank_compact program.toJson).symm

/-- A fraction is given back as it is, and a negative zero without its sign. -/
theorem decode_encode_fraction :
    let half : Binary64 := .ofDecimal false ⟨5, -1⟩
    let program : Program := ⟨[.call "f" [.number half, .number (.zero true)]]⟩
    program.encode =
      "[\x7b\"func\":[\"f\",[\x7b\"number\":[0.5]\x7d,\x7b\"number\":[0]\x7d]]\x7d]" ∧
    decode program.encode = .ok ⟨[.call "f" [.number half, .number (.zero false)]]⟩ := by
  intro half program
  have hsendable : program.Sendable := by
    refine ⟨?_, ?_⟩ <;> decide +kernel
  have hback : ∀ number ∈ program.numbers, number.ReadsBack := by decide +kernel
  have hreceived : program.mapNumbers Binary64.unsignZero =
      ⟨[.call "f" [.number half, .number (.zero false)]]⟩ := by
    have hhalf : half.unsignZero = half := by decide +kernel
    show Program.mk [.call "f" [.number half.unsignZero, .number (.zero false)]] = _
    rw [hhalf]
  refine ⟨by decide +kernel, ?_⟩
  rw [← hreceived]
  exact (program.decode_encode.2.1 hsendable hback).1

end Program

end HostScript

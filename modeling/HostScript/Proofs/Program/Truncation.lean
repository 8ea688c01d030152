import HostScript.Proofs.Json.TruncatedNumbers
import HostScript.Proofs.Program.Wire

/-!
# Wire texts that are cut off

The tag, the number of operands, the target of an assignment and a second key are checked while
the text is read. None of these checks can fail on a text that was cut off: what stands before the
cut is right, and a check that needs more meets the end of the text. So every text that is cut off
is recognised as such (`Program.decode_truncated`).
-/

namespace HostScript

open Json Json.Reader

namespace Wire

variable {α β γ : Type} {layout : Layout} {level depth : Nat}

/-- Wherever a tree that travels is written, the reader streams it. -/
def StreamsTree (reader : Reader α) (layout : Layout) (level : Nat) (json : Json)
    (numbers : List Binary64) (depth : Nat) (value : α) : Prop :=
  Travels numbers json depth → ∀ blanks rest : List Char,
    (∀ char ∈ blanks, Text.isSeparator char = true) → NumberEnds rest →
    Streams reader (blanks ++ write layout level json rest) rest value

/-- A reader that streams what it reads streams the trees that it carries. -/
theorem Carries.streamsTree {reader : Reader α} {json : Json} {numbers : List Binary64} {value : α}
    (h : Carries reader layout level json numbers depth value) (hreader : Streaming reader) :
    StreamsTree reader layout level json numbers depth value :=
  fun htravels blanks rest hblanks hrest => hreader ((h blanks rest hblanks hrest).1 htravels)

/-! ## Operands -/

section Operands

variable {reader : Reader α} {json : Json} {numbers : List Binary64} {value : α}
  (hlayout : layout.IsBlank)
include hlayout

/-- The first operand is streamed as its reader streams it. -/
theorem operand_first_streams
    (h : StreamsTree reader layout (level + 1) json numbers depth value)
    (htravels : Travels numbers json depth) (count : Nat) (others : List Json)
    (rest : List Char) :
    Streams (operand count 0 reader)
      (layout.lineBreak (level + 1) ++
        write layout (level + 1) json (writeItems layout level others rest))
      (writeItems layout level others rest) value := by
  have hsome := hasItem_write hlayout level json (writeItems layout level others rest)
  exact (hasItem_streaming true hsome).bind
    (h htravels [] _ noBlanks (numberEnds_writeItems hlayout level others rest))

/-- A later operand is streamed as its reader streams it. -/
theorem operand_next_streams
    (h : StreamsTree reader layout (level + 1) json numbers depth value)
    (htravels : Travels numbers json depth) (count index : Nat) (others : List Json)
    (rest : List Char) :
    Streams (operand count (index + 1) reader) (writeItems layout level (json :: others) rest)
      (writeItems layout level others rest) value := by
  have hsome := hasItem_writeItems hlayout level json others rest
  exact (hasItem_streaming false hsome).bind
    (h htravels [] _ noBlanks (numberEnds_writeItems hlayout level others rest))

/-- After the last operand the list is closed. -/
theorem close_operands_streams (value : α) (rest : List Char) :
    Streams (do close ']'; return value) (writeItems layout level [] rest) rest value :=
  (close_streaming ']' (close_writeItems_nil hlayout level rest)).bind (.pure value rest)

end Operands

section Lists

variable {a b c : Json} {numbersA numbersB numbersC : List Binary64} {valueA : α} {valueB : β}
  {valueC : γ} {first : Nat → Reader α} {second : Nat → Reader β} {third : Nat → Reader γ}
  (hlayout : layout.IsBlank)
include hlayout

/-- A list of one operand streams. -/
theorem single_streams
    (hfirst : StreamsTree (first (depth - 1)) layout (level + 1) a numbersA (depth - 1) valueA) :
    StreamsTree (single depth first) layout level (.array [a]) numbersA depth valueA := by
  intro htravels blanks rest hblanks _
  obtain ⟨hdepth, ha⟩ := travels_single.1 htravels
  refine (openArray_streaming _ (openArray_blanks _ hblanks)).bind (.nested hdepth ?_)
  exact (operand_first_streams hlayout hfirst ha 1 [] rest).bind
    (close_operands_streams hlayout valueA rest)

/-- A list of two operands streams. -/
theorem pair_streams
    (hfirst : StreamsTree (first (depth - 1)) layout (level + 1) a numbersA (depth - 1) valueA)
    (hsecond : StreamsTree (second (depth - 1)) layout (level + 1) b numbersB (depth - 1) valueB) :
    StreamsTree (pair depth first second) layout level (.array [a, b]) (numbersA ++ numbersB) depth
      (valueA, valueB) := by
  intro htravels blanks rest hblanks _
  obtain ⟨hdepth, ha, hb⟩ := travels_pair.1 htravels
  refine (openArray_streaming _ (openArray_blanks _ hblanks)).bind (.nested hdepth ?_)
  exact (operand_first_streams hlayout hfirst ha 2 [b] rest).bind
    ((operand_next_streams hlayout hsecond hb 2 0 [] rest).bind
      (close_operands_streams hlayout (valueA, valueB) rest))

/-- A list of three operands streams. -/
theorem triple_streams
    (hfirst : StreamsTree (first (depth - 1)) layout (level + 1) a numbersA (depth - 1) valueA)
    (hsecond : StreamsTree (second (depth - 1)) layout (level + 1) b numbersB (depth - 1) valueB)
    (hthird : StreamsTree (third (depth - 1)) layout (level + 1) c numbersC (depth - 1) valueC) :
    StreamsTree (triple depth first second third) layout level (.array [a, b, c])
      (numbersA ++ numbersB ++ numbersC) depth (valueA, valueB, valueC) := by
  intro htravels blanks rest hblanks _
  obtain ⟨hdepth, ha, hb, hc⟩ := travels_triple.1 htravels
  refine (openArray_streaming _ (openArray_blanks _ hblanks)).bind (.nested hdepth ?_)
  exact (operand_first_streams hlayout hfirst ha 3 [b, c] rest).bind
    ((operand_next_streams hlayout hsecond hb 3 0 [c] rest).bind
      ((operand_next_streams hlayout hthird hc 3 1 [] rest).bind
        (close_operands_streams hlayout (valueA, valueB, valueC) rest)))

/-- A list of any number of operands streams. -/
theorem sequence_streams {δ : Type} {values : List δ} {toJson : δ → Json}
    {numbersOf : δ → List Binary64} {resultOf : δ → α}
    (h : ∀ value ∈ values, StreamsTree (first (depth - 1)) layout (level + 1) (toJson value)
      (numbersOf value) (depth - 1) (resultOf value)) :
    StreamsTree (sequence first depth) layout level (.array (values.map toJson))
      (values.flatMap numbersOf) depth (values.map resultOf) := by
  intro htravels blanks rest hblanks _
  obtain ⟨hdepth, hvalues⟩ := travels_sequence.1 htravels
  obtain ⟨text, htext⟩ : ∃ text,
      write layout level (.array (values.map toJson)) rest = '[' :: text := by
    cases values <;> exact ⟨_, rfl⟩
  rw [htext]
  refine (openArray_streaming _ (openArray_blanks _ hblanks)).bind (.nested hdepth ?_)
  exact items_streams hlayout
    (fun value hmem rest hrest => h value hmem (hvalues value hmem) [] rest noBlanks hrest) htext

/-- A number is streamed with the list that it stands in. -/
theorem number_streams (value : Binary64) :
    StreamsTree (single depth fun _ => number) layout level (.array [.ofBinary64 value]) [value]
      depth value.reread := by
  intro htravels blanks rest hblanks _
  obtain ⟨hdepth, hnumber⟩ := travels_single.1 htravels
  have hfinite : value.isFinite = true := hnumber.1 value List.mem_cons_self
  refine (openArray_streaming _ (openArray_blanks _ hblanks)).bind (.nested hdepth ?_)
  have hsome := hasItem_write hlayout level (.ofBinary64 value) (writeItems layout level [] rest)
  have hwritten : write layout (level + 1) (.ofBinary64 value) (writeItems layout level [] rest) =
      (Number.ofBinary64 value).text ++ writeItems layout level [] rest := by
    cases value with
    | finite negative rank => rfl
    | nan | infinite => cases hfinite
  rw [hwritten] at hsome ⊢
  -- The number alone would not be streamed, so the bracket is read with it.
  rw [operand, bind_assoc]
  exact (hasItem_streaming true hsome).bind (number_close_streams hfinite
    (numberEnds_writeItems hlayout level [] rest) (close_writeItems_nil hlayout level rest))

/-- A node is streamed if its list of operands is. -/
theorem node_streams {kind tag : String} {body : String → Nat → Reader β} {inner : Reader α}
    {f : α → Reader β} {operands : List Json} {numbers : List Binary64}
    (hbody : body tag (depth - 1) = (do colon; f (← inner)))
    (hresult : f valueA = pure valueB) (hnumbers : numbers = numbersA)
    (h : 0 < depth →
      StreamsTree inner layout (level + 1) (.array operands) numbersA (depth - 1) valueA) :
    StreamsTree (node kind depth body) layout level (.tagged tag operands) numbers depth
      valueB := by
  intro htravels blanks rest hblanks _
  obtain ⟨hdepth, hoperands⟩ := travels_tagged.1 (hnumbers ▸ htravels)
  -- What stands after the operands: the closing brace, and no second key.
  obtain ⟨after, hafter⟩ : ∃ after, after = layout.lineBreak level ++ '\x7d' :: rest := ⟨_, rfl⟩
  have htext : write layout level (.tagged tag operands) rest =
      '\x7b' :: (layout.lineBreak (level + 1) ++ (stringText tag ++
        ':' :: (layout.afterColon ++ write layout (level + 1) (.array operands) after))) := by
    simp [Json.tagged, write, writeEntries, hafter]
  have hends : NumberEnds after :=
    hafter ▸ numberEnds_blanks (hlayout.lineBreak level) (Text.stops_cons.2 rfl)
  have hend : hasKey false after = .ok (false, '\x7d' :: rest) :=
    hafter ▸ hasKey_end (hlayout.lineBreak level) false
  have hbody : Streams (body tag (depth - 1))
      (':' :: (layout.afterColon ++ write layout (level + 1) (.array operands) after)) after
      valueB := by
    rw [hbody]
    refine (close_streaming ':' (close_blanks noBlanks rfl)).bind
      ((h hdepth hoperands _ after hlayout.afterColon hends).bind ?_)
    rw [hresult]
    exact .pure valueB after
  rw [htext]
  refine (openObject_streaming _ (openObject_blanks _ hblanks)).bind (.nested hdepth ?_)
  refine (hasKey_streaming true (hasKey_first (hlayout.lineBreak (level + 1)) tag)).bind ?_
  refine (string_streaming (string_stringText tag _)).bind (hbody.bind ?_)
  refine (hasKey_streaming false hend).bind ?_
  exact (close_streaming '\x7d' (close_blanks noBlanks rfl)).bind (.pure valueB rest)

end Lists

/-- What is streamed is combined from what the parts stream. -/
theorem streams_hereditary (hlayout : layout.IsBlank) :
    Hereditary fun reader level json numbers depth value =>
      StreamsTree reader layout level json numbers depth value where
  string value := (string_carries value).streamsTree string_streaming
  boolean value := (boolean_carries value).streamsTree boolean_streaming
  number value := number_streams hlayout value
  single h := single_streams hlayout h
  pair ha hb := pair_streams hlayout ha hb
  triple ha hb hc := triple_streams hlayout ha hb hc
  sequence h := sequence_streams hlayout h
  node hbody hresult hnumbers h := node_streams hlayout hbody hresult hnumbers h
  map _ h := fun htravels blanks rest hblanks hrest =>
    (h htravels blanks rest hblanks hrest).bind (.pure _ rest)

end Wire

namespace Program

variable {program : Program}

/-- The text of a sendable program in any layout, cut off anywhere, is reported as ended. -/
theorem decode_of_append {layout : Layout} (hlayout : layout.IsBlank) (h : program.Sendable)
    {front back : List Char} (hfront : render layout program.toJson = front ++ back)
    (hback : back ≠ []) : decode (String.ofList front) = .error .endOfText := by
  have htravels := (sendable_iff program).1 h
  have hstreams : Streams (Wire.program depthLimit) (render layout program.toJson) []
      (program.mapNumbers Binary64.reread) :=
    (Wire.streams_hereditary hlayout).program program depthLimit 0 htravels [] [] noBlanks
      Text.stops_nil
  obtain hend | ⟨left, hnil, -⟩ := hstreams front back hfront
  · rw [decode, document, String.toList_ofList, hend]
    rfl
  · exact absurd (List.append_eq_nil_iff.1 hnil.symm).2 hback

/-- Of the front parts of the wire text of a sendable program only the whole text is read, and all
others are reported as ended: none is read as another program, and none has an error of shape or is
malformed. -/
theorem decode_truncated (h : program.Sendable) {text : String}
    (hfront : text.toList <+: program.encode.toList) :
    decode text = if text = program.encode then .ok (program.mapNumbers Binary64.reread)
      else .error .endOfText := by
  split
  · next hwhole =>
      rw [hwhole]
      exact (program.decode_render Layout.isBlank_compact).1 h
  · next hne =>
      obtain ⟨back, hback⟩ := hfront
      rw [encode, compact, String.toList_ofList] at hback
      have hproper : back ≠ [] := by
        rintro rfl
        rw [List.append_nil] at hback
        exact hne (by rw [encode, compact, ← hback, String.ofList_toList])
      have hdecode := decode_of_append Layout.isBlank_compact h hback.symm hproper
      rwa [String.ofList_toList] at hdecode

/-- A cut inside a number leaves a number, and one inside an escape leaves two digits of four. -/
theorem decode_truncated_call :
    decode "[\x7b\"func\":[\"f\",[\x7b\"number\":[1" = .error .endOfText ∧
    decode "[\x7b\"func\":[\"f\",[\x7b\"number\":[12]\x7d,\x7b\"string\":[\"\\u00" =
      .error .endOfText := by
  have hsendable : Sendable ⟨[.call "f" [.number (.ofInt 12), .string "\x01"]]⟩ := by
    refine ⟨?_, ?_⟩ <;> decide +kernel
  constructor
  · exact (decode_truncated hsendable (by decide +kernel)).trans (if_neg (by decide +kernel))
  · exact (decode_truncated hsendable (by decide +kernel)).trans (if_neg (by decide +kernel))

end Program

end HostScript

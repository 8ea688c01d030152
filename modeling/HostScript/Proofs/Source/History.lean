import Mathlib.Data.List.Induction
import HostScript.Proofs.Source.Lexemes

/-!
# The history of a scanner

A scanner remembers one place and the labels that were expected there. Whatever is done with it, in
whatever order, that place is the furthest one at which anything was expected so far, and the labels
are all those that were expected at that place. So the error of a scanner tells the furthest failure
of its whole history (`error_performAll`).
-/

namespace HostScript

/-- A place at which something was expected, and what was expected there. -/
abbrev Failure := Nat × String

/-- The furthest place of some failures, or the start of the text if there are none. -/
def furthestOf (failures : List Failure) : Nat :=
  failures.foldr (fun failure furthest => max failure.1 furthest) 0

/-- Whether an unsigned number stands at the start of a text: a digit, or a point and a digit. -/
def startsNumeral : List Char → Bool
  | '.' :: next :: _ => next.isDigit
  | char :: _ => char.isDigit
  | [] => false

namespace Scanner

/-- What can be done with a scanner. -/
inductive Action where
  | skipBlanks
  | seek (offset : Nat)
  | expect (label : String)
  | char (char : Char)
  | symbol (symbol : String)
  | assignSign
  | word (word : String)
  | checkWord (word : String)
  | identifier
  | string
  | number
deriving DecidableEq, Repr

namespace Action

/-- The scanner that an action leaves. -/
def perform : Action → Scanner → Scanner
  | .skipBlanks, scanner => scanner.skipBlanks
  | .seek offset, scanner => scanner.seek offset
  | .expect label, scanner => scanner.expect label
  | .char wanted, scanner => (Parser.char wanted scanner).2
  | .symbol wanted, scanner => (Parser.symbol wanted scanner).2
  | .assignSign, scanner => (Parser.assignSign scanner).2
  | .word wanted, scanner => (Parser.word wanted scanner).2
  | .checkWord _, scanner => scanner
  | .identifier, scanner => (Parser.identifier scanner).2
  | .string, scanner => (Parser.string scanner).2
  | .number, scanner => (Parser.number scanner).2

/-- The given failure if a parser fails. -/
def refusal {α : Type} (parser : Parser α) (scanner : Scanner) (failure : Failure) :
    Option Failure :=
  if (parser scanner).1.isSome then none else some failure

/-- The failure of an action. A lexeme is missed at the cursor, under its quoted spelling if it has
one. A string that is opened misses its closing quote at the end of the text. A number is missed
after its sign, but one out of range at its start. -/
def failure? : Action → Scanner → Option Failure
  | .skipBlanks, _ => none
  | .seek _, _ => none
  | .expect label, scanner => some (scanner.offset, label)
  | .char wanted, scanner =>
    refusal (Parser.char wanted) scanner (scanner.offset, Text.quote (String.singleton wanted))
  | .symbol wanted, scanner =>
    refusal (Parser.symbol wanted) scanner (scanner.offset, Text.quote wanted)
  | .assignSign, scanner =>
    refusal Parser.assignSign scanner (scanner.offset, Text.quote "=")
  | .word wanted, scanner =>
    refusal (Parser.word wanted) scanner (scanner.offset, Text.quote wanted)
  | .checkWord _, _ => none
  | .identifier, scanner => refusal Parser.identifier scanner (scanner.offset, "identifier")
  | .string, scanner =>
    refusal Parser.string scanner
      (if scanner.rest.head? = some '"' then (scanner.text.length, Text.quote "\"")
        else (scanner.offset, "string"))
  | .number, scanner =>
    let signLength := if scanner.rest.head? ∈ [some '+', some '-'] then 1 else 0
    refusal Parser.number scanner
      (if startsNumeral (scanner.rest.drop signLength) then (scanner.offset, "number")
        else (scanner.offset + signLength, "number"))

end Action

/-- The scanner that some actions leave. -/
def performAll (actions : List Action) (scanner : Scanner) : Scanner :=
  actions.foldl (fun scanner action => action.perform scanner) scanner

/-- The failures of some actions, in order. -/
def failures : List Action → Scanner → List Failure
  | [], _ => []
  | action :: actions, scanner =>
    (action.failure? scanner).toList ++ failures actions (action.perform scanner)

/-! ## The record of failures -/

/-- A label that is added is there, and no label is lost. -/
theorem mem_insertLabel {label other : String} {labels : List String} :
    other ∈ insertLabel label labels ↔ other = label ∨ other ∈ labels := by
  induction labels with
  | nil => simp [insertLabel]
  | cons first labels ih =>
      rw [insertLabel]
      split
      · rw [List.mem_cons]
      · split
        · next heq => simp [heq]
        · rw [List.mem_cons, ih, List.mem_cons, or_left_comm]

/-- A label is added in its place. -/
theorem sorted_insertLabel (label : String) {labels : List String}
    (h : labels.Pairwise (· < ·)) : (insertLabel label labels).Pairwise (· < ·) := by
  induction labels with
  | nil => exact List.pairwise_singleton _ _
  | cons first labels ih =>
      obtain ⟨hfirst, hlabels⟩ := List.pairwise_cons.1 h
      rw [insertLabel]
      split
      · next hlt =>
          refine List.pairwise_cons.2 ⟨fun other hother => ?_, h⟩
          rcases List.mem_cons.1 hother with rfl | hother
          · exact hlt
          · exact String.lt_trans hlt (hfirst other hother)
      · next hnotLt =>
          split
          · exact h
          · next hne =>
              refine List.pairwise_cons.2 ⟨fun other hother => ?_, ih hlabels⟩
              rcases mem_insertLabel.1 hother with rfl | hother
              · exact Std.lt_of_le_of_ne (Std.not_lt.1 hnotLt) (Ne.symm hne)
              · exact hfirst other hother

/-- Each failure is at most as far as the furthest one. -/
theorem le_furthestOf {failures : List Failure} {failure : Failure} (h : failure ∈ failures) :
    failure.1 ≤ furthestOf failures := by
  induction failures with
  | nil => cases h
  | cons first failures ih =>
      rw [furthestOf, List.foldr_cons, ← furthestOf]
      rcases List.mem_cons.1 h with rfl | h
      · exact Nat.le_max_left _ _
      · exact Nat.le_trans (ih h) (Nat.le_max_right _ _)

/-- One more failure is the furthest one or not. -/
theorem furthestOf_append (failures : List Failure) (failure : Failure) :
    furthestOf (failures ++ [failure]) = max (furthestOf failures) failure.1 := by
  induction failures with
  | nil => exact Nat.max_comm _ _
  | cons first failures ih =>
      show max first.1 (furthestOf (failures ++ [failure])) = _
      rw [ih, ← Nat.max_assoc]
      rfl

/-- The scanner has recorded the furthest of some failures: its place, and the labels at that place
in order. -/
structure Records (failures : List Failure) (scanner : Scanner) : Prop where
  furthest : scanner.furthest = furthestOf failures
  sorted : scanner.expected.Pairwise (· < ·)
  mem_expected : ∀ label, label ∈ scanner.expected ↔ (scanner.furthest, label) ∈ failures

namespace Records

variable {failures : List Failure} {scanner : Scanner}

/-- Only the record counts. -/
theorem congr {other : Scanner} (h : Records failures scanner)
    (hfurthest : other.furthest = scanner.furthest)
    (hexpected : other.expected = scanner.expected) :
    Records failures other where
  furthest := hfurthest.trans h.furthest
  sorted := hexpected ▸ h.sorted
  mem_expected label := by rw [hexpected, hfurthest, h.mem_expected]

/-- A failure is recorded. -/
theorem expectAt (h : Records failures scanner) (offset : Nat) (label : String) :
    Records (failures ++ [(offset, label)]) (scanner.expectAt offset label) := by
  have hnew := furthestOf_append failures (offset, label)
  rw [← h.furthest] at hnew
  unfold Scanner.expectAt
  split
  · next hlt =>
      refine ⟨by rw [hnew, Nat.max_eq_right (Nat.le_of_lt hlt)], List.pairwise_singleton _ _,
        fun other => ?_⟩
      -- No earlier failure was as far as this one.
      have hnone : (offset, other) ∉ failures := fun hmem =>
        absurd (le_furthestOf hmem) (by rw [← h.furthest]; exact Nat.not_le.2 hlt)
      simp [hnone]
  · next hnotLt =>
      split
      · next heq =>
          refine ⟨by rw [hnew, heq, Nat.max_self], sorted_insertLabel label h.sorted,
            fun other => ?_⟩
          rw [mem_insertLabel, h.mem_expected, List.mem_append, heq]
          simp [or_comm]
      · next hne =>
          refine ⟨by rw [hnew, Nat.max_eq_left (Nat.le_of_not_lt hnotLt)], h.sorted,
            fun other => ?_⟩
          rw [h.mem_expected, List.mem_append]
          simp [Ne.symm hne]

end Records

/-! ## One action -/

/-- The rest of a scanner is its text from the cursor on. -/
def Coherent (scanner : Scanner) : Prop :=
  scanner.rest = scanner.text.drop scanner.offset

/-- A new scanner is coherent. -/
theorem coherent_ofString (text : String) : (ofString text).Coherent := rfl

/-- Moving on keeps a scanner coherent. -/
theorem Coherent.advance {scanner : Scanner} (h : scanner.Coherent) (count : Nat) :
    (scanner.advance count).Coherent := by
  show scanner.rest.drop count = scanner.text.drop (scanner.offset + count)
  rw [h, List.drop_drop]

/-- Recording a failure keeps a scanner coherent. -/
theorem Coherent.expectAt {scanner : Scanner} (h : scanner.Coherent) (offset : Nat)
    (label : String) : (scanner.expectAt offset label).Coherent := by
  obtain ⟨htext, hoffset, hrest⟩ := expectAt_cursor offset label scanner
  unfold Coherent
  rw [htext, hoffset, hrest]
  exact h

/-- What an action leaves: the scanner with its failure recorded, or a scanner at some other place
in the same text with the same record. -/
def Leaves (failure : Option Failure) (scanner next : Scanner) : Prop :=
  match failure with
  | some (offset, label) => next = scanner.expectAt offset label
  | none => next.text = scanner.text ∧ next.Coherent ∧ next.furthest = scanner.furthest ∧
      next.expected = scanner.expected

/-- A lexeme moves over characters or records its failure. -/
theorem leaves_refusal {α : Type} {parser : Parser α} {scanner : Scanner} {failure : Failure}
    (hcoherent : scanner.Coherent)
    (h : (∃ value count, parser scanner = (some value, scanner.advance count)) ∨
      parser scanner = (none, scanner.expectAt failure.1 failure.2)) :
    Leaves (Action.refusal parser scanner failure) scanner (parser scanner).2 := by
  unfold Action.refusal
  rcases h with ⟨value, count, heq⟩ | heq
  · rw [heq]
    exact ⟨rfl, hcoherent.advance count, rfl, rfl⟩
  · rw [heq]
    exact rfl

/-- An unsigned number is read where one stands. -/
theorem read?_isSome (text : List Char) : (Numeral.read? text).isSome = startsNumeral text := by
  unfold Numeral.read? startsNumeral
  cases text with
  | nil => rfl
  | cons char text =>
      by_cases hdigit : char.isDigit
      · have hpoint : char ≠ '.' := by
          rintro rfl
          cases hdigit
        -- Some digit stands before whatever ends the whole part.
        simp only [List.takeWhile_cons_of_pos hdigit, List.dropWhile_cons_of_pos hdigit]
        split <;> simp [hpoint, hdigit]
      · simp only [List.takeWhile_cons_of_neg hdigit, List.dropWhile_cons_of_neg hdigit]
        by_cases hpoint : char = '.'
        · subst hpoint
          cases text with
          | nil => rfl
          | cons next text =>
              by_cases hnext : next.isDigit
              · simp [hnext]
              · simp [hnext]
        · simp [hpoint, hdigit]

/-- A sign takes one character. -/
theorem signOf_length (text : List Char) :
    (signOf text).2 = if text.head? ∈ [some '+', some '-'] then 1 else 0 := by
  unfold signOf
  split
  · rfl
  · rfl
  · next hminus hplus =>
      rw [if_neg]
      cases text with
      | nil => simp
      | cons char text =>
          have hne : char ≠ '-' ∧ char ≠ '+' :=
            ⟨fun heq => hminus text (heq ▸ rfl), fun heq => hplus text (heq ▸ rfl)⟩
          simp [hne]

/-- A string literal moves the cursor or has its failure recorded. -/
theorem leaves_string {scanner : Scanner} (h : scanner.Coherent) :
    Leaves (Action.string.failure? scanner) scanner (Action.string.perform scanner) := by
  refine leaves_refusal h ?_
  unfold Parser.string
  split
  · next body hrest =>
      dsimp only
      rw [hrest, List.head?_cons, if_pos rfl]
      split
      · next hopen =>
          -- The text of a string that is not closed goes on to the end.
          have hbody : body.takeWhile (· ≠ '"') = body := by
            have hsplit := List.takeWhile_append_dropWhile (p := (· ≠ '"')) (l := body)
            rwa [List.isEmpty_iff.1 hopen, List.append_nil] at hsplit
          have hlength := congrArg List.length (hrest.symm.trans h)
          rw [List.length_cons, List.length_drop] at hlength
          have hend : scanner.offset + 1 + body.length = scanner.text.length := by omega
          rw [hbody, hend]
          exact .inr rfl
      · exact .inl ⟨_, _, rfl⟩
  · next hnot =>
      have hhead : scanner.rest.head? ≠ some '"' := by
        intro hhead
        obtain ⟨body, hbody⟩ := List.head?_eq_some_iff.1 hhead
        exact hnot body hbody
      rw [if_neg hhead]
      exact .inr rfl

/-- A number literal moves the cursor or has its failure recorded. -/
theorem leaves_number {scanner : Scanner} (h : scanner.Coherent) :
    Leaves (Action.number.failure? scanner) scanner (Action.number.perform scanner) := by
  refine leaves_refusal h ?_
  rw [← signOf_length, ← read?_isSome]
  unfold Parser.number
  dsimp only
  split
  · next hread =>
      rw [hread]
      exact .inr rfl
  · next numeral hread =>
      rw [hread]
      split
      · exact .inl ⟨_, _, rfl⟩
      · exact .inr rfl

/-- Every action records its failure, or moves the cursor inside the text and keeps the record. -/
theorem leaves_perform (action : Action) {scanner : Scanner} (h : scanner.Coherent) :
    Leaves (action.failure? scanner) scanner (action.perform scanner) := by
  cases action with
  | skipBlanks => exact ⟨rfl, h.advance _, rfl, rfl⟩
  | seek offset => exact ⟨rfl, rfl, rfl, rfl⟩
  | expect label => exact rfl
  | checkWord word => exact ⟨rfl, h, rfl, rfl⟩
  | string => exact leaves_string h
  | number => exact leaves_number h
  | char wanted =>
      refine leaves_refusal h ?_
      unfold Parser.char Parser.symbol
      split
      · exact .inl ⟨_, _, rfl⟩
      · exact .inr rfl
  | symbol wanted =>
      refine leaves_refusal h ?_
      unfold Parser.symbol
      split
      · exact .inl ⟨_, _, rfl⟩
      · exact .inr rfl
  | word wanted =>
      refine leaves_refusal h ?_
      unfold Parser.word
      split
      · exact .inl ⟨_, _, rfl⟩
      · exact .inr rfl
  | assignSign =>
      refine leaves_refusal h ?_
      unfold Parser.assignSign
      split
      · exact .inr rfl
      · exact .inl ⟨_, _, rfl⟩
      · exact .inr rfl
  | identifier =>
      refine leaves_refusal h ?_
      unfold Parser.identifier
      dsimp only
      split
      · exact .inl ⟨_, _, rfl⟩
      · exact .inr rfl

/-- What the scanner has recorded, it has recorded after one more action. -/
theorem Records.perform {failures : List Failure} {scanner : Scanner}
    (h : Records failures scanner) (hcoherent : scanner.Coherent) (action : Action) :
    Records (failures ++ (action.failure? scanner).toList) (action.perform scanner) := by
  have hleaves := leaves_perform action hcoherent
  cases hfailure : action.failure? scanner with
  | none =>
      rw [hfailure] at hleaves
      obtain ⟨-, -, hfurthest, hexpected⟩ := hleaves
      rw [Option.toList_none, List.append_nil]
      exact h.congr hfurthest hexpected
  | some failure =>
      rw [hfailure] at hleaves
      rw [hleaves]
      exact h.expectAt failure.1 failure.2

/-- An action stays in its text. -/
theorem Coherent.perform {scanner : Scanner} (h : scanner.Coherent) (action : Action) :
    (action.perform scanner).Coherent ∧ (action.perform scanner).text = scanner.text := by
  have hleaves := leaves_perform action h
  cases hfailure : action.failure? scanner with
  | none =>
      rw [hfailure] at hleaves
      exact ⟨hleaves.2.1, hleaves.1⟩
  | some failure =>
      rw [hfailure] at hleaves
      rw [hleaves]
      exact ⟨h.expectAt _ _, (expectAt_cursor _ _ _).1⟩

/-! ## Any number of actions -/

/-- Actions stay in their text. -/
theorem Coherent.performAll {scanner : Scanner} (h : scanner.Coherent) (actions : List Action) :
    (scanner.performAll actions).Coherent ∧ (scanner.performAll actions).text = scanner.text := by
  induction actions generalizing scanner with
  | nil => exact ⟨h, rfl⟩
  | cons action actions ih =>
      obtain ⟨hnext, htext⟩ := h.perform action
      exact ⟨(ih hnext).1, (ih hnext).2.trans htext⟩

/-- What the scanner has recorded, it has recorded after any number of actions. -/
theorem Records.performAll {earlier : List Failure} {scanner : Scanner}
    (h : Records earlier scanner) (hcoherent : scanner.Coherent) (actions : List Action) :
    Records (earlier ++ failures actions scanner) (scanner.performAll actions) := by
  induction actions generalizing earlier scanner with
  | nil => rwa [failures, List.append_nil]
  | cons action actions ih =>
      rw [failures, ← List.append_assoc]
      exact ih (h.perform hcoherent action) (hcoherent.perform action).1

/-- A scanner at the start of a text has recorded nothing. -/
theorem records_ofString (text : String) : Records [] (ofString text) where
  furthest := rfl
  sorted := .nil
  mem_expected _ := iff_of_false List.not_mem_nil List.not_mem_nil

/-! ## The error -/

/-- The line is one more than the line breaks of the text before, and the column one more than the
characters after the last of them. -/
theorem placeAfter_eq (text : List Char) :
    placeAfter (1, 1) text =
      (text.count '\n' + 1, (text.reverse.takeWhile (· ≠ '\n')).length + 1) := by
  induction text using List.reverseRecOn with
  | nil => rfl
  | append_singleton text char ih =>
      unfold placeAfter at ih ⊢
      rw [List.foldl_append, ih, List.foldl_cons, List.foldl_nil]
      by_cases hbreak : char = '\n'
      · subst hbreak
        simp
      · simp [hbreak]

/-- After any actions on a text the error of the scanner is the furthest failure of all of them: its
place, cut off at the end of the text, with the character, the line and the column of that place,
and every label that was expected there, in order and once each. -/
theorem error_performAll (text : String) (actions : List Action) :
    let history := failures actions (ofString text)
    let error := (performAll actions (ofString text)).error
    let before := text.toList.take error.offset
    error.offset = min (furthestOf history) text.length ∧
      error.expected.Pairwise (· < ·) ∧
      (∀ label, label ∈ error.expected ↔ (furthestOf history, label) ∈ history) ∧
      error.found = text.toList[error.offset]? ∧
      error.line = before.count '\n' + 1 ∧
      error.column = (before.reverse.takeWhile (· ≠ '\n')).length + 1 := by
  have hcoherent := coherent_ofString text
  obtain ⟨-, htext⟩ := hcoherent.performAll actions
  obtain ⟨hfurthest, hsorted, hmem⟩ := (records_ofString text).performAll hcoherent actions
  rw [List.nil_append] at hfurthest hmem
  -- All of the error is about the text that the scanner started with.
  have htext : (performAll actions (ofString text)).text = text.toList := htext
  have hoffset : (performAll actions (ofString text)).error.offset =
      min (furthestOf (failures actions (ofString text))) text.toList.length := by
    rw [← hfurthest, ← htext]
    rfl
  have hplace := placeAfter_eq
    (text.toList.take (performAll actions (ofString text)).error.offset)
  rw [← htext] at hplace ⊢
  refine ⟨?_, hsorted, fun label => ?_, rfl, ?_, ?_⟩
  · rw [hoffset, String.length_toList]
  · rw [← hfurthest]
    exact hmem label
  · exact congrArg Prod.fst hplace
  · exact congrArg Prod.snd hplace

-- The string that is not closed is missed at the end, further than the name before it.
example : (performAll [.identifier, .word "if", .seek 3, .string, .seek 0]
    (ofString "ab\n\"x")).error = ⟨5, 2, 3, ["\"\\\"\""], none⟩ := by decide

end Scanner

end HostScript

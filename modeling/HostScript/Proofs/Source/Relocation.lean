import HostScript.Proofs.Source.Actions
import HostScript.Proofs.Source.Compiling

/-!
# Reading from the middle of a text

A parser never looks behind its cursor. From any place in a text it reads what it reads from the
start of the text that follows there, and an error is the same one, only at a place that counts
from the start of the whole text. Read `parseProgram_seek` first.
-/

namespace HostScript

namespace Scanner

/-- A scanner stands in a text where another one stands in the text without its first `count`
characters, and has recorded the same. Places differ by `count`, except for the furthest failure as
long as there was none: it is still the start of either text. -/
structure Shifted (count : Nat) (whole part : Scanner) : Prop where
  text : whole.text.drop count = part.text
  offset : whole.offset = part.offset + count
  rest : whole.rest = part.rest
  expected : whole.expected = part.expected
  furthest : whole.furthest = part.furthest + count ∨
    whole.expected = [] ∧ whole.furthest ≤ count ∧ part.furthest = 0

namespace Shifted

variable {count : Nat} {whole part earlier otherEarlier : Scanner}

/-- Moving both scanners on keeps the shift between them. -/
theorem advance (h : whole.Shifted count part) (length : Nat) :
    (whole.advance length).Shifted count (part.advance length) where
  text := h.text
  offset := by
    show whole.offset + length = part.offset + length + count
    rw [h.offset, Nat.add_right_comm]
  rest := congrArg (List.drop length) h.rest
  expected := h.expected
  furthest := h.furthest

/-- Skipping blanks keeps the shift between the scanners. -/
theorem skipBlanks (h : whole.Shifted count part) :
    whole.skipBlanks.Shifted count part.skipBlanks := by
  unfold Scanner.skipBlanks
  rw [h.rest]
  exact h.advance _

/-- Going back to places that are shifted keeps the shift between the scanners. -/
theorem rewind (h : whole.Shifted count part) (hearlier : earlier.Shifted count otherEarlier) :
    (whole.rewind earlier).Shifted count (part.rewind otherEarlier) where
  text := h.text
  offset := hearlier.offset
  rest := hearlier.rest
  expected := h.expected
  furthest := h.furthest

/-- What is expected is recorded alike. The first record aligns the furthest failures. -/
theorem expectAt (h : whole.Shifted count part) (offset : Nat) (label : String) :
    (whole.expectAt (offset + count) label).Shifted count (part.expectAt offset label) := by
  obtain ⟨htext, hoffset, hrest, hexpected, hfurthest | ⟨hnone, hle, hzero⟩⟩ := h
  · unfold Scanner.expectAt
    rw [hfurthest]
    simp only [Nat.add_lt_add_iff_right, Nat.add_right_cancel_iff]
    split
    · exact ⟨htext, hoffset, hrest, rfl, .inl rfl⟩
    split
    · exact ⟨htext, hoffset, hrest, congrArg (insertLabel label) hexpected, .inl rfl⟩
    · exact ⟨htext, hoffset, hrest, hexpected, .inl hfurthest⟩
  · -- Nothing was recorded, so the label is all that is, wherever it was expected.
    have hwhole : whole.expectAt (offset + count) label =
        { whole with furthest := offset + count, expected := [label] } := by
      unfold Scanner.expectAt
      split
      · rfl
      · have hsame : offset + count = whole.furthest := by omega
        rw [if_pos hsame, hnone, hsame]
        rfl
    have hpart : part.expectAt offset label =
        { part with furthest := offset, expected := [label] } := by
      unfold Scanner.expectAt
      split
      · rfl
      · have hsame : offset = part.furthest := by omega
        rw [if_pos hsame, ← hexpected, hnone, hsame]
        rfl
    rw [hwhole, hpart]
    exact ⟨htext, hoffset, hrest, rfl, .inl rfl⟩

end Shifted

end Scanner

namespace Parser

open Scanner (Shifted)

variable {α β σ : Type} {count : Nat}

/-- Two outcomes of parsing are the same, but for the place. -/
def SameOutcome (count : Nat) (first other : Option α × Scanner) : Prop :=
  first.1 = other.1 ∧ first.2.Shifted count other.2

/-- A parser does the same in a text and in what follows the first characters of that text. -/
def Relocates (count : Nat) (p : Parser α) : Prop :=
  ∀ whole part : Scanner, whole.Shifted count part → SameOutcome count (p whole) (p part)

namespace Relocates

variable {p : Parser α}

/-- Whatever follows a parser starts from the same place after the same outcome. -/
theorem commit {yes : α → Parser β} {no : Parser β} (h : Relocates count p)
    (hyes : ∀ value, Relocates count (yes value)) (hno : Relocates count no) :
    Relocates count (commit p yes no) := by
  intro whole part hshifted
  obtain ⟨hresult, hnext⟩ := h whole part hshifted
  unfold Parser.commit
  rcases hwhole : p whole with ⟨result, next⟩
  rcases hpart : p part with ⟨other, otherNext⟩
  rw [hwhole, hpart] at hresult hnext
  obtain rfl : result = other := hresult
  cases result with
  | some value => exact hyes value next otherNext hnext
  | none => exact hno next otherNext hnext

/-- A choice after blanks relocates if what it is made of does. -/
theorem afterBlanks {yes : α → Parser β} {no : Parser β} (h : Relocates count p)
    (hyes : ∀ value, Relocates count (yes value)) (hno : Relocates count no) :
    Relocates count (afterBlanks p yes no) := by
  intro whole part hshifted
  obtain ⟨hresult, hnext⟩ := h _ _ hshifted.skipBlanks
  rw [afterBlanks_apply, afterBlanks_apply]
  unfold Parser.commit
  rcases hwhole : p whole.skipBlanks with ⟨result, next⟩
  rcases hpart : p part.skipBlanks with ⟨other, otherNext⟩
  rw [hwhole, hpart] at hresult hnext
  obtain rfl : result = other := hresult
  cases result with
  | some value => exact hyes value next otherNext hnext
  | none => exact hno _ _ (hnext.rewind hshifted)

/-- As many characters are left in both texts, so recursion goes equally deep. -/
theorem fix {body : (σ → Parser α) → σ → Parser α}
    (hbody : ∀ f : σ → Parser α, (∀ state, Relocates count (f state)) →
      ∀ state, Relocates count (body f state)) (state : σ) : Relocates count (fix body state) := by
  have hunroll : ∀ depth state, Relocates count (unroll body depth state) := by
    intro depth
    induction depth with
    | zero => exact fun _ _ _ hshifted => ⟨rfl, hshifted⟩
    | succ depth ih => exact hbody _ ih
  intro whole part hshifted
  unfold Parser.fix
  rw [hshifted.rest]
  exact hunroll _ state whole part hshifted

end Relocates

section Lexemes

variable {whole part : Scanner}

/-- What is taken after the cursor is taken in both texts. -/
theorem sameOutcome_advance (h : whole.Shifted count part) (value : α) (length : Nat) :
    SameOutcome count (some value, whole.advance length) (some value, part.advance length) :=
  ⟨rfl, h.advance length⟩

/-- What is missed after the cursor is missed in both texts. -/
theorem sameOutcome_expectAt (h : whole.Shifted count part) (ahead : Nat) (label : String) :
    SameOutcome count ((none : Option α), whole.expectAt (whole.offset + ahead) label)
      (none, part.expectAt (part.offset + ahead) label) := by
  rw [h.offset, Nat.add_right_comm]
  exact ⟨rfl, h.expectAt _ label⟩

/-- Failing to find something is the same outcome in both texts. -/
theorem sameOutcome_expect (h : whole.Shifted count part) (label : String) :
    SameOutcome count ((none : Option α), whole.expect label) (none, part.expect label) :=
  sameOutcome_expectAt h 0 label

end Lexemes

/-- A symbol relocates. -/
theorem symbol_relocates (spelling : String) : Relocates count (symbol spelling) := by
  intro whole part h
  unfold symbol Scanner.startsWith
  rw [h.rest]
  split
  · exact sameOutcome_advance h () _
  · exact sameOutcome_expect h _

/-- A word relocates. -/
theorem word_relocates (spelling : String) : Relocates count (word spelling) := by
  intro whole part h
  unfold word Scanner.startsWithWord Scanner.startsWith
  rw [h.rest]
  split
  · exact sameOutcome_advance h () _
  · exact sameOutcome_expect h _

/-- The sign of an assignment relocates. -/
theorem assignSign_relocates : Relocates count assignSign := by
  intro whole part h
  unfold assignSign
  rw [h.rest]
  split
  · exact sameOutcome_expect h _
  · exact sameOutcome_advance h () _
  · exact sameOutcome_expect h _

/-- A name relocates. -/
theorem identifier_relocates : Relocates count identifier := by
  intro whole part h
  unfold identifier
  rw [h.rest]
  dsimp only
  split
  · exact sameOutcome_advance h _ _
  · exact sameOutcome_expect h _

/-- A string literal relocates. -/
theorem string_relocates : Relocates count string := by
  intro whole part h
  unfold string
  rw [h.rest]
  split
  · dsimp only
    split
    · rw [Nat.add_assoc, Nat.add_assoc]
      exact sameOutcome_expectAt h _ _
    · exact sameOutcome_advance h _ _
  · exact sameOutcome_expect h _

/-- A number literal relocates. -/
theorem number_relocates : Relocates count number := by
  intro whole part h
  unfold number
  rw [h.rest]
  dsimp only
  split
  · exact sameOutcome_expectAt h _ _
  · split
    · exact sameOutcome_advance h _ _
    · exact sameOutcome_expect h _

/-- All parsers of the grammar read from the cursor on. -/
theorem relocates_hereditary (count : Nat) : Hereditary (Relocates count) where
  succeed _ _ _ h := ⟨rfl, h⟩
  fail _ _ h := ⟨rfl, h⟩
  commit := .commit
  afterBlanks := .afterBlanks
  fix := .fix
  skipBlanks _ _ h := ⟨rfl, h.skipBlanks⟩
  symbol := symbol_relocates
  word := word_relocates
  assignSign := assignSign_relocates
  identifier := identifier_relocates
  string := string_relocates
  number := number_relocates
  atBlockEnd terminators whole part h := by
    refine ⟨?_, h⟩
    unfold atBlockEnd Scanner.isAtEnd Scanner.startsWithWord Scanner.startsWith
    rw [h.rest]
  endOfText whole part h := by
    unfold endOfText Scanner.isAtEnd
    rw [h.rest]
    split
    · exact ⟨rfl, h⟩
    · exact sameOutcome_expect h _

/-- At the end of a text there is an empty program, and the scanner stays as it is. -/
theorem program_of_atEnd {scanner : Scanner} (h : scanner.rest = []) :
    program scanner = (some ⟨[]⟩, scanner) := by
  cases scanner
  cases h
  rfl

/-- A program is read up to the end of the text. -/
theorem atEnd_of_program {scanner next : Scanner} {result : Program}
    (h : program scanner = (some result, next)) : next.rest = [] := by
  obtain ⟨_, _, -, h⟩ := bind_success h
  obtain ⟨_, _, hend, h⟩ := bind_success h
  cases h
  obtain ⟨rfl, hrest⟩ := endOfText_success hend
  exact hrest

end Parser

namespace Scanner

/-- The scanner after the given number of attempts to read a program. -/
def afterAttempts : Nat → Scanner → Scanner
  | 0, scanner => scanner
  | count + 1, scanner => afterAttempts count scanner.parseProgram.2

/-- Once a program was read, an empty program is read again and again. -/
theorem parseProgram_afterAttempts {scanner next : Scanner} {program : Program}
    (h : scanner.parseProgram = (.ok program, next)) (count : Nat) :
    (next.afterAttempts count).parseProgram.1 = .ok ⟨[]⟩ := by
  have hrest : next.rest = [] := by
    unfold parseProgram at h
    split at h
    · next found after hfound =>
        cases h
        exact Parser.atEnd_of_program hfound
    · cases h
  have hempty : next.parseProgram = (.ok ⟨[]⟩, next) := by
    unfold parseProgram
    rw [Parser.program_of_atEnd hrest]
  induction count with
  | zero => rw [afterAttempts, hempty]
  | succ count ih => rwa [afterAttempts, hempty]

/-- The line and the column of an error are those of its offset in the whole text. -/
theorem error_place (scanner : Scanner) :
    scanner.error.line = (scanner.text.take scanner.error.offset).count '\n' + 1 ∧
    scanner.error.column =
      ((scanner.text.take scanner.error.offset).reverse.takeWhile (· ≠ '\n')).length + 1 :=
  ⟨congrArg Prod.fst (placeAfter_eq _), congrArg Prod.snd (placeAfter_eq _)⟩

/-- Once something was recorded, the errors differ in their place only. -/
theorem Shifted.error {count : Nat} {whole part : Scanner} (h : whole.Shifted count part)
    (hexpected : part.expected ≠ []) (htext : part.text ≠ []) :
    whole.error.expected = part.error.expected ∧ whole.error.found = part.error.found ∧
    whole.error.offset = part.error.offset + count := by
  have hfurthest : whole.furthest = part.furthest + count :=
    h.furthest.resolve_right fun hnone => hexpected (h.expected.symm.trans hnone.1)
  have hlength : whole.text.length = part.text.length + count := by
    have hpart : part.text.length = whole.text.length - count := by rw [← h.text, List.length_drop]
    have hpos := List.length_pos_iff.2 htext
    omega
  have hoffset : min whole.furthest whole.text.length =
      min part.furthest part.text.length + count := by
    rw [hfurthest, hlength, Nat.add_min_add_right]
  refine ⟨h.expected, ?_, hoffset⟩
  show whole.text[min whole.furthest whole.text.length]? = part.text[min _ _]?
  rw [hoffset, ← h.text, List.getElem?_drop, Nat.add_comm]

/-- A program that is not read from the start of a text leaves something that was expected, and the
text is not empty. -/
theorem expected_of_failed {source : String} {next : Scanner}
    (h : Parser.program (.ofString source) = (none, next)) :
    next.expected ≠ [] ∧ next.text ≠ [] := by
  have hcoherent := coherent_ofString source
  obtain ⟨actions, rfl, hfailed⟩ := Parser.program_misses hcoherent h
  refine ⟨((records_ofString source).performAll hcoherent actions).expected_ne_nil hfailed, ?_⟩
  rw [(hcoherent.performAll actions).2]
  intro hempty
  rw [Parser.program_of_atEnd hempty] at h
  cases h

/-- A program that the parser finds is the result. -/
theorem parseProgram_of_some {scanner next : Scanner} {program : Program}
    (h : Parser.program scanner = (some program, next)) :
    scanner.parseProgram.1 = .ok program := by
  rw [parseProgram, h]

/-- If the parser finds none, the result is the error that the scanner has recorded. -/
theorem parseProgram_of_none {scanner next : Scanner} (h : Parser.program scanner = (none, next)) :
    scanner.parseProgram.1 = .error next.error := by
  rw [parseProgram, h]

/-- Reading a program does not change the text. -/
theorem text_of_program {scanner next : Scanner} {found : Option Program}
    (hcoherent : scanner.Coherent) (h : Parser.program scanner = (found, next)) :
    next.text = scanner.text := by
  have hbecomes := Parser.program_performs _ hcoherent
  rw [h] at hbecomes
  obtain ⟨actions, hactions⟩ := hbecomes
  exact (congrArg Scanner.text hactions).trans (hcoherent.performAll actions).2

/-- A scanner that skipped the start of a text stands where one at the start of the other text
stands. -/
theorem shifted_seek (source : String) (start : Nat) :
    ((ofString source).seek start).Shifted start
      (ofString (String.ofList (source.toList.drop start))) := by
  refine ⟨String.toList_ofList.symm, (Nat.zero_add start).symm, String.toList_ofList.symm, rfl, ?_⟩
  exact .inr ⟨rfl, Nat.zero_le start, rfl⟩

/-- From any place in a text a program is read if and only if it is what the text after that place
compiles to. Otherwise the error is the one of that text, with the same labels and the same
character, and its place is further right by as much as was skipped, with the line and the column
that this place has in the whole text. After a program was read, every further attempt reads an
empty program. -/
theorem parseProgram_seek (source : String) (start : Nat) :
    let result := ((ofString source).seek start).parseProgram.1
    let following := String.ofList (source.toList.drop start)
    (∀ program, result = .ok program ↔ compile following = .ok program) ∧
    (∀ error, result = .error error → ∃ other, compile following = .error other ∧
      error.expected = other.expected ∧ error.found = other.found ∧
      error.offset = other.offset + start ∧
      error.line = (source.toList.take error.offset).count '\n' + 1 ∧
      error.column =
        ((source.toList.take error.offset).reverse.takeWhile (· ≠ '\n')).length + 1) ∧
    ∀ (scanner next : Scanner) (program : Program), scanner.parseProgram = (.ok program, next) →
      ∀ count, (next.afterAttempts count).parseProgram.1 = .ok ⟨[]⟩ := by
  intro result following
  obtain ⟨hresult, hnext⟩ :=
    (Parser.relocates_hereditary start).program _ _ (shifted_seek source start)
  rcases hwhole : Parser.program ((ofString source).seek start) with ⟨_ | found, next⟩
  · rw [hwhole] at hresult hnext
    rcases hpart : Parser.program (ofString following) with ⟨_ | _, otherNext⟩
    · rw [hpart] at hnext
      have hfailed : result = .error next.error := parseProgram_of_none hwhole
      have hother : compile following = .error otherNext.error := parseProgram_of_none hpart
      obtain ⟨hexpected, htext⟩ := expected_of_failed hpart
      obtain ⟨hlabels, hfound, hoffset⟩ := hnext.error hexpected htext
      refine ⟨fun program => ?_, fun error herror => ?_, fun _ _ _ => parseProgram_afterAttempts⟩
      · rw [hfailed, hother]
        exact iff_of_false nofun nofun
      · rw [hfailed] at herror
        cases herror
        have hcoherent : ((ofString source).seek start).Coherent := rfl
        obtain ⟨hline, hcolumn⟩ := error_place next
        rw [text_of_program hcoherent hwhole] at hline hcolumn
        exact ⟨otherNext.error, hother, hlabels, hfound, hoffset, hline, hcolumn⟩
    · rw [hpart] at hresult
      cases hresult
  · rw [hwhole] at hresult
    have hread : result = .ok found := parseProgram_of_some hwhole
    have hother : compile following = .ok found :=
      compile_eq_ok_iff.2 ⟨(Parser.program (ofString following)).2, Prod.ext hresult.symm rfl⟩
    refine ⟨fun program => ?_, fun error herror => ?_, fun _ _ _ => parseProgram_afterAttempts⟩
    · rw [hread, hother]
    · rw [hread] at herror
      cases herror

/-- The third character of a text starts a program, the error in it is on the second line of the
text, and after a program was read there is nothing but an empty one. -/
theorem parseProgram_seek_third :
    let failed := ((ofString "a b = x\nc.").seek 2).parseProgram
    let read := ((ofString "a b = x").seek 2).parseProgram
    failed.1 = .error ⟨10, 2, 3, ["identifier"], none⟩ ∧
    (∃ other, compile "b = x\nc." = .error other ∧ ["identifier"] = other.expected ∧
      none = other.found ∧ 10 = other.offset + 2) ∧
    compile "b = x" = .ok ⟨[.assign "b" (.var "x")]⟩ ∧
    (read.2.afterAttempts 3).parseProgram.1 = .ok ⟨[]⟩ := by
  intro failed read
  have hfailed : failed.1 = .error ⟨10, 2, 3, ["identifier"], none⟩ := by rfl
  have hread : read = (.ok ⟨[.assign "b" (.var "x")]⟩, read.2) := by rfl
  obtain ⟨-, herror, -⟩ := parseProgram_seek "a b = x\nc." 2
  obtain ⟨hsame, -, hagain⟩ := parseProgram_seek "a b = x" 2
  obtain ⟨other, hother, hexpected, hfound, hoffset, -, -⟩ := herror _ hfailed
  refine ⟨hfailed, ⟨other, hother, hexpected, hfound, hoffset⟩, ?_, hagain _ _ _ hread 3⟩
  exact (hsame _).1 (congrArg Prod.fst hread)

end Scanner

end HostScript

import HostScript.Proofs.Source.Phrases
import HostScript.Proofs.Source.Recursion
import HostScript.Source.Grammar

/-!
# Lexemes and their parsers

Every parser of a lexeme either takes characters that are there or fails and stays. `Reads p R` says
that such a parser is the relation `R` of the grammar: it succeeds exactly on the texts that start
with the lexeme, and takes just that. For numbers the two directions are `number_sound` and
`takes_number`, since a literal need not be the longest one.
-/

namespace HostScript

/-- A name may go on with what it may start with. -/
theorem isNamePart_of_isNameStart {char : Char} (h : isNameStart char = true) :
    isNamePart char = true := by
  simp only [isNameStart, isNamePart, Char.isAlphanum, Bool.or_eq_true] at h ⊢
  rcases h with (h | h) | h
  · exact .inl (.inl (.inl h))
  · exact .inl (.inr h)
  · exact .inr h

namespace Parser

open Grammar

variable {α β : Type}

/-! ## Moving over a lexeme -/

/-- A parser that takes some characters that are there, or fails and stays. -/
structure Lexeme (p : Parser α) : Prop where
  reaches : ∀ scanner : Scanner, scanner.Reaches (p scanner).2
  takes : ∀ {scanner next value}, p scanner = (some value, next) →
    next.rest.length < scanner.rest.length
  stays : ∀ {scanner next}, p scanner = (none, next) → next.rest = scanner.rest

namespace Lexeme

variable {p : Parser α}

/-- A parser that moves over some characters that are there, or records one failure. -/
theorem of_scan
    (h : ∀ scanner : Scanner,
      (∃ value count, 0 < count ∧ count ≤ scanner.rest.length ∧
        p scanner = (some value, scanner.advance count)) ∨
      ∃ offset label, p scanner = (none, scanner.expectAt offset label)) : Lexeme p where
  reaches scanner := by
    rcases h scanner with ⟨value, count, -, hle, heq⟩ | ⟨offset, label, heq⟩
    · rw [heq]
      exact scanner.reaches_advance hle
    · rw [heq]
      exact scanner.reaches_expectAt offset label
  takes {scanner next value} hsome := by
    rcases h scanner with ⟨_, count, hpos, hle, heq⟩ | ⟨offset, label, heq⟩
    · rw [heq] at hsome
      cases hsome
      rw [Scanner.rest_advance, List.length_drop]
      omega
    · rw [heq] at hsome
      cases hsome
  stays {scanner next} hnone := by
    rcases h scanner with ⟨value, count, hpos, hle, heq⟩ | ⟨offset, label, heq⟩
    · rw [heq] at hnone
      cases hnone
    · rw [heq] at hnone
      cases hnone
      exact Scanner.rest_expectAt offset label scanner

/-- A lexeme agrees with itself and gains at least one character. -/
theorem agree (h : Lexeme p) {count : Nat} : Agree 1 count p p := by
  intro scanner _
  refine ⟨rfl, h.reaches scanner, fun hsome => ?_⟩
  obtain ⟨value, hvalue⟩ := Option.isSome_iff_exists.1 hsome
  exact h.takes (Prod.ext hvalue rfl : p scanner = (some value, (p scanner).2))

end Lexeme

/-- What stands at the cursor is at most as long as the text that is left. -/
theorem length_le_of_startsWith {symbol : String} {scanner : Scanner}
    (h : scanner.startsWith symbol = true) : symbol.length ≤ scanner.rest.length := by
  have hprefix : symbol.toList <+: scanner.rest := List.isPrefixOf_iff_prefix.1 h
  rw [← String.length_toList]
  exact hprefix.length_le

/-- A symbol is a lexeme unless it is empty. -/
theorem symbol_lexeme {symbol : String} (hne : 0 < symbol.length) :
    Lexeme (Parser.symbol symbol) := by
  refine .of_scan fun scanner => ?_
  unfold Parser.symbol
  split
  · next h => exact .inl ⟨(), _, hne, length_le_of_startsWith h, rfl⟩
  · exact .inr ⟨_, _, rfl⟩

/-- One character is a lexeme. -/
theorem char_lexeme (char : Char) : Lexeme (Parser.char char) :=
  symbol_lexeme (by simp)

/-- A word is a lexeme unless it is empty. -/
theorem word_lexeme {word : String} (hne : 0 < word.length) : Lexeme (Parser.word word) := by
  refine .of_scan fun scanner => ?_
  unfold Parser.word
  split
  · next h =>
      have hstarts : scanner.startsWith word = true := (Bool.and_eq_true_iff.1 h).1
      exact .inl ⟨(), _, hne, length_le_of_startsWith hstarts, rfl⟩
  · exact .inr ⟨_, _, rfl⟩

/-- The equals sign of an assignment is a lexeme. -/
theorem assignSign_lexeme : Lexeme assignSign := by
  refine .of_scan fun scanner => ?_
  unfold assignSign
  split
  · exact .inr ⟨_, _, rfl⟩
  · next h => exact .inl ⟨(), 1, Nat.one_pos, by rw [h]; simp, rfl⟩
  · exact .inr ⟨_, _, rfl⟩

/-- A name is a lexeme. -/
theorem identifier_lexeme : Lexeme identifier := by
  refine .of_scan fun scanner => ?_
  unfold identifier
  dsimp only
  split
  · next h =>
      refine .inl ⟨_, _, ?_, ?_, rfl⟩
      · rw [String.length_ofList]
        cases hrest : scanner.rest with
        | nil => simp [hrest] at h
        | cons first others =>
            have hstart : isNameStart first = true := by
              simpa [hrest] using (Bool.and_eq_true_iff.1 h).1
            rw [List.takeWhile_cons_of_pos (isNamePart_of_isNameStart hstart)]
            simp
      · rw [String.length_ofList]
        exact (List.takeWhile_sublist _).length_le
  · exact .inr ⟨_, _, rfl⟩

/-- A string is a lexeme. -/
theorem string_lexeme : Lexeme string := by
  refine .of_scan fun scanner => ?_
  unfold string
  split
  · next body hrest =>
      dsimp only
      split
      · exact .inr ⟨_, _, rfl⟩
      · next hclosed =>
          refine .inl ⟨_, _, Nat.succ_pos _, ?_, rfl⟩
          have hpos : 0 < (body.dropWhile (· ≠ '"')).length :=
            List.length_pos_iff.2 fun hnil => hclosed (by rw [hnil]; rfl)
          have hsplit := congrArg List.length
            (List.takeWhile_append_dropWhile (p := (· ≠ '"')) (l := body))
          rw [List.length_append] at hsplit
          rw [hrest, List.length_cons]
          omega
  · exact .inr ⟨_, _, rfl⟩

end Parser

namespace Grammar.Blanks

variable {text mid rest : List Char}

/-- Blanks may be empty. -/
theorem refl (text : List Char) : Blanks text text :=
  ⟨[], (fun _ h => by cases h), rfl⟩

/-- Blanks and more blanks are blanks. -/
theorem trans (h : Blanks text mid) (hnext : Blanks mid rest) : Blanks text rest := by
  obtain ⟨blanks, hblanks, rfl⟩ := h
  obtain ⟨more, hmore, rfl⟩ := hnext
  refine ⟨blanks ++ more, fun char hchar => ?_, (List.append_assoc _ _ _).symm⟩
  rcases List.mem_append.1 hchar with hchar | hchar
  · exact hblanks char hchar
  · exact hmore char hchar

/-- The blanks at the start of a text. -/
theorem dropWhile (text : List Char) : Blanks text (text.dropWhile Text.isSeparator) :=
  ⟨text.takeWhile Text.isSeparator,
    fun char hchar => (Text.isSeparator_iff char).1 (List.mem_takeWhile_imp hchar),
    List.takeWhile_append_dropWhile.symm⟩

/-- Where there is no blank, blanks are empty. -/
theorem eq_of_stops (h : Blanks text rest) (hstops : Text.Stops Text.isSeparator text) :
    rest = text := by
  obtain ⟨blanks, hblanks, rfl⟩ := h
  cases blanks with
  | nil => rfl
  | cons char blanks =>
      have hblank := (Text.isSeparator_iff char).2 (hblanks char List.mem_cons_self)
      rw [hstops char rfl] at hblank
      cases hblank

end Grammar.Blanks

namespace Numeral

open Grammar

/-- Digits that are read are digits. -/
theorem isDigit_of_mem_takeWhile {text : List Char} :
    ∀ char ∈ text.takeWhile Char.isDigit, char.isDigit = true :=
  fun _ h => List.mem_takeWhile_imp h

/-- A literal that is read stands at the start of the text. -/
theorem read?_sound {text : List Char} {numeral : Numeral} (h : read? text = some numeral) :
    ∃ literal rest, Unsigned literal numeral.whole numeral.fraction ∧ text = literal ++ rest ∧
      literal.length = numeral.length := by
  have hsplit := List.takeWhile_append_dropWhile (p := Char.isDigit) (l := text)
  unfold read? at h
  dsimp only at h
  split at h
  · next after hafter =>
      have hfraction := List.takeWhile_append_dropWhile (p := Char.isDigit) (l := after)
      rw [hafter] at hsplit
      split at h
      · cases h
      · next hsome =>
          cases h
          simp only [Bool.and_eq_true, List.isEmpty_iff, not_and] at hsome
          refine ⟨text.takeWhile Char.isDigit ++ '.' :: after.takeWhile Char.isDigit,
            after.dropWhile Char.isDigit, ?_, ?_, ?_⟩
          · by_cases hwhole : text.takeWhile Char.isDigit = []
            · rw [hwhole]
              exact .leading _ (hsome hwhole) isDigit_of_mem_takeWhile
            · exact .point _ _ hwhole isDigit_of_mem_takeWhile isDigit_of_mem_takeWhile
          · rw [List.append_assoc, List.cons_append, hfraction, hsplit]
          · simp only [List.length_append, List.length_cons]
            omega
  · split at h
    · cases h
    · next hsome =>
        cases h
        refine ⟨_, _, .whole _ ?_ isDigit_of_mem_takeWhile, hsplit.symm, rfl⟩
        simpa using hsome

/-- Digits on one side of a point at least are read with the digits that follow them. -/
theorem read?_point {whole fraction : List Char} (rest : List Char)
    (hwhole : ∀ char ∈ whole, char.isDigit) (hfraction : ∀ char ∈ fraction, char.isDigit)
    (hne : whole ≠ [] ∨ fraction ≠ []) :
    read? (whole ++ '.' :: (fraction ++ rest)) =
      some ⟨whole, fraction ++ rest.takeWhile Char.isDigit,
        whole.length + 1 + (fraction ++ rest.takeWhile Char.isDigit).length⟩ := by
  have hpoint : Text.Stops Char.isDigit ('.' :: (fraction ++ rest)) := by simp
  unfold read?
  rw [Text.takeWhile_run hwhole hpoint, Text.dropWhile_run hwhole hpoint]
  simp only [List.takeWhile_append_of_pos hfraction]
  rw [if_neg]
  simp only [Bool.and_eq_true, List.isEmpty_iff, List.append_eq_nil_iff, not_and]
  exact fun hempty hfractionEmpty => absurd hfractionEmpty (hne.resolve_left (not_not.2 hempty))

/-- A literal that nothing continues is read whole. -/
theorem read?_complete {literal whole fraction rest : List Char}
    (h : Unsigned literal whole fraction)
    (hrest : Text.Stops (fun char => char.isDigit || char == '.') rest) :
    read? (literal ++ rest) = some ⟨whole, fraction, literal.length⟩ := by
  have hdigit : Text.Stops Char.isDigit rest := fun char hchar => by
    have := hrest char hchar
    simp only [Bool.or_eq_false_iff] at this
    exact this.1
  cases h with
  | whole digits hne hdigits =>
      unfold read?
      rw [Text.takeWhile_run hdigits hdigit, Text.dropWhile_run hdigits hdigit]
      split
      · exact absurd (hrest '.' rfl) (by decide)
      · simp [hne]
  | point whole fraction hne hwhole hfraction =>
      rw [List.append_assoc, List.cons_append, read?_point rest hwhole hfraction (.inl hne),
        Text.takeWhile_of_stops hdigit]
      simp [Nat.add_assoc, Nat.add_comm 1]
  | leading fraction hne hfraction =>
      have hread := @read?_point [] fraction rest (fun _ h => by cases h) hfraction (.inr hne)
      rw [List.nil_append, Text.takeWhile_of_stops hdigit] at hread
      rw [List.cons_append, hread]
      simp [Nat.add_comm 1]

end Numeral

/-- The sign that is found stands at the start of the text. -/
theorem signOf_sound (text : List Char) :
    ∃ sign, Grammar.Sign sign (signOf text).1 ∧ text = sign ++ text.drop (signOf text).2 ∧
      sign.length = (signOf text).2 := by
  unfold signOf
  split
  · exact ⟨['-'], .minus, rfl, rfl⟩
  · exact ⟨['+'], .plus, rfl, rfl⟩
  · exact ⟨[], .none, rfl, rfl⟩

/-- A sign before something else is found. -/
theorem signOf_complete {sign text : List Char} {negative : Bool} (h : Grammar.Sign sign negative)
    (htext : Text.Stops (fun char => char == '+' || char == '-') text) :
    signOf (sign ++ text) = (negative, sign.length) := by
  cases h with
  | plus | minus => rfl
  | none =>
      rw [List.nil_append]
      unfold signOf
      split
      · exact absurd (htext '-' rfl) (by decide)
      · exact absurd (htext '+' rfl) (by decide)
      · rfl

/-- An unsigned number starts with a digit or a point. -/
theorem Grammar.Unsigned.head {literal whole fraction : List Char}
    (h : Unsigned literal whole fraction) :
    ∃ first others, literal = first :: others ∧ (first.isDigit || first == '.') = true := by
  cases h with
  | whole digits hne hdigits =>
      obtain ⟨first, others, rfl⟩ := List.exists_cons_of_ne_nil hne
      exact ⟨first, others, rfl, by simp [hdigits first List.mem_cons_self]⟩
  | point whole fraction hne hwhole hfraction =>
      obtain ⟨first, others, rfl⟩ := List.exists_cons_of_ne_nil hne
      exact ⟨first, _, rfl, by simp [hwhole first List.mem_cons_self]⟩
  | leading fraction hne hfraction => exact ⟨'.', fraction, rfl, rfl⟩

/-- The start of an unsigned number is not taken for a sign. -/
theorem Grammar.Unsigned.stops_sign {literal whole fraction : List Char}
    (h : Unsigned literal whole fraction) (rest : List Char) :
    Text.Stops (fun char => char == '+' || char == '-') (literal ++ rest) := by
  obtain ⟨first, others, hhead, hfirst⟩ := h.head
  rw [hhead, List.cons_append, Text.stops_cons]
  cases hplus : first == '+' with
  | true => rw [beq_iff_eq.1 hplus] at hfirst; exact absurd hfirst (by decide)
  | false =>
      cases hminus : first == '-' with
      | true => rw [beq_iff_eq.1 hminus] at hfirst; exact absurd hfirst (by decide)
      | false => rfl

namespace Parser

open Grammar

variable {α β : Type}

/-- Dropping what stands at the front leaves the rest. -/
theorem rest_advance_append {scanner : Scanner} {taken rest : List Char}
    (h : scanner.rest = taken ++ rest) : (scanner.advance taken.length).rest = rest := by
  rw [Scanner.rest_advance, h, List.drop_left]

/-- A number that is read is a literal at the cursor. -/
theorem number_success {scanner next : Scanner} {value : Binary64}
    (h : number scanner = (some value, next)) :
    ∃ literal, Literal literal value ∧ literal ≠ [] ∧ next = scanner.advance literal.length ∧
      scanner.rest = literal ++ next.rest := by
  obtain ⟨sign, hsign, htext, hlength⟩ := signOf_sound scanner.rest
  unfold number at h
  dsimp only at h
  split at h
  · cases h
  · next numeral hread =>
      obtain ⟨digits, rest, hdigits, hrest, hcount⟩ := Numeral.read?_sound hread
      obtain ⟨first, others, hfirst, -⟩ := hdigits.head
      split at h
      · next hfinite =>
          cases h
          refine ⟨sign ++ digits, ⟨sign, _, digits, _, _, hsign, hdigits, rfl, hfinite, rfl⟩,
            by rw [hfirst]; simp, by rw [List.length_append, hlength, hcount], ?_⟩
          rw [hrest, ← List.append_assoc] at htext
          rw [← hlength, ← hcount, ← List.length_append, rest_advance_append htext, htext]
      · cases h

/-- A number is a lexeme. -/
theorem number_lexeme : Lexeme number := by
  refine .of_scan fun scanner => ?_
  cases hresult : number scanner with
  | mk found next =>
      cases found with
      | some value =>
          obtain ⟨literal, -, hne, rfl, hrest⟩ := number_success hresult
          refine .inl ⟨value, literal.length, List.length_pos_iff.2 hne, ?_, rfl⟩
          rw [hrest, List.length_append]
          omega
      | none =>
          unfold number at hresult
          dsimp only at hresult
          split at hresult
          · cases hresult
            exact .inr ⟨_, _, rfl⟩
          · split at hresult
            · cases hresult
            · cases hresult
              exact .inr ⟨_, _, rfl⟩

/-! ## Where a parser leads -/

/-- From every scanner that stands before `text`, the parser `p` goes on as `q` does from some
scanner that stands before `rest`. -/
def Leads (p : Parser α) (text : List Char) (q : Parser α) (rest : List Char) : Prop :=
  ∀ scanner : Scanner, scanner.rest = text → ∃ next : Scanner, next.rest = rest ∧ p scanner = q next

/-- Before `text` the parser gives `value` and stops before `rest`. -/
abbrev Takes (p : Parser α) (text rest : List Char) (value : α) : Prop :=
  Leads p text (succeed value) rest

/-- Before `text` the parser fails and stays. -/
abbrev Refuses (p : Parser α) (text : List Char) : Prop :=
  Leads p text fail text

namespace Leads

variable {p q r : Parser α} {text mid rest : List Char} {value : α}

/-- A parser leads to itself where it starts. -/
theorem refl : Leads p text p text :=
  fun scanner h => ⟨scanner, h, rfl⟩

/-- A parser leads as far as the parser that it leads to. -/
theorem trans (h : Leads p text q mid) (hnext : Leads q mid r rest) : Leads p text r rest := by
  intro scanner hscanner
  obtain ⟨next, hnextRest, heq⟩ := h scanner hscanner
  obtain ⟨last, hlast, hlastEq⟩ := hnext next hnextRest
  exact ⟨last, hlast, heq.trans hlastEq⟩

/-- A success decides a committed choice. -/
theorem commit_yes {yes : α → Parser β} {no : Parser β} (h : Takes p text mid value) :
    Leads (commit p yes no) text (yes value) mid := by
  intro scanner hscanner
  obtain ⟨next, hnext, heq⟩ := h scanner hscanner
  exact ⟨next, hnext, by unfold commit; rw [heq]; rfl⟩

/-- A refusal decides a committed choice. -/
theorem commit_no {yes : α → Parser β} {no : Parser β} (h : Refuses p text) :
    Leads (commit p yes no) text no text := by
  intro scanner hscanner
  obtain ⟨next, hnext, heq⟩ := h scanner hscanner
  exact ⟨next, hnext, by unfold commit; rw [heq]; rfl⟩

/-- After a success a sequence goes on with its second part. -/
theorem bind {f : α → Parser β} (h : Takes p text mid value) :
    Leads (p >>= f) text (f value) mid :=
  commit_yes h

end Leads

/-- A parser that is a relation of the grammar: a success follows the relation, a failure stays,
and whatever the relation holds of is taken. -/
structure Reads (p : Parser α) (R : List Char → List Char → α → Prop) : Prop where
  sound : ∀ {scanner next value}, p scanner = (some value, next) → R scanner.rest next.rest value
  lexeme : Lexeme p
  takes : ∀ {text rest value}, R text rest value → Takes p text rest value

namespace Reads

variable {p : Parser α} {R : List Char → List Char → α → Prop}

/-- A text on which the relation holds of nothing is refused. -/
theorem refuses (h : Reads p R) {text : List Char} (hnone : ∀ rest value, ¬ R text rest value) :
    Refuses p text := by
  intro scanner hscanner
  cases hresult : p scanner with
  | mk found next =>
      cases found with
      | some value => exact absurd (hscanner ▸ h.sound hresult) (hnone _ _)
      | none => exact ⟨next, (h.lexeme.stays hresult).trans hscanner, rfl⟩

/-- A parser without a value takes what its relation holds of. -/
theorem takes_unit {p : Parser Unit} {R : List Char → List Char → Unit → Prop} (h : Reads p R)
    {text rest : List Char} (hholds : R text rest ()) : Takes p text rest () :=
  h.takes hholds

end Reads

/-- The parser of a symbol reads that symbol. -/
theorem reads_symbol {symbol : String} (hne : 0 < symbol.length) :
    Reads (Parser.symbol symbol) (fun text rest _ => text = symbol.toList ++ rest) where
  sound {scanner next value} h := by
    unfold Parser.symbol at h
    split at h
    · next hstarts =>
        cases h
        obtain ⟨rest, hrest⟩ := List.isPrefixOf_iff_prefix.1 hstarts
        rw [← String.length_toList, rest_advance_append hrest.symm, hrest]
    · cases h
  lexeme := symbol_lexeme hne
  takes {text rest value} h scanner hscanner := by
    rw [h] at hscanner
    refine ⟨scanner.advance symbol.length, ?_, ?_⟩
    · rw [← String.length_toList, rest_advance_append hscanner]
    · have hstarts : scanner.startsWith symbol = true :=
        List.isPrefixOf_iff_prefix.2 ⟨rest, hscanner.symm⟩
      unfold Parser.symbol
      rw [if_pos hstarts]
      rfl

/-- The parser of one character reads that character. -/
theorem reads_char (char : Char) :
    Reads (Parser.char char) (fun text rest _ => text = char :: rest) := by
  have h := @reads_symbol (String.singleton char) (by simp)
  rwa [String.toList_singleton] at h

/-- A word stands at the cursor exactly when the grammar says so. -/
theorem startsWithWord_iff {word : String} {scanner : Scanner} :
    scanner.startsWithWord word = true ↔ ∃ rest, Word word scanner.rest rest := by
  unfold Scanner.startsWithWord Scanner.startsWith
  rw [Bool.and_eq_true_iff, List.isPrefixOf_iff_prefix]
  constructor
  · rintro ⟨⟨rest, hrest⟩, hend⟩
    refine ⟨rest, hrest.symm, fun char hchar => ?_⟩
    rw [← hrest, ← String.length_toList, List.getElem?_append_right (Nat.le_refl _), Nat.sub_self,
      ← List.head?_eq_getElem?, hchar] at hend
    simpa using hend
  · rintro ⟨rest, hrest, hend⟩
    refine ⟨⟨rest, hrest.symm⟩, ?_⟩
    rw [hrest, ← String.length_toList, List.getElem?_append_right (Nat.le_refl _), Nat.sub_self,
      ← List.head?_eq_getElem?]
    cases hhead : rest.head? with
    | none => rfl
    | some char => simp [hend char hhead]

/-- The parser of a word reads it where no name goes on. -/
theorem reads_word {word : String} (hne : 0 < word.length) :
    Reads (Parser.word word) (fun text rest _ => Word word text rest) where
  sound {scanner next value} h := by
    unfold Parser.word at h
    split at h
    · next hstarts =>
        cases h
        obtain ⟨rest, hrest, hend⟩ := startsWithWord_iff.1 hstarts
        rw [← String.length_toList, rest_advance_append hrest]
        exact ⟨hrest, hend⟩
    · cases h
  lexeme := word_lexeme hne
  takes {text rest value} h scanner hscanner := by
    subst hscanner
    refine ⟨scanner.advance word.length, ?_, ?_⟩
    · rw [← String.length_toList, rest_advance_append h.1]
    · unfold Parser.word
      rw [if_pos (startsWithWord_iff.2 ⟨rest, h⟩)]
      rfl

/-- The parser of an assignment reads an equals sign that no other one follows. -/
theorem reads_assignSign :
    Reads assignSign (fun text rest _ => text = '=' :: rest ∧ rest.head? ≠ some '=') where
  sound {scanner next value} h := by
    unfold assignSign at h
    split at h
    · cases h
    · next rest hnot hrest =>
        cases h
        rw [Scanner.rest_advance, hrest]
        refine ⟨rfl, fun hhead => ?_⟩
        obtain ⟨others, rfl⟩ := List.head?_eq_some_iff.1 hhead
        exact hnot _ rfl
    · cases h
  lexeme := assignSign_lexeme
  takes {text rest value} h scanner hscanner := by
    obtain ⟨htext, hhead⟩ := h
    rw [htext] at hscanner
    refine ⟨scanner.advance 1, by rw [Scanner.rest_advance, hscanner]; rfl, ?_⟩
    unfold assignSign
    split
    · next hrest =>
        rw [hscanner] at hrest
        cases hrest
        exact absurd rfl hhead
    · rfl
    · next hnot => exact absurd hscanner (hnot rest)

/-- A name is made of characters that a name may go on with. -/
theorem isNamePart_of_mem_name {name : String} (h : IsName name) :
    ∀ char ∈ name.toList, isNamePart char = true := by
  obtain ⟨⟨first, others, hname, hfirst, hothers⟩, -⟩ := h
  intro char hchar
  rw [hname] at hchar
  rcases List.mem_cons.1 hchar with rfl | hchar
  · exact isNamePart_of_isNameStart hfirst
  · exact hothers char hchar

/-- The parser of names reads names. -/
theorem reads_identifier :
    Reads identifier (fun text rest name => Name name text rest) where
  sound {scanner next value} h := by
    have hsplit := List.takeWhile_append_dropWhile (p := isNamePart) (l := scanner.rest)
    unfold identifier at h
    dsimp only at h
    split at h
    · next hname =>
        cases h
        obtain ⟨hstart, hreserved⟩ := Bool.and_eq_true_iff.1 hname
        rw [String.length_ofList, rest_advance_append hsplit.symm]
        refine ⟨⟨?_, by simpa using hreserved⟩, by rw [String.toList_ofList, hsplit],
          Text.stops_dropWhile _⟩
        cases hrest : scanner.rest with
        | nil => simp [hrest] at hstart
        | cons first others =>
            have hfirst : isNameStart first = true := by simpa [hrest] using hstart
            refine ⟨first, others.takeWhile isNamePart, ?_, hfirst, fun char hchar =>
              List.mem_takeWhile_imp hchar⟩
            rw [String.toList_ofList,
              List.takeWhile_cons_of_pos (isNamePart_of_isNameStart hfirst)]
    · cases h
  lexeme := identifier_lexeme
  takes {text rest name} h scanner hscanner := by
    obtain ⟨hname, htext, hend⟩ := h
    rw [htext] at hscanner
    have htake : scanner.rest.takeWhile isNamePart = name.toList := by
      rw [hscanner, Text.takeWhile_run (isNamePart_of_mem_name hname) hend]
    refine ⟨scanner.advance name.length, ?_, ?_⟩
    · rw [← String.length_toList, rest_advance_append hscanner]
    · obtain ⟨⟨first, others, hfirst, hstart, -⟩, hreserved⟩ := hname
      unfold identifier
      dsimp only
      rw [htake, String.ofList_toList, hscanner, hfirst, if_pos (by simp [hstart, hreserved])]
      rfl

/-- The parser of strings reads text between quotes, with no quote in it. -/
theorem reads_string :
    Reads string
      (fun text rest value => '"' ∉ value.toList ∧ text = '"' :: value.toList ++ '"' :: rest) where
  sound {scanner next value} h := by
    unfold string at h
    split at h
    · next body hbody =>
        have hsplit := List.takeWhile_append_dropWhile (p := (· ≠ '"')) (l := body)
        have hstops := Text.stops_dropWhile (p := (· ≠ '"')) body
        dsimp only at h
        split at h
        · cases h
        · next hclosed =>
            cases h
            rw [String.toList_ofList]
            refine ⟨fun hmem => absurd (List.mem_takeWhile_imp hmem) (by decide), ?_⟩
            -- What stops the run of the body can only be the closing quote.
            cases hrest : body.dropWhile (· ≠ '"') with
            | nil => rw [hrest] at hclosed; exact absurd rfl hclosed
            | cons quote rest =>
                rw [hrest, Text.stops_cons] at hstops
                have hquote : quote = '"' := by simpa using hstops
                rw [hrest, hquote] at hsplit
                have hwhole : scanner.rest =
                    ('"' :: body.takeWhile (· ≠ '"') ++ ['"']) ++ rest := by
                  rw [hbody, List.append_assoc, List.cons_append, List.singleton_append, hsplit]
                have hlength : ('"' :: body.takeWhile (· ≠ '"') ++ ['"']).length =
                    (body.takeWhile (· ≠ '"')).length + 2 := by simp
                rw [← hlength, rest_advance_append hwhole, hwhole]
                simp
    · cases h
  lexeme := string_lexeme
  takes {text rest value} h scanner hscanner := by
    obtain ⟨hquote, htext⟩ := h
    rw [htext] at hscanner
    have hrun : ∀ char ∈ value.toList, (decide (char ≠ '"')) = true := fun char hchar =>
      decide_eq_true fun heq => hquote (heq ▸ hchar)
    have hstops : Text.Stops (· ≠ '"') ('"' :: rest) := by simp
    have htake := Text.takeWhile_run hrun hstops
    have hdrop := Text.dropWhile_run hrun hstops
    refine ⟨scanner.advance (value.toList.length + 2), ?_, ?_⟩
    · rw [Scanner.rest_advance, hscanner, ← List.drop_drop]
      simp
    · unfold string
      simp only [hscanner, List.cons_append, htake, hdrop, String.ofList_toList]
      rfl

/-- A number that is read is a literal. -/
theorem number_sound {scanner next : Scanner} {value : Binary64}
    (h : number scanner = (some value, next)) :
    ∃ literal, Literal literal value ∧ scanner.rest = literal ++ next.rest := by
  obtain ⟨literal, hliteral, -, -, hrest⟩ := number_success h
  exact ⟨literal, hliteral, hrest⟩

/-- A literal that nothing continues is taken whole. -/
theorem takes_number {literal rest : List Char} {value : Binary64} (h : Literal literal value)
    (hrest : Text.Stops (fun char => char.isDigit || char == '.') rest) :
    Takes number (literal ++ rest) rest value := by
  obtain ⟨sign, negative, digits, whole, fraction, hsign, hdigits, rfl, hfinite, hvalue⟩ := h
  intro scanner hscanner
  refine ⟨scanner.advance (sign ++ digits).length, rest_advance_append hscanner, ?_⟩
  rw [List.append_assoc] at hscanner
  have hnumeral : Numeral.value negative ⟨whole, fraction, digits.length⟩ = value := hvalue.symm
  unfold number
  rw [hscanner, signOf_complete hsign (hdigits.stops_sign rest)]
  dsimp only
  rw [List.drop_left, Numeral.read?_complete hdigits hrest]
  simp only [hnumeral, hfinite, if_true, List.length_append]
  rfl

/-- A text that starts with no sign, digit or point is not a number. -/
theorem refuses_number {text : List Char}
    (h : Text.Stops (fun char => char.isDigit || char ∈ ['.', '+', '-']) text) :
    Refuses number text := by
  intro scanner hscanner
  cases hresult : number scanner with
  | mk found next =>
      cases found with
      | none => exact ⟨next, (number_lexeme.stays hresult).trans hscanner, rfl⟩
      | some value =>
          obtain ⟨literal, ⟨sign, _, digits, _, _, hsign, hdigits, rfl, -⟩, hrest⟩ :=
            number_sound hresult
          obtain ⟨first, others, rfl, hfirst⟩ := hdigits.head
          rw [← hscanner, hrest] at h
          cases hsign with
          | plus | minus => exact absurd (h _ rfl) (by decide)
          | none =>
              have := h first rfl
              simp only [Bool.or_eq_true, beq_iff_eq] at hfirst
              rcases hfirst with hdigit | rfl
              · simp [hdigit] at this
              · exact absurd this (by decide)

/-! ## Blanks and operators -/

/-- Skipped blanks are blanks. -/
theorem blanks_skipBlanks (scanner : Scanner) : Blanks scanner.rest scanner.skipBlanks.rest := by
  rw [Scanner.rest_skipBlanks]
  exact .dropWhile _

/-- Blanks up to something else are skipped. -/
theorem takes_skipBlanks {text rest : List Char} (h : Blanks text rest)
    (hrest : Text.Stops Text.isSeparator rest) : Takes skipBlanks text rest () := by
  obtain ⟨blanks, hblanks, rfl⟩ := h
  intro scanner hscanner
  refine ⟨scanner.skipBlanks, ?_, rfl⟩
  rw [Scanner.rest_skipBlanks, hscanner]
  exact Text.dropWhile_run (fun char hchar => (Text.isSeparator_iff char).2 (hblanks char hchar))
    hrest

/-- The parser of an operator reads its spelling. -/
theorem reads_operator (operator : Operator) :
    Reads (Parser.operator operator) (fun text rest _ => Spelled operator text rest) := by
  cases operator with
  | and | or => exact reads_word (by decide)
  | _ => exact reads_symbol (by decide)

/-- An operator that is read is one of those that were wanted. -/
theorem operatorOf_sound {operators : List Operator} {scanner next : Scanner} {found : Operator}
    (h : operatorOf operators scanner = (some found, next)) :
    found ∈ operators ∧ Spelled found scanner.rest next.rest := by
  induction operators generalizing scanner with
  | nil => cases h
  | cons first others ih =>
      unfold operatorOf commit at h
      split at h
      · next next' hfirst =>
          cases h
          exact ⟨List.mem_cons_self, (reads_operator found).sound hfirst⟩
      · next next' hfirst =>
          obtain ⟨hmem, hspelled⟩ := ih h
          rw [(reads_operator first).lexeme.stays hfirst] at hspelled
          exact ⟨List.mem_cons_of_mem _ hmem, hspelled⟩

/-- One of some operators is a lexeme. -/
theorem operatorOf_lexeme (operators : List Operator) : Lexeme (operatorOf operators) := by
  induction operators with
  | nil => exact ⟨.refl, (fun h => by cases h), (fun h => by cases h; rfl)⟩
  | cons first others ih =>
      have hfirst := (reads_operator first).lexeme
      refine ⟨fun scanner => ?_, fun {scanner next value} h => ?_, fun {scanner next} h => ?_⟩
      · unfold operatorOf commit
        have hreach := hfirst.reaches scanner
        split
        · next h => rwa [h] at hreach
        · next h =>
            rw [h] at hreach
            exact hreach.trans (ih.reaches _)
      · unfold operatorOf commit at h
        split at h
        · next hsome =>
            cases h
            exact hfirst.takes hsome
        · next hnone =>
            rw [← hfirst.stays hnone]
            exact ih.takes h
      · unfold operatorOf commit at h
        split at h
        · cases h
        · next hnone => rw [ih.stays h, hfirst.stays hnone]

/-- The first of the wanted operators that is spelled here is taken. -/
theorem takes_operatorOf (before after : List Operator) {operator : Operator}
    {text rest : List Char} (hbefore : ∀ other ∈ before, ∀ rest, ¬ Spelled other text rest)
    (h : Spelled operator text rest) :
    Takes (operatorOf (before ++ operator :: after)) text rest operator := by
  induction before with
  | nil => exact .commit_yes ((reads_operator operator).takes_unit h)
  | cons first others ih =>
      have hfirst : Refuses (Parser.operator first) text :=
        (reads_operator first).refuses fun rest _ => hbefore first List.mem_cons_self rest
      exact .trans (.commit_no hfirst)
        (ih fun other hother => hbefore other (List.mem_cons_of_mem _ hother))

/-- Where none of the wanted operators is spelled, none is taken. -/
theorem refuses_operatorOf {operators : List Operator} {text : List Char}
    (h : ∀ operator ∈ operators, ∀ rest, ¬ Spelled operator text rest) :
    Refuses (operatorOf operators) text := by
  induction operators with
  | nil => exact .refl
  | cons first others ih =>
      have hfirst : Refuses (Parser.operator first) text :=
        (reads_operator first).refuses fun rest _ => h first List.mem_cons_self rest
      exact .trans (.commit_no hfirst)
        (ih fun operator hmem => h operator (List.mem_cons_of_mem _ hmem))

end Parser

end HostScript

import HostScript.Proofs.Binary64.Nearest
import HostScript.Proofs.Source.History

/-!
# Longest lexemes

A lexeme that is read is the longest one at the cursor, and one that is refused leaves the cursor
where it was. A name is the longest run of the characters of names, so it is refused exactly where
one reserved word stands. A number is the longest front part that has the form of a number, and its
value is that number correctly rounded. All of this is `lexemes_longest`: read that first.
-/

namespace HostScript

open Text (Longest)

namespace Grammar

/-- A text has the form of a number: a sign or none, and an unsigned number. It stands for a decimal
of that sign. -/
def Numeric (text : List Char) (negative : Bool) (decimal : Decimal) : Prop :=
  ∃ sign digits whole fraction, Sign sign negative ∧ Unsigned digits whole fraction ∧
    text = sign ++ digits ∧
    decimal = ⟨Nat.ofDigitChars 10 (whole ++ fraction) 0, -(fraction.length : Int)⟩

/-- A text has the form of a number. -/
def IsNumeric (text : List Char) : Prop :=
  ∃ negative decimal, Numeric text negative decimal

end Grammar

open Grammar

/-! ## Numbers -/

namespace Numeral

/-- The decimal that an unsigned literal stands for. -/
def decimal (numeral : Numeral) : Decimal :=
  ⟨Nat.ofDigitChars 10 (numeral.whole ++ numeral.fraction) 0, -numeral.fraction.length⟩

/-- All digits at the start of a text are read. -/
theorem length_takeWhile_le {text : List Char} {numeral : Numeral} (h : read? text = some numeral) :
    (text.takeWhile Char.isDigit).length ≤ numeral.length := by
  unfold read? at h
  dsimp only at h
  split at h
  · split at h
    · cases h
    · cases h
      dsimp only
      omega
  · split at h
    · cases h
    · cases h
      exact Nat.le_refl _

/-- At least as much is read as any unsigned number at the start of a text takes. -/
theorem read?_of_front {text literal whole fraction : List Char}
    (h : Unsigned literal whole fraction) (hfront : literal <+: text) :
    ∃ numeral, read? text = some numeral ∧ literal.length ≤ numeral.length := by
  obtain ⟨rest, rfl⟩ := hfront
  cases h with
  | whole _ hne hdigits =>
      have hsome : (read? (literal ++ rest)).isSome = true := by
        obtain ⟨first, others, rfl⟩ := List.exists_cons_of_ne_nil hne
        have hfirst := hdigits first List.mem_cons_self
        have hpoint : first ≠ '.' := by
          rintro rfl
          cases hfirst
        rw [Scanner.read?_isSome]
        simp [startsNumeral, hpoint, hfirst]
      obtain ⟨numeral, hread⟩ := Option.isSome_iff_exists.1 hsome
      have hle := length_takeWhile_le hread
      rw [List.takeWhile_append_of_pos hdigits, List.length_append] at hle
      exact ⟨numeral, hread, by omega⟩
  | point whole fraction hne hwhole hfraction =>
      refine ⟨_, by rw [List.append_assoc, List.cons_append, read?_point rest hwhole hfraction
        (.inl hne)], ?_⟩
      simp only [List.length_append, List.length_cons]
      omega
  | leading fraction hne hfraction =>
      refine ⟨_, @read?_point [] fraction rest (fun _ h => by cases h) hfraction (.inr hne), ?_⟩
      simp only [List.length_append, List.length_cons]
      omega

end Numeral

/-- The sign and the digits of a number at the start of a text are found. -/
theorem Grammar.Numeric.read? {text part : List Char} {negative : Bool} {decimal : Decimal}
    (h : Numeric part negative decimal) (hfront : part <+: text) :
    ∃ numeral, Numeral.read? (text.drop (signOf text).2) = some numeral ∧
      part.length ≤ (signOf text).2 + numeral.length := by
  obtain ⟨sign, digits, whole, fraction, hsign, hdigits, rfl, -⟩ := h
  obtain ⟨rest, rfl⟩ := hfront
  rw [List.append_assoc, signOf_complete hsign (hdigits.stops_sign rest), List.drop_left]
  obtain ⟨numeral, hread, hle⟩ := Numeral.read?_of_front hdigits ⟨rest, rfl⟩
  exact ⟨numeral, hread, by rw [List.length_append]; exact Nat.add_le_add_left hle _⟩

/-- A text in the form of a number has one sign and stands for one decimal. -/
theorem Grammar.Numeric.unique {text : List Char} {negative otherSign : Bool}
    {decimal other : Decimal} (h : Numeric text negative decimal)
    (hother : Numeric text otherSign other) : negative = otherSign ∧ decimal = other := by
  have hfound : ∀ {negative decimal}, Numeric text negative decimal →
      negative = (signOf text).1 ∧
        (Numeral.read? (text.drop (signOf text).2)).map Numeral.decimal = some decimal := by
    rintro negative decimal ⟨sign, digits, whole, fraction, hsign, hdigits, rfl, rfl⟩
    have hstops := hdigits.stops_sign []
    have hread := Numeral.read?_complete hdigits Text.stops_nil
    rw [List.append_nil] at hstops hread
    rw [signOf_complete hsign hstops, List.drop_left, hread]
    exact ⟨rfl, rfl⟩
  obtain ⟨hsign, hdecimal⟩ := hfound h
  obtain ⟨hotherSign, hotherDecimal⟩ := hfound hother
  exact ⟨hsign.trans hotherSign.symm, Option.some.inj (hdecimal.symm.trans hotherDecimal)⟩

/-- What is read after the sign makes the longest front part in the form of a number. -/
theorem longest_numeric {text : List Char} {numeral : Numeral}
    (h : Numeral.read? (text.drop (signOf text).2) = some numeral) :
    ∃ literal, Longest IsNumeric text literal ∧
      Numeric literal (signOf text).1 numeral.decimal ∧
      literal.length = (signOf text).2 + numeral.length := by
  obtain ⟨sign, hsign, htext, hsignLength⟩ := signOf_sound text
  obtain ⟨digits, rest, hdigits, hrest, hlength⟩ := Numeral.read?_sound h
  have hnumeric : Numeric (sign ++ digits) (signOf text).1 numeral.decimal :=
    ⟨sign, digits, numeral.whole, numeral.fraction, hsign, hdigits, rfl, rfl⟩
  have hcount : (sign ++ digits).length = (signOf text).2 + numeral.length := by
    rw [List.length_append, hsignLength, hlength]
  refine ⟨sign ++ digits, ⟨⟨rest, ?_⟩, ⟨_, _, hnumeric⟩, ?_⟩, hnumeric, hcount⟩
  · rw [List.append_assoc, ← hrest, ← htext]
  · rintro other hfront ⟨negative, decimal, hother⟩
    obtain ⟨found, hfound, hle⟩ := hother.read? hfront
    obtain rfl : numeral = found := Option.some.inj (h.symm.trans hfound)
    rwa [hcount]

namespace Parser

open Binary64 (Rounds)

variable {scanner next : Scanner}

/-- A number is read exactly where the longest front part in the form of a number is in the range of
doubles. It is that number correctly rounded. -/
theorem number_eq_some_iff {value : Binary64} : number scanner = (some value, next) ↔
    ∃ literal negative decimal, Longest IsNumeric scanner.rest literal ∧
      Numeric literal negative decimal ∧ Rounds negative decimal.value value ∧
      value.isFinite = true ∧ next = scanner.advance literal.length := by
  constructor
  · intro h
    unfold number at h
    dsimp only at h
    split at h
    · cases h
    · next numeral hread =>
        obtain ⟨literal, hlongest, hnumeric, hlength⟩ := longest_numeric hread
        split at h
        · next hfinite =>
            cases h
            exact ⟨literal, _, _, hlongest, hnumeric, Binary64.rounds_ofDecimal_iff.2 rfl, hfinite,
              by rw [hlength]⟩
        · cases h
  · rintro ⟨literal, negative, decimal, hlongest, hnumeric, hrounds, hfinite, rfl⟩
    obtain ⟨numeral, hread, -⟩ := hnumeric.read? hlongest.front
    obtain ⟨found, hfound, hfoundNumeric, hlength⟩ := longest_numeric hread
    obtain rfl := hlongest.unique hfound
    obtain ⟨rfl, rfl⟩ := hnumeric.unique hfoundNumeric
    have hvalue : numeral.value (signOf scanner.rest).1 = value :=
      (Binary64.rounds_ofDecimal_iff.1 hrounds).symm
    unfold number
    dsimp only
    rw [hread]
    dsimp only
    rw [hvalue, if_pos hfinite, hlength]

/-! ## Names and strings -/

/-- A name is read exactly where the longest run of characters of names starts as a name does and is
not reserved. -/
theorem identifier_eq_some_iff {name : String} : identifier scanner = (some name, next) ↔
    Longest (fun part => ∀ char ∈ part, isNamePart char = true) scanner.rest name.toList ∧
      (∃ first ∈ name.toList.head?, isNameStart first = true) ∧ isReserved name = false ∧
      next = scanner.advance name.length := by
  have hadvance : ∀ {next}, identifier scanner = (some name, next) →
      next = scanner.advance name.length := by
    intro next h
    unfold identifier at h
    dsimp only at h
    split at h
    · cases h
      rfl
    · cases h
  constructor
  · intro h
    obtain ⟨hname, htext, hend⟩ := reads_identifier.sound h
    have hparts := isNamePart_of_mem_name hname
    obtain ⟨⟨first, others, hlist, hstart, -⟩, hreserved⟩ := hname
    refine ⟨Text.longest_run_iff.2 ⟨_, htext, hparts, hend⟩, ⟨first, ?_, hstart⟩, ?_, hadvance h⟩
    · rw [hlist]
      rfl
    · simpa using hreserved
  · rintro ⟨hlongest, ⟨first, hfirst, hstart⟩, hreserved, rfl⟩
    obtain ⟨rest, htext, hparts, hend⟩ := Text.longest_run_iff.1 hlongest
    obtain ⟨others, hlist⟩ := List.head?_eq_some_iff.1 hfirst
    have hname : Name name scanner.rest rest := by
      refine ⟨⟨⟨first, others, hlist, hstart, fun char hchar => hparts char ?_⟩, ?_⟩, htext, hend⟩
      · rw [hlist]
        exact List.mem_cons_of_mem _ hchar
      · simp [hreserved]
    obtain ⟨next, -, hread⟩ := reads_identifier.takes hname scanner rfl
    rw [hread, hadvance hread]
    rfl

/-- A reserved word stands at the cursor if it is the longest run of characters of names there. -/
theorem startsWithWord_iff_longest {word : String} (h : word ∈ reservedWords) :
    scanner.startsWithWord word = true ↔
      Longest (fun part => ∀ char ∈ part, isNamePart char = true) scanner.rest word.toList := by
  have hwords : ∀ word ∈ reservedWords, ∀ char ∈ word.toList, isNamePart char = true := by decide
  rw [startsWithWord_iff, Text.longest_run_iff]
  constructor
  · rintro ⟨rest, htext, hend⟩
    exact ⟨rest, htext, hwords word h, hend⟩
  · rintro ⟨rest, htext, -, hend⟩
    exact ⟨rest, htext, hend⟩

/-- Where a name could start, there is none exactly if one reserved word stands there. -/
theorem identifier_eq_none_iff (hstart : ∃ first ∈ scanner.rest.head?, isNameStart first = true) :
    (identifier scanner).1 = none ↔
      ∃! word, word ∈ reservedWords ∧ scanner.startsWithWord word = true := by
  obtain ⟨first, hfirst, hstart⟩ := hstart
  have hrun := Text.longest_takeWhile (p := isNamePart) scanner.rest
  have hnone : (identifier scanner).1 = none ↔
      String.ofList (scanner.rest.takeWhile isNamePart) ∈ reservedWords := by
    unfold identifier
    dsimp only
    rw [Option.mem_def.1 hfirst, Option.any_some, hstart, Bool.true_and]
    split
    · next hnot => simpa [isReserved] using hnot
    · next hreserved => simpa [isReserved] using hreserved
  rw [hnone]
  constructor
  · intro hreserved
    refine ⟨_, ⟨hreserved, (startsWithWord_iff_longest hreserved).2 ?_⟩, ?_⟩
    · rwa [String.toList_ofList]
    · rintro other ⟨hother, hstarts⟩
      rw [hrun.unique ((startsWithWord_iff_longest hother).1 hstarts), String.ofList_toList]
  · rintro ⟨word, ⟨hword, hstarts⟩, -⟩
    rwa [hrun.unique ((startsWithWord_iff_longest hword).1 hstarts), String.ofList_toList]

/-- A string is read exactly where its text stands between quotes. -/
theorem string_eq_some_iff {content : String} : string scanner = (some content, next) ↔
    '"' ∉ content.toList ∧ '"' :: content.toList ++ ['"'] <+: scanner.rest ∧
      next = scanner.advance (content.length + 2) := by
  have hadvance : ∀ {next}, string scanner = (some content, next) →
      next = scanner.advance (content.length + 2) := by
    intro next h
    unfold string at h
    split at h
    · dsimp only at h
      split at h
      · cases h
      · cases h
        rw [String.length_ofList]
    · cases h
  constructor
  · intro h
    obtain ⟨hquote, htext⟩ := reads_string.sound h
    refine ⟨hquote, ⟨next.rest, ?_⟩, hadvance h⟩
    rw [htext, List.append_assoc]
    rfl
  · rintro ⟨hquote, ⟨rest, hrest⟩, rfl⟩
    have htext : scanner.rest = '"' :: content.toList ++ '"' :: rest := by
      rw [← hrest, List.append_assoc]
      rfl
    obtain ⟨next, -, hread⟩ := reads_string.takes ⟨hquote, htext⟩ scanner rfl
    rw [hread, hadvance hread]
    rfl

/-! ## All lexemes -/

/-- If the parser fails, it leaves the cursor where it was. -/
def FailsInPlace {α : Type} (p : Parser α) (scanner : Scanner) : Prop :=
  ∀ next, p scanner = (none, next) →
    next.text = scanner.text ∧ next.offset = scanner.offset ∧ next.rest = scanner.rest

/-- A lexeme that is an action records its failure only. -/
theorem failsInPlace_of_action {α : Type} {p : Parser α} {failure : Failure}
    (action : Scanner.Action) (hcoherent : scanner.Coherent)
    (hperform : action.perform scanner = (p scanner).2)
    (hfailure : action.failure? scanner = Scanner.Action.refusal p scanner failure) :
    FailsInPlace p scanner := by
  intro next h
  have hleaves := Scanner.leaves_perform action hcoherent
  rw [hperform, hfailure, Scanner.Action.refusal, h] at hleaves
  have hnext : next = scanner.expectAt failure.1 failure.2 := hleaves
  rw [hnext]
  exact Scanner.expectAt_cursor _ _ _

/-- Wherever the cursor stands, inside a word or past the end, lexemes are taken as long as they go
and refused in place. A name is the longest run of characters of names, which has to start as a name
does and must not be reserved; so where a name could start there is none exactly if one reserved
word stands there. A string is what stands between two quotes without a quote inside. A number is
the longest front part in the form of a number, and it is read as that number correctly rounded if
that is finite. -/
theorem lexemes_longest (h : scanner.Coherent) :
    let ahead := scanner.text.drop scanner.offset
    (∀ name next, identifier scanner = (some name, next) ↔
      Longest (fun part => ∀ char ∈ part, isNamePart char = true) ahead name.toList ∧
        (∃ first ∈ name.toList.head?, isNameStart first = true) ∧ isReserved name = false ∧
        next = scanner.advance name.length) ∧
    ((∃ first ∈ ahead.head?, isNameStart first = true) →
      ((identifier scanner).1 = none ↔
        ∃! word, word ∈ reservedWords ∧ scanner.startsWithWord word = true)) ∧
    (∀ content next, string scanner = (some content, next) ↔
      '"' ∉ content.toList ∧ '"' :: content.toList ++ ['"'] <+: ahead ∧
        next = scanner.advance (content.length + 2)) ∧
    (∀ value next, number scanner = (some value, next) ↔
      ∃ literal negative decimal, Longest IsNumeric ahead literal ∧
        Numeric literal negative decimal ∧ Rounds negative decimal.value value ∧
        value.isFinite = true ∧ next = scanner.advance literal.length) ∧
    (∀ wanted, FailsInPlace (char wanted) scanner) ∧
    (∀ wanted, FailsInPlace (symbol wanted) scanner) ∧
    (∀ wanted, FailsInPlace (word wanted) scanner) ∧
    FailsInPlace assignSign scanner ∧ FailsInPlace identifier scanner ∧
    FailsInPlace string scanner ∧ FailsInPlace number scanner := by
  intro ahead
  have hahead : ahead = scanner.rest := h.symm
  rw [hahead]
  refine ⟨fun _ _ => identifier_eq_some_iff, identifier_eq_none_iff,
    fun _ _ => string_eq_some_iff, fun _ _ => number_eq_some_iff, ?_⟩
  exact ⟨fun wanted => failsInPlace_of_action (.char wanted) h rfl rfl,
    fun wanted => failsInPlace_of_action (.symbol wanted) h rfl rfl,
    fun wanted => failsInPlace_of_action (.word wanted) h rfl rfl,
    failsInPlace_of_action .assignSign h rfl rfl, failsInPlace_of_action .identifier h rfl rfl,
    failsInPlace_of_action .string h rfl rfl, failsInPlace_of_action .number h rfl rfl⟩

/-- Before the last two letters of a word, which are reserved on their own. -/
def insideWord : Scanner :=
  (Scanner.ofString "xor -2.50.1").seek 1

/-- Before a number with a point after it. -/
def beforeNumber : Scanner :=
  (Scanner.ofString "xor -2.50.1").seek 4

/-- Inside a word there is a reserved word and no name. A number with two points is read up to the
second one. -/
theorem lexemes_longest_insideWord :
    insideWord.Coherent ∧ (identifier insideWord).1 = none ∧
    (∃! word, word ∈ reservedWords ∧ insideWord.startsWithWord word = true) ∧
    beforeNumber.Coherent ∧
    ∃ literal negative decimal, Longest IsNumeric "-2.50.1".toList literal ∧
      Numeric literal negative decimal ∧
      Rounds negative decimal.value (.ofDecimal true ⟨25, -1⟩) ∧ literal.length = 5 := by
  have hinside : insideWord.Coherent := rfl
  have hbefore : beforeNumber.Coherent := rfl
  have hnone : (identifier insideWord).1 = none := by rfl
  have hvalue : (number beforeNumber).1 = some (.ofDecimal true ⟨25, -1⟩) := by decide +kernel
  have hnumber : number beforeNumber =
      (some (.ofDecimal true ⟨25, -1⟩), (number beforeNumber).2) := by rw [← hvalue]
  have hoffset : (number beforeNumber).2.offset = 9 := by decide +kernel
  refine ⟨hinside, hnone, ?_, hbefore, ?_⟩
  · exact ((lexemes_longest hinside).2.1 ⟨'o', rfl, by decide⟩).1 hnone
  · obtain ⟨literal, negative, decimal, hlongest, hnumeric, hrounds, -, hnext⟩ :=
      ((lexemes_longest hbefore).2.2.2.1 _ _).1 hnumber
    have hlength : (number beforeNumber).2.offset = 4 + literal.length :=
      congrArg Scanner.offset hnext
    exact ⟨literal, negative, decimal, hlongest, hnumeric, hrounds, by omega⟩

end Parser

end HostScript

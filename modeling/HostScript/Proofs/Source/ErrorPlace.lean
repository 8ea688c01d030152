import HostScript.Proofs.Source.Compiling
import HostScript.Proofs.Source.Mending

/-!
# Where a text stops being a program

The parsers of the grammar are fluent, from the terms to the statements, so the place of a parse
error is one up to which the text can still be completed. Read `compile_error_mendable` first.
-/

namespace HostScript

open Grammar

namespace Parser

open Scanner (Awaits)

variable {α : Type}

/-! ## Expressions -/

section Expressions

variable {p : Parser Expr}

/-- The operators of a level and their right operands are fluent if the operands are. -/
theorem Fluent.operands {level : Nat} (h : Fluent p (Level (level + 1)))
    (hlevel : level < negationLevel) (left : Expr) :
    Fluent (operands (levelOperators level) p left) (Operands level) := by
  have hoperators : levelOperators level ≠ [] := by
    have hall : ∀ index < negationLevel, levelOperators index ≠ [] := by decide
    exact hall level hlevel
  have := writable_level hlevel
  have := writable_spaced_operator hoperators
    (S := Then Blanks (Then (Level (level + 1)) (Operands level)))
  refine .fix (fun more hmore left => ?_) left
  refine .afterBlanks (operatorOf_lexeme _) (operatorOf_fluent _) (fun operator => ?_)
    (operator_le_operands fun _ => level_of_mem_levelOperators)
    (.succeed left (here_le_operands level))
  exact .skipBlanks (h.bind fun right => hmore _)

/-- A level of operators is fluent if the level above it is. -/
theorem Fluent.binaryLevel {level : Nat} (h : Fluent p (Level (level + 1)))
    (hlevel : level < negationLevel) :
    Fluent (binaryLevel (levelOperators level) p) (Level level) := by
  rw [binaryLevel_eq_operands]
  exact .of_le (h.bind fun first => h.operands hlevel first) (operand_le_level hlevel)

/-- Negations are fluent if terms are. -/
theorem Fluent.negation (h : Fluent p (Any Term)) : Fluent (negation p) (Level negationLevel) := by
  refine .fix (fun again hagain _ => ?_) ()
  exact .commit (word_lexeme (by decide)) (word_fluent (by decide))
    (fun _ => .skipBlanks ((hagain ()).map _)) not_le_level (h.of_le term_le_level)

/-- The elements after the first one are fluent if expressions are. -/
theorem Fluent.moreElements (h : Fluent p (Level 0)) : Fluent (moreElements p) Items := by
  refine .fix (fun more hmore _ => ?_) ()
  refine .of_le (.skipBlanks ?_) blanks_items_le
  refine .commit (char_lexeme ',') (char_fluent ',') (fun _ => .skipBlanks ?_) comma_le_items
    (.succeed [] fun text rest heq => blanks_le_items _ _ (here_le_blanks _ _ heq))
  exact h.bind fun element => (hmore ()).map _

/-- A list up to its closing bracket is fluent if expressions are. -/
theorem Fluent.elements (h : Fluent p (Level 0)) (close : Char) [Writable (Mark close)] :
    Fluent (elements p close) (Any (Elements close)) := by
  refine .of_le (.skipBlanks ?_) (blanks_elements_le close)
  refine .commit (char_lexeme close) (char_fluent close) (fun _ => .succeed [] (le_refl Here))
    (then_here_le (close_le_elements close)) (.of_le ?_ (first_le_elements close))
  exact h.bind fun first => h.moreElements.bind fun others => (char_fluent close).map _

/-- The links of a chain. What is awaited after them depends on whether the last one is a call. -/
theorem Fluent.chain_mends (h : Fluent p (Level 0)) (P S : Phrase) [Writable S]
    [hP : Writable (After (ChainIf false) P)] (base : Expr) :
    Mends (Awaits (Then (After (ChainIf base.isMethod) P) S)) (chain p base)
      fun result => Awaits (Then (After (ChainIf result.isMethod) P) S) := by
  have : Writable (After (ChainIf true) P) := hP.of_le (after_chain_anti true)
  refine Mends.fix
    (P := fun (_ : Unit) (base : Expr) => Awaits (Then (After (ChainIf base.isMethod) P) S))
    (Q := fun _ (result : Expr) => Awaits (Then (After (ChainIf result.isMethod) P) S))
    (fun more hmore _ base => ?_) () base
  have hdot : Mends (Awaits (Then (After (ChainIf base.isMethod) P) S)) (char '.')
      fun _ => Awaits (Then Named (Then (After Dotted P) S)) := by
    refine char_mends_name.of_le ?_
    rw [← then_assoc Named, ← then_assoc]
    exact then_mono (dot_le_chain base.isMethod) (le_refl S)
  refine hdot.commit_lexeme (char_lexeme '.') (fun _ => ?_) (.succeed base fun _ hawaits => hawaits)
  refine (identifier_fluent (Then (After Dotted P) S)).bind fun name => ?_
  have hopen : Mends (Awaits (Then (After Dotted P) S)) (char '(')
      fun _ => Awaits (Then (Any (Elements ')')) (Then (After (ChainIf true) P) S)) := by
    refine (char_fluent '(' _).of_le ?_
    rw [← then_assoc (Any _), ← then_assoc]
    exact then_mono method_le_dotted (le_refl S)
  refine hopen.commit_lexeme (char_lexeme '(') (fun _ => ?_) ?_
  · exact (h.elements ')' _).bind fun args => hmore () (.method base name args)
  · exact (hmore () (.property base name)).of_le (then_mono property_le_dotted (le_refl S))

/-- What follows a name is fluent: the arguments of a call, or the links of a chain. -/
theorem Fluent.reference (h : Fluent p (Level 0)) (name : String) :
    Fluent (reference p name) (After Named (Any Term)) := by
  refine .commit (char_lexeme '(') (char_fluent '(') (fun _ => (h.elements ')').map _)
    call_le_term fun S _ => ?_
  have hchain := h.chain_mends (Any Term) S (.var name)
  refine (hchain.of_le (then_mono var_le_named (le_refl S))).post fun result _ hawaits => ?_
  exact hawaits.of_le (le_then_of_here_le (here_le_chain_term result.isMethod) S)

/-- What follows an opening parenthesis is fluent if expressions are. -/
theorem Fluent.parenthesized (h : Fluent p (Level 0)) :
    Fluent (parenthesized p) (Then Blanks (Then (Level 0) (Then Blanks (Mark ')')))) :=
  .skipBlanks (h.bind fun _ => .skipBlanks ((char_fluent ')').map _))

/-- Terms are fluent if expressions are. -/
theorem Fluent.term (h : Fluent p (Level 0)) : Fluent (term p) (Any Term) := by
  have hdone {α : Type} (value : α) : Fluent (Parser.succeed value) Here :=
    .succeed value (le_refl Here)
  refine .commit number_lexeme number_fluent (fun _ => hdone _) (then_here_le number_le_term) ?_
  refine .commit (word_lexeme (by decide)) (word_fluent (by decide)) (fun _ => hdone _)
    (then_here_le trueWord_le_term) ?_
  refine .commit (word_lexeme (by decide)) (word_fluent (by decide)) (fun _ => hdone _)
    (then_here_le falseWord_le_term) ?_
  refine .commit identifier_lexeme identifier_fluent (fun name => h.reference name)
    (then_after_le Named (Any Term)) ?_
  refine .commit (char_lexeme '[') (char_fluent '[') (fun _ => (h.elements ']').map _)
    array_le_term ?_
  refine .commit string_lexeme string_fluent (fun _ => hdone _) (then_here_le quoted_le_term) ?_
  exact .commit (char_lexeme '(') (char_fluent '(') (fun _ => h.parenthesized)
    parenthesized_le_term .fail

/-- The levels over fluent terms are fluent, from the tightest to the loosest. -/
theorem Fluent.tier (h : Fluent p (Level 0)) {level : Nat} (hlevel : level ≤ negationLevel) :
    Fluent (tier p level) (Level level) := by
  induction hlevel using Nat.decreasingInduction with
  | self => exact h.term.negation
  | of_succ level hlt ih =>
      rw [tier_of_lt hlt]
      exact ih.binaryLevel hlt

end Expressions

/-- Expressions are fluent at every depth of nesting. -/
theorem expression_fluent : Fluent expression (Level 0) :=
  .fix (fun _ hf _ => (hf ()).tier (Nat.zero_le _)) ()

/-! ## Statements -/

/-- A text without the first word of a branch, if there must not be one. -/
def Allows (branches : Prop) (text : List Char) : Prop :=
  branches ∨ ∀ after, ¬ Word "if" text after

/-- The parser of a statement is fluent, also where a statement must not be a branch. -/
def Speaks (p : Parser Statement) : Prop :=
  ∀ (branches : Prop) (S : Phrase) [Writable S],
    Mends (fun scanner => scanner.Awaits (Then (SentenceIf branches) S) ∧
      Allows branches scanner.rest) p fun _ => Awaits S

/-- A word that is refused is not there. -/
theorem not_word_of_refused {wanted : String} (hne : 0 < wanted.length) {scanner next : Scanner}
    (hrun : word wanted scanner = (none, next)) : ∀ after, ¬ Word wanted scanner.rest after := by
  intro after hword
  obtain ⟨found, -, htaken⟩ := (reads_word hne).takes_unit hword scanner rfl
  rw [hrun] at htaken
  cases htaken

section Statements

variable {p : Parser Statement}

/-- Only the first statement of a block may be forbidden to be a branch. -/
theorem Speaks.block_mends (h : Speaks p) (terminators : List String) (S : Phrase)
    [Writable (Then Blanks S)] (branches : Prop) :
    Mends (fun scanner => scanner.Awaits (Then (BlockIf branches) S) ∧
      Allows branches (scanner.rest.dropWhile Text.isSeparator)) (block p terminators)
      fun _ => Awaits S := by
  refine Mends.fix (P := fun branches (_ : Unit) scanner =>
      scanner.Awaits (Then (BlockIf branches) S) ∧
        Allows branches (scanner.rest.dropWhile Text.isSeparator))
    (Q := fun _ _ => Awaits S) (fun more hmore branches _ => ?_) branches ()
  let AtStart (scanner : Scanner) : Prop :=
    scanner.Awaits (Then (BlockIf branches) S) ∧ Allows branches scanner.rest
  have hskip : Mends (fun scanner => scanner.Awaits (Then (BlockIf branches) S) ∧
      Allows branches (scanner.rest.dropWhile Text.isSeparator)) skipBlanks
      fun _ => AtStart := by
    rintro scanner ⟨hawaits, hallows⟩ hmendable
    have hspaced : scanner.Awaits (Then Blanks (Then (BlockIf branches) S)) := by
      refine hawaits.of_le ?_
      rw [← then_assoc]
      exact then_mono (blanks_blockIf_le branches) (le_refl S)
    obtain ⟨hnext, hvalue⟩ := Mends.skipBlanks scanner hspaced hmendable
    refine ⟨hnext, fun value next hrun => ⟨hvalue value next hrun, ?_⟩⟩
    cases hrun
    rwa [Scanner.rest_skipBlanks]
  have hatEnd : Mends AtStart (atBlockEnd terminators) fun _ => AtStart := by
    refine fun scanner hstart hmendable => ⟨hmendable, fun value next hrun => ?_⟩
    cases hrun
    exact hstart
  refine hskip.bind fun _ => hatEnd.bind fun atEnd => ?_
  cases atEnd with
  | true =>
      refine .succeed [] fun scanner hstart => hstart.1.of_le (le_then_of_here_le ?_ S)
      exact fun text rest heq => blanks_le_blockIf _ _ _ (here_le_blanks _ _ heq)
  | false =>
      have hfirst : Mends AtStart p fun _ => Awaits (Then (BlockIf True) S) := by
        refine (h branches (Then (BlockIf True) S)).pre fun scanner hstart => ⟨?_, hstart.2⟩
        refine hstart.1.of_le ?_
        rw [← then_assoc]
        exact then_mono (sentence_le_blockIf branches) (le_refl S)
      have hothers : Mends (Awaits (Then (BlockIf True) S)) (more ()) fun _ => Awaits S :=
        (hmore True ()).pre fun _ hawaits => ⟨hawaits, .inl trivial⟩
      exact hfirst.bind fun _ => hothers.bind fun _ => .succeed _ fun _ hawaits => hawaits

/-- A block and what follows it, whatever the block starts with. -/
theorem Speaks.block_bind (h : Speaks p) (terminators : List String)
    {f : List Statement → Parser α} {B : Phrase} (hf : ∀ statements, Fluent (f statements) B)
    [Writable (Then Blanks B)] :
    Fluent (block p terminators >>= f) (Then (BlockIf True) B) := by
  intro S _
  have : Writable (Then Blanks (Then B S)) := by
    rw [← then_assoc]
    infer_instance
  rw [then_assoc]
  refine Mends.bind ?_ fun statements => hf statements S
  exact (h.block_mends terminators (Then B S) True).pre fun _ hawaits => ⟨hawaits, .inl trivial⟩

/-- What follows the word for the other case. A block is read only where no branch starts. -/
theorem Speaks.afterElse (h : Speaks p) {again : Parser Statement} (hagain : Fluent again AfterIf)
    (test : Expr) (consequent : List Statement) :
    Fluent (do
      skipBlanks
      commit (word "if")
        (fun _ => do
          let nested ← again
          return Statement.branch test consequent [nested])
        (do
          let alternative ← block p ["end"]
          word "end"
          return Statement.branch test consequent alternative)) AfterElse := by
  intro S _
  have hskip : Mends (Awaits (Then AfterElse S)) skipBlanks fun _ scanner =>
      scanner.Awaits (Then AfterElse S) ∧ Text.Stops Text.isSeparator scanner.rest := by
    intro scanner hawaits hmendable
    have hspaced : scanner.Awaits (Then Blanks (Then AfterElse S)) := by
      refine hawaits.of_le ?_
      rw [← then_assoc]
      exact then_mono blanks_afterElse_le (le_refl S)
    obtain ⟨hnext, hvalue⟩ := Mends.skipBlanks scanner hspaced hmendable
    exact ⟨hnext, fun value next hrun => ⟨hvalue value next hrun, skipBlanks_stops hrun⟩⟩
  have hif : Fluent (word "if") (Word "if") := word_fluent (by decide)
  refine hskip.bind fun _ => Mends.commit (Q := fun _ => Awaits (Then AfterIf S)) ?_
    (fun _ => ((hagain.map _) S)) ?_
  · refine ((hif (Then AfterIf S)).of_le ?_).pre fun _ hstart => hstart.1
    rw [← then_assoc]
    refine then_mono (fun text rest hnested => .inl ?_) (le_refl S)
    exact le_then_of_here_le here_le_blanks _ _ _ hnested
  · have hblock := h.block_mends ["end"] (Then (Word "end") S) False
    refine (hblock.bind fun _ => (((word_fluent (by decide)).map _) S)).pre ?_
    rintro next ⟨scanner, ⟨hawaits, hstops⟩, hrun⟩
    refine ⟨(hawaits.stay (word_lexeme (by decide)) hrun).of_le ?_, .inr ?_⟩
    · rw [← then_assoc]
      exact then_mono (fun _ _ hblock => .inr hblock) (le_refl S)
    · rw [(word_lexeme (by decide)).stays hrun, Text.dropWhile_of_stops hstops]
      exact not_word_of_refused (by decide) hrun

/-- What follows the word that starts a branch is fluent if statements are. -/
theorem Speaks.branch (h : Speaks p) : Fluent (branch p) AfterIf := by
  refine .fix (fun again hagain _ => ?_) ()
  refine .skipBlanks (expression_fluent.bind fun test => .skipBlanks ?_)
  refine (word_fluent (by decide)).bind fun _ => h.block_bind _ fun consequent => ?_
  exact .commit (word_lexeme (by decide)) (word_fluent (by decide))
    (fun _ => h.afterElse (hagain ()) test consequent) else_le_otherwise
    (((word_fluent (by decide)).map _).of_le end_le_otherwise)

/-- What follows the word that starts a loop is fluent if statements are. -/
theorem Speaks.forEach (h : Speaks p) : Fluent (forEach p) AfterFor := by
  refine .skipBlanks ((word_fluent (by decide)).bind fun _ => .skipBlanks ?_)
  refine identifier_fluent.bind fun binding => .skipBlanks ?_
  refine (word_fluent (by decide)).bind fun _ => .skipBlanks ?_
  refine expression_fluent.term.bind fun iterable => .skipBlanks ?_
  refine (word_fluent (by decide)).bind fun _ => h.block_bind _ fun body => ?_
  exact (word_fluent (by decide)).map _

/-- What follows the name that starts a statement is fluent. -/
theorem simpleStatement_fluent (name : String) : Fluent (simpleStatement name) AfterName := by
  refine .afterBlanks assignSign_lexeme assignSign_fluent
    (fun _ => .skipBlanks (expression_fluent.map _)) assign_le_afterName ?_
  refine .commit (char_lexeme '(') (char_fluent '(')
    (fun _ => (expression_fluent.elements ')').map _) call_le_afterName fun S _ => ?_
  have hchain := expression_fluent.chain_mends (SentenceIf False) S (.var name)
  refine (hchain.of_le (then_mono var_le_named (le_refl S))).bind fun found => ?_
  cases found with
  | method base name args =>
      exact .succeed _ fun _ hawaits => hawaits.of_le (le_then_of_here_le here_le_chain_sentence S)
  | _ => exact .fail

/-- Statements are fluent if the statements nested in them are. -/
theorem Speaks.statementWith (h : Speaks p) : Speaks (statementWith p) := by
  intro branches S _
  have hplain : Fluent (commit (word "for") (fun _ => Parser.forEach p) do
      simpleStatement (← identifier)) (SentenceIf False) := by
    refine .commit (word_lexeme (by decide)) (word_fluent (by decide)) (fun _ => h.forEach)
      forEach_le_sentence ?_
    exact .of_le (identifier_fluent.bind simpleStatement_fluent) (then_after_le Named _)
  refine Mends.commit (Q := fun _ => Awaits (Then AfterIf S)) ?_ (fun _ => h.branch S) ?_
  · rintro scanner ⟨hawaits, hallows⟩ hmendable
    refine ⟨mendable_of_refusal (.word "if") hawaits hmendable rfl,
      fun value next hrun => ?_⟩
    have hword := (reads_word (by decide)).sound hrun
    have hbranches : branches := hallows.resolve_right fun hnone => hnone _ hword
    have hnext : scanner.Awaits (Then (Word "if") (Then AfterIf S)) := by
      refine hawaits.of_le ?_
      rw [← then_assoc]
      exact then_mono (branch_le_sentence hbranches) (le_refl S)
    exact (word_fluent (by decide) _ _ hnext hmendable).2 value next hrun
  · refine ((hplain.of_le (sentenceIf_le branches)) S).pre ?_
    rintro next ⟨scanner, ⟨hawaits, -⟩, hrun⟩
    exact hawaits.stay (word_lexeme (by decide)) hrun

end Statements

/-- Statements are fluent at every depth of nesting. -/
theorem statement_speaks : Speaks statement := by
  intro branches S hS
  refine Mends.fix
    (P := fun (index : Prop × { S : Phrase // Writable S }) (_ : Unit) scanner =>
      scanner.Awaits (Then (SentenceIf index.1) index.2.1) ∧ Allows index.1 scanner.rest)
    (Q := fun index _ => Awaits index.2.1) (fun f hf index _ => ?_) (branches, ⟨S, hS⟩) ()
  have := index.2.2
  exact Speaks.statementWith (fun branches T hT => hf (branches, ⟨T, hT⟩) ()) index.1 index.2.1

/-- A program that is read from the start of a text leaves a record that can be mended. -/
theorem program_mendable (source : String) : (program (.ofString source)).2.Mendable := by
  have hend : Mends (Awaits Here) endOfText fun _ _ => True := by
    intro scanner hawaits hmendable
    refine ⟨?_, fun _ _ _ => trivial⟩
    unfold endOfText
    split
    · exact hmendable
    · exact hmendable.expectAt hawaits.viable _
  have hblock := statement_speaks.block_mends [] Here True
  have hprogram := hblock.bind fun statements => hend.bind fun _ =>
    Mends.succeed (Program.mk statements) (Q := fun _ _ => True) fun _ _ => trivial
  have hempty : Viable [] := ⟨[], ⟨[]⟩, .nil _ _ (.refl _)⟩
  refine (hprogram (.ofString source) ⟨⟨[], rfl, rfl, hempty, [], Text.stops_nil, ?_⟩,
    .inl trivial⟩ hempty).1
  rintro start - ⟨_, ⟨statements, hderives, -⟩, rfl⟩
  exact ⟨⟨statements⟩, hderives⟩

end Parser

/-- A text that does not compile has an error at a place inside it or at its end, with the character
that stands there and at least one label of what is accepted there, in order and once each. Up to
that place nothing is wrong: something can be written there that makes the text compile. -/
theorem compile_error_mendable {source : String} {error : ParseError}
    (h : compile source = .error error) :
    error.offset ≤ source.length ∧ error.found = source.toList[error.offset]? ∧
      (error.found = none ↔ error.offset = source.length) ∧
      error.expected ≠ [] ∧ error.expected.Pairwise (· < ·) ∧
      ∃ more program,
        compile (String.ofList (source.toList.take error.offset) ++ more) = .ok program := by
  obtain ⟨next, hrun, rfl⟩ : ∃ next, Parser.program (.ofString source) = (none, next) ∧
      error = next.error := by
    unfold compile Scanner.parseProgram at h
    split at h
    · cases h
    · next next hrun =>
        cases h
        exact ⟨next, hrun, rfl⟩
  have hcoherent := Scanner.coherent_ofString source
  have hmendable := Parser.program_mendable source
  rw [hrun] at hmendable
  obtain ⟨actions, hnext, hfailed⟩ := Parser.program_misses hcoherent hrun
  have hrecords := (Scanner.records_ofString source).performAll hcoherent actions
  have htext : next.text = source.toList := hnext ▸ (hcoherent.performAll actions).2
  rw [← hnext, List.nil_append] at hrecords
  have hoffset : next.error.offset = min next.furthest source.length := by
    rw [← String.length_toList, ← htext]
    rfl
  have hfound : next.error.found = source.toList[next.error.offset]? := by
    rw [← htext]
    rfl
  have hle : next.error.offset ≤ source.length := hoffset ▸ Nat.min_le_right _ _
  refine ⟨hle, hfound, ?_, hrecords.expected_ne_nil hfailed, hrecords.sorted, ?_⟩
  · rw [hfound, List.getElem?_eq_none_iff, String.length_toList]
    omega
  · obtain ⟨more, program, hderives⟩ := hmendable
    refine ⟨String.ofList more, program, compile_of_derives ?_⟩
    have htake : source.toList.take next.error.offset = next.text.take next.furthest := by
      rw [hoffset, htext, ← String.length_toList, ← List.take_eq_take_min]
    rw [String.toList_append, String.toList_ofList, String.toList_ofList, htake]
    exact hderives

/-- A bracket after a sign, in a call inside the other case of a branch: what precedes it can be
completed. -/
theorem compile_error_mendable_sign :
    compile "if a then else f(-]" = .error ⟨18, 1, 19, ["number"], some ']'⟩ ∧
      ∃ more program,
        compile (String.ofList ("if a then else f(-]".toList.take 18) ++ more) = .ok program := by
  have h : compile "if a then else f(-]" = .error ⟨18, 1, 19, ["number"], some ']'⟩ := by rfl
  exact ⟨h, (compile_error_mendable h).2.2.2.2.2⟩

end HostScript

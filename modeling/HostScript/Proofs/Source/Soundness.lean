import HostScript.Proofs.Source.Progress

/-!
# What is parsed is a phrase

Every success of a parser of the grammar follows the relation of its phrase. The proofs go by
`fix_success`, so they need no bound on the text: a recursive parser is sound if its body is
whenever the nested calls are. A loop is sound in the form "if the text before the loop is a
phrase for what was folded so far, the text before its end is one for the result".
-/

namespace HostScript

namespace Grammar

/-- A sentence that is a branch starts with its word. -/
theorem Block.word_of_startsWithBranch {text rest : List Char} {statements : List Statement}
    (h : Block text rest statements) (hbranch : startsWithBranch statements = true) :
    ∃ start after, Blanks text start ∧ Word "if" start after := by
  cases h with
  | nil => cases hbranch
  | cons text start finish rest first others hblanks hfirst hothers =>
      cases hfirst with
      | branch text rest statement hstatement =>
          cases hstatement with
          | intro _ _ _ _ _ _ _ _ _ _ _ hword => exact ⟨_, _, hblanks, hword⟩
      | _ => cases hbranch

/-- Blanks before a block belong to it. -/
theorem Block.of_blanks {text start rest : List Char} {statements : List Statement}
    (h : Block start rest statements) (hblanks : Blanks text start) :
    Block text rest statements := by
  cases h with
  | nil _ _ hstart => exact .nil _ _ (hblanks.trans hstart)
  | cons _ _ _ _ _ _ hstart hfirst hothers =>
      exact .cons _ _ _ _ _ _ (hblanks.trans hstart) hfirst hothers

end Grammar

namespace Parser

open Grammar

variable {α β : Type}

/-- A success of a committed choice is a success of the way that was taken. -/
theorem commit_success {p : Parser α} {yes : α → Parser β} {no : Parser β}
    {scanner next : Scanner} {result : β}
    (h : commit p yes no scanner = (some result, next)) :
    (∃ value mid, p scanner = (some value, mid) ∧ yes value mid = (some result, next)) ∨
      ∃ mid, p scanner = (none, mid) ∧ no mid = (some result, next) := by
  unfold commit at h
  split at h
  · next value mid heq => exact .inl ⟨value, mid, heq, h⟩
  · next mid heq => exact .inr ⟨mid, heq, h⟩

/-- A success of a sequence is a success of both parts. -/
theorem bind_success {p : Parser α} {f : α → Parser β} {scanner next : Scanner} {result : β}
    (h : (p >>= f) scanner = (some result, next)) :
    ∃ value mid, p scanner = (some value, mid) ∧ f value mid = (some result, next) := by
  rcases commit_success h with hboth | ⟨mid, -, hfail⟩
  · exact hboth
  · cases hfail

/-- Every success of a parser follows a relation of the grammar. -/
def Sound (p : Parser α) (R : List Char → List Char → α → Prop) : Prop :=
  ∀ {scanner next value}, p scanner = (some value, next) → R scanner.rest next.rest value

/-- Skipped blanks are blanks. -/
theorem skipBlanks_sound : Sound skipBlanks (fun text rest _ => Blanks text rest) := by
  intro scanner next value h
  cases h
  exact blanks_skipBlanks scanner

/-- After skipped blanks there is no blank. -/
theorem skipBlanks_stops {scanner next : Scanner} {value : Unit}
    (h : skipBlanks scanner = (some value, next)) : Text.Stops Text.isSeparator next.rest := by
  cases h
  rw [Scanner.rest_skipBlanks]
  exact Text.stops_dropWhile _

/-- What follows looking past blanks: either the first parser succeeded after the blanks, or the
second choice started before them. -/
theorem afterBlanks_success {p : Parser α} {yes : α → Parser β} {no : Parser β}
    {scanner next : Scanner} {result : β}
    (h : afterBlanks p yes no scanner = (some result, next)) :
    (∃ value mid, p scanner.skipBlanks = (some value, mid) ∧
      yes value mid = (some result, next)) ∨
    ∃ start : Scanner, start.rest = scanner.rest ∧ no start = (some result, next) := by
  rw [afterBlanks_apply] at h
  rcases commit_success h with hyes | ⟨mid, -, hno⟩
  · exact .inl hyes
  · exact .inr ⟨mid.rewind scanner, rfl, hno⟩

section Expressions

variable {p : Parser Expr}

/-- The operators and operands after a first operand extend its phrase to the left. -/
theorem operands_sound {operators : List Operator} {level : Nat}
    (hoperators : ∀ operator ∈ operators, operator.level = level)
    (h : Sound p (Operation (level + 1))) {left : Expr} {scanner next : Scanner} {result : Expr}
    (hrun : operands operators p left scanner = (some result, next)) {text : List Char}
    (hleft : Operation level text scanner.rest left) : Operation level text next.rest result := by
  refine fix_success
    (motive := fun left scanner result next => ∀ text, Operation level text scanner.rest left →
      Operation level text next.rest result) ?_ hrun text hleft
  intro more hmore left scanner result next hbody text hleft
  rcases afterBlanks_success hbody with ⟨operator, after, hoperator, hyes⟩ | ⟨start, hstart, hno⟩
  · obtain ⟨hmem, hspelled⟩ := operatorOf_sound hoperator
    obtain ⟨_, begin', hblanks, hyes⟩ := bind_success hyes
    obtain ⟨right, finish, hright, hyes⟩ := bind_success hyes
    refine hmore _ _ _ _ hyes text ?_
    exact .binary _ _ _ _ _ _ _ _ _ _ (hoperators operator hmem) hleft
      (blanks_skipBlanks scanner) hspelled (skipBlanks_sound hblanks) (h hright)
  · cases hno
    rwa [hstart]

/-- A level of operators is sound if the level above it is. -/
theorem binaryLevel_sound {operators : List Operator} {level : Nat} (hlevel : level < negationLevel)
    (hoperators : ∀ operator ∈ operators, operator.level = level)
    (h : Sound p (Operation (level + 1))) :
    Sound (binaryLevel operators p) (Operation level) := by
  intro scanner next result hrun
  rw [binaryLevel_eq_operands] at hrun
  obtain ⟨first, mid, hfirst, hrun⟩ := bind_success hrun
  exact operands_sound hoperators h hrun (.tighter _ _ _ _ hlevel (h hfirst))

/-- Negations are sound if terms are. -/
theorem negation_sound (h : Sound p Term) : Sound (negation p) (Operation negationLevel) := by
  intro scanner next result hrun
  refine fix_success (motive := fun _ scanner result next =>
    Operation negationLevel scanner.rest next.rest result) ?_ hrun
  intro again hagain _ scanner result next hbody
  rcases commit_success hbody with ⟨_, after, hword, hyes⟩ | ⟨mid, hword, hno⟩
  · obtain ⟨_, start, hblanks, hyes⟩ := bind_success hyes
    obtain ⟨operand, finish, hoperand, hyes⟩ := bind_success hyes
    cases hyes
    exact .not _ _ _ _ _ ((reads_word (by decide)).sound hword) (skipBlanks_sound hblanks)
      (hagain _ _ _ _ hoperand)
  · have hterm := h hno
    rw [(word_lexeme (by decide)).stays hword] at hterm
    exact .term _ _ _ hterm

/-- The expressions after the first one are phrases up to whatever bracket follows them. -/
theorem moreElements_sound (h : Sound p Expression) {scanner next : Scanner} {result : List Expr}
    (hrun : moreElements p scanner = (some result, next)) {close : Char} {rest : List Char}
    (hclose : next.rest = close :: rest) : MoreElements close scanner.rest rest result := by
  refine fix_success (motive := fun _ scanner result next => next.rest = close :: rest →
    MoreElements close scanner.rest rest result) ?_ hrun hclose
  intro more hmore _ scanner result next hbody hclose
  obtain ⟨_, start, hblanks, hbody⟩ := bind_success hbody
  rcases commit_success hbody with ⟨_, after, hcomma, hyes⟩ | ⟨mid, hcomma, hno⟩
  · obtain ⟨_, atElement, hinner, hyes⟩ := bind_success hyes
    obtain ⟨element, finish, helement, hyes⟩ := bind_success hyes
    obtain ⟨others, last, hothers, hyes⟩ := bind_success hyes
    cases hyes
    have hstart := skipBlanks_sound hblanks
    rw [(reads_char ',').sound hcomma] at hstart
    exact .next _ _ _ _ _ _ _ _ hstart (skipBlanks_sound hinner) (h helement)
      (hmore _ _ _ _ hothers hclose)
  · cases hno
    have hstart := skipBlanks_sound hblanks
    rw [← (char_lexeme ',').stays hcomma, hclose] at hstart
    exact .done _ _ _ hstart

/-- A list up to its closing bracket is sound if expressions are. -/
theorem elements_sound (h : Sound p Expression) (close : Char) :
    Sound (elements p close) (Elements close) := by
  intro scanner next result hrun
  obtain ⟨_, start, hblanks, hrun⟩ := bind_success hrun
  have hstart := skipBlanks_sound hblanks
  rcases commit_success hrun with ⟨_, after, hclose, hyes⟩ | ⟨mid, hclose, hno⟩
  · cases hyes
    rw [(reads_char close).sound hclose] at hstart
    exact .none _ _ _ hstart
  · obtain ⟨first, afterFirst, hfirst, hno⟩ := bind_success hno
    obtain ⟨others, afterOthers, hothers, hno⟩ := bind_success hno
    obtain ⟨_, last, hlast, hno⟩ := bind_success hno
    cases hno
    rw [← (char_lexeme close).stays hclose] at hstart
    exact .some _ _ _ _ _ _ _ hstart (h hfirst)
      (moreElements_sound h hothers ((reads_char close).sound hlast))

/-- The links of a chain extend its phrase to the left. -/
theorem chain_sound (h : Sound p Expression) {base : Expr} {scanner next : Scanner}
    {result : Expr} (hrun : chain p base scanner = (some result, next)) {text : List Char}
    (hbase : Chain text scanner.rest base) : Chain text next.rest result := by
  refine fix_success
    (motive := fun base scanner result next => ∀ text, Chain text scanner.rest base →
      Chain text next.rest result) ?_ hrun text hbase
  intro more hmore base scanner result next hbody text hbase
  rcases commit_success hbody with ⟨_, after, hpoint, hyes⟩ | ⟨mid, hpoint, hno⟩
  · obtain ⟨name, afterName, hname, hyes⟩ := bind_success hyes
    have hphrase := reads_identifier.sound hname
    rw [(reads_char '.').sound hpoint] at hbase
    rcases commit_success hyes with ⟨_, inner, hopen, hcall⟩ | ⟨mid, hopen, hread⟩
    · obtain ⟨args, finish, hargs, hcall⟩ := bind_success hcall
      rw [(reads_char '(').sound hopen] at hphrase
      exact hmore _ _ _ _ hcall text
        (.method _ _ _ _ _ _ _ hbase hphrase (elements_sound h ')' hargs))
    · rw [← (char_lexeme '(').stays hopen] at hphrase
      exact hmore _ _ _ _ hread text (.property _ _ _ _ _ hbase hphrase)
  · cases hno
    rwa [(char_lexeme '.').stays hpoint]

/-- Terms are sound if expressions are. -/
theorem term_sound (h : Sound p Expression) : Sound (term p) Term := by
  intro scanner next result hrun
  -- Each alternative that fails leaves the text where it was, so the next one starts there.
  rcases commit_success hrun with ⟨value, mid, hnumber, hyes⟩ | ⟨mid, hnumber, hrun⟩
  · cases hyes
    obtain ⟨literal, hliteral, hrest⟩ := number_sound hnumber
    rw [hrest]
    exact .number _ _ _ hliteral
  rw [← number_lexeme.stays hnumber]
  rcases commit_success hrun with ⟨_, after, htrue, hyes⟩ | ⟨mid', htrue, hrun⟩
  · cases hyes
    exact .trueWord _ _ ((reads_word (by decide)).sound htrue)
  rw [← (word_lexeme (by decide)).stays htrue]
  rcases commit_success hrun with ⟨_, after, hfalse, hyes⟩ | ⟨mid, hfalse, hrun⟩
  · cases hyes
    exact .falseWord _ _ ((reads_word (by decide)).sound hfalse)
  rw [← (word_lexeme (by decide)).stays hfalse]
  rcases commit_success hrun with ⟨name, after, hname, hyes⟩ | ⟨mid, hname, hrun⟩
  · have hphrase := reads_identifier.sound hname
    rcases commit_success hyes with ⟨_, inner, hopen, hcall⟩ | ⟨mid, hopen, hchain⟩
    · obtain ⟨args, finish, hargs, hcall⟩ := bind_success hcall
      cases hcall
      rw [(reads_char '(').sound hopen] at hphrase
      exact .call _ _ _ _ _ hphrase (elements_sound h ')' hargs)
    · rw [← (char_lexeme '(').stays hopen] at hphrase
      exact .chain _ _ _ (chain_sound h hchain (.var _ _ _ hphrase))
  rw [← identifier_lexeme.stays hname]
  rcases commit_success hrun with ⟨_, after, hopen, hyes⟩ | ⟨mid, hopen, hrun⟩
  · obtain ⟨elements, finish, helements, hyes⟩ := bind_success hyes
    cases hyes
    rw [(reads_char '[').sound hopen]
    exact .array _ _ _ (elements_sound h ']' helements)
  rw [← (char_lexeme '[').stays hopen]
  rcases commit_success hrun with ⟨value, after, hstring, hyes⟩ | ⟨mid, hstring, hrun⟩
  · cases hyes
    obtain ⟨hquote, hrest⟩ := reads_string.sound hstring
    rw [hrest]
    exact .string _ _ hquote
  rw [← string_lexeme.stays hstring]
  rcases commit_success hrun with ⟨_, after, hopen, hyes⟩ | ⟨mid, hopen, hrun⟩
  · obtain ⟨_, start, hblanks, hyes⟩ := bind_success hyes
    obtain ⟨inner, finish, hinner, hyes⟩ := bind_success hyes
    obtain ⟨_, last, hafter, hyes⟩ := bind_success hyes
    obtain ⟨_, closed, hclose, hyes⟩ := bind_success hyes
    cases hyes
    have hlast := skipBlanks_sound hafter
    rw [(reads_char ')').sound hclose] at hlast
    rw [(reads_char '(').sound hopen]
    exact .parenthesized _ _ _ _ _ (skipBlanks_sound hblanks) (h hinner) hlast
  · cases hrun

/-- The levels over sound terms are sound, from the tightest to the loosest. -/
theorem tier_sound (h : Sound p Expression) {level : Nat} (hlevel : level ≤ negationLevel) :
    Sound (tier p level) (Operation level) := by
  induction hlevel using Nat.decreasingInduction with
  | self => exact negation_sound (term_sound h)
  | of_succ level hlt ih =>
      rw [tier_of_lt hlt]
      exact binaryLevel_sound hlt (fun operator => level_of_mem_levelOperators) ih

end Expressions

/-- What is parsed as an expression is one. -/
theorem expression_sound : Sound expression Expression := by
  intro scanner next result hrun
  refine fix_success (motive := fun _ scanner result next =>
    Expression scanner.rest next.rest result) ?_ hrun
  intro f hf _ scanner result next hbody
  exact tier_sound (fun hrun => hf () _ _ _ hrun) (Nat.zero_le _) hbody

/-! ## Statements -/

section Statements

variable {p : Parser Statement}

/-- The statements of a block are sentences. -/
theorem block_sound (h : Sound p Sentence) (terminators : List String) :
    Sound (block p terminators) Block := by
  intro scanner next result hrun
  refine fix_success (motive := fun _ scanner result next =>
    Block scanner.rest next.rest result) ?_ hrun
  intro more hmore _ scanner result next hbody
  obtain ⟨_, start, hblanks, hbody⟩ := bind_success hbody
  obtain ⟨atEnd, start', hatEnd, hbody⟩ := bind_success hbody
  cases hatEnd
  have hstart := skipBlanks_sound hblanks
  split at hbody
  · cases hbody
    exact .nil _ _ hstart
  · obtain ⟨first, finish, hfirst, hbody⟩ := bind_success hbody
    obtain ⟨others, last, hothers, hbody⟩ := bind_success hbody
    cases hbody
    exact .cons _ _ _ _ _ _ hstart (h hfirst) (hmore _ _ _ _ hothers)

/-- A branch after its first word. -/
theorem branch_sound (h : Sound p Sentence) {scanner next : Scanner} {result : Statement}
    (hrun : branch p scanner = (some result, next)) {text : List Char}
    (hword : Word "if" text scanner.rest) : Branch text next.rest result := by
  refine fix_success (motive := fun _ scanner result next => ∀ text,
    Word "if" text scanner.rest → Branch text next.rest result) ?_ hrun text hword
  intro again hagain _ scanner result next hbody text hword
  obtain ⟨_, atTest, hblanks, hbody⟩ := bind_success hbody
  obtain ⟨test, afterTest, htest, hbody⟩ := bind_success hbody
  obtain ⟨_, atThen, hblanks', hbody⟩ := bind_success hbody
  obtain ⟨_, afterThen, hthen, hbody⟩ := bind_success hbody
  obtain ⟨consequent, atOther, hconsequent, hbody⟩ := bind_success hbody
  have hstart : ∀ {rest alternative}, Otherwise atOther.rest rest alternative →
      Branch text rest (.branch test consequent alternative) :=
    .intro _ _ _ _ _ _ _ _ _ _ _ hword (skipBlanks_sound hblanks) (expression_sound htest)
      (skipBlanks_sound hblanks') ((reads_word (by decide)).sound hthen)
      (block_sound h _ hconsequent)
  rcases commit_success hbody with ⟨_, afterElse, helse, hbody⟩ | ⟨mid, helse, hbody⟩
  · have helse := (reads_word (by decide)).sound helse
    obtain ⟨_, atIf, hblanks, hbody⟩ := bind_success hbody
    have hatIf := skipBlanks_sound hblanks
    rcases commit_success hbody with ⟨_, afterIf, hif, hbody⟩ | ⟨mid, hif, hbody⟩
    · obtain ⟨nested, finish, hnested, hbody⟩ := bind_success hbody
      cases hbody
      have hif := (reads_word (by decide)).sound hif
      exact hstart (.nested _ _ _ _ _ helse hatIf (hagain _ _ _ _ hnested _ hif))
    · obtain ⟨alternative, atEnd, halternative, hbody⟩ := bind_success hbody
      obtain ⟨_, finish, hend, hbody⟩ := bind_success hbody
      cases hbody
      have hblock := block_sound h _ halternative
      rw [(word_lexeme (by decide)).stays hif] at hblock
      refine hstart (.block _ _ _ _ _ helse (hblock.of_blanks hatIf) ?_
        ((reads_word (by decide)).sound hend))
      -- A block that starts with a branch starts with its word, which was not there.
      by_contra hbranch
      obtain ⟨start, after, hblanks', hword⟩ :=
        hblock.word_of_startsWithBranch (by simpa using hbranch)
      rw [hblanks'.eq_of_stops (skipBlanks_stops hblanks)] at hword
      obtain ⟨found, -, hfound⟩ := (reads_word (by decide)).takes_unit hword atIf rfl
      rw [hif] at hfound
      cases hfound
  · obtain ⟨_, finish, hend, hbody⟩ := bind_success hbody
    cases hbody
    have hend := (reads_word (by decide)).sound hend
    rw [(word_lexeme (by decide)).stays helse] at hend
    exact hstart (.none _ _ hend)

/-- A loop after its first word. -/
theorem forEach_sound (h : Sound p Sentence) {scanner next : Scanner} {result : Statement}
    (hrun : forEach p scanner = (some result, next)) {text : List Char}
    (hword : Word "for" text scanner.rest) : Sentence text next.rest result := by
  obtain ⟨_, atEach, hatEach, hrun⟩ := bind_success hrun
  obtain ⟨_, afterEach, heach, hrun⟩ := bind_success hrun
  obtain ⟨_, atName, hatName, hrun⟩ := bind_success hrun
  obtain ⟨binding, afterName, hname, hrun⟩ := bind_success hrun
  obtain ⟨_, atIn, hatIn, hrun⟩ := bind_success hrun
  obtain ⟨_, afterIn, hin, hrun⟩ := bind_success hrun
  obtain ⟨_, atTerm, hatTerm, hrun⟩ := bind_success hrun
  obtain ⟨iterable, afterTerm, hterm, hrun⟩ := bind_success hrun
  obtain ⟨_, atDo, hatDo, hrun⟩ := bind_success hrun
  obtain ⟨_, afterDo, hdo, hrun⟩ := bind_success hrun
  obtain ⟨body, atEnd, hbody, hrun⟩ := bind_success hrun
  obtain ⟨_, last, hend, hrun⟩ := bind_success hrun
  cases hrun
  exact .forEach _ _ _ _ _ _ _ _ _ _ _ _ _ _ _ _ _ hword (skipBlanks_sound hatEach)
    ((reads_word (by decide)).sound heach) (skipBlanks_sound hatName)
    (reads_identifier.sound hname) (skipBlanks_sound hatIn)
    ((reads_word (by decide)).sound hin) (skipBlanks_sound hatTerm)
    (term_sound expression_sound hterm) (skipBlanks_sound hatDo)
    ((reads_word (by decide)).sound hdo) (block_sound h _ hbody)
    ((reads_word (by decide)).sound hend)

/-- A statement after the name that it starts with. -/
theorem simpleStatement_sound {name : String} {scanner next : Scanner} {result : Statement}
    (hrun : simpleStatement name scanner = (some result, next)) {text : List Char}
    (hname : Name name text scanner.rest) : Sentence text next.rest result := by
  rcases afterBlanks_success hrun with ⟨_, after, hassign, hyes⟩ | ⟨start, hstart, hno⟩
  · obtain ⟨_, atValue, hblanks, hyes⟩ := bind_success hyes
    obtain ⟨value, finish, hvalue, hyes⟩ := bind_success hyes
    cases hyes
    have hequals := blanks_skipBlanks scanner
    rw [(reads_assignSign.sound hassign).1] at hequals
    exact .assign _ _ _ _ _ _ _ hname hequals (skipBlanks_sound hblanks)
      (expression_sound hvalue)
  rw [← hstart] at hname
  rcases commit_success hno with ⟨_, inner, hopen, hyes⟩ | ⟨mid, hopen, hno⟩
  · obtain ⟨args, finish, hargs, hyes⟩ := bind_success hyes
    cases hyes
    rw [(reads_char '(').sound hopen] at hname
    exact .call _ _ _ _ _ hname (elements_sound expression_sound ')' hargs)
  · rw [← (char_lexeme '(').stays hopen] at hname
    obtain ⟨found, finish, hchain, hno⟩ := bind_success hno
    have hphrase := chain_sound expression_sound hchain (.var _ _ _ hname)
    cases found with
    | method base name args =>
        cases hno
        exact .method _ _ _ _ _ hphrase
    | _ => cases hno

/-- Statements are sound if the statements nested in them are. -/
theorem statementWith_sound (h : Sound p Sentence) : Sound (statementWith p) Sentence := by
  intro scanner next result hrun
  rcases commit_success hrun with ⟨_, after, hif, hbranch⟩ | ⟨mid, hif, hrun⟩
  · exact .branch _ _ _ (branch_sound h hbranch ((reads_word (by decide)).sound hif))
  rw [← (word_lexeme (by decide)).stays hif]
  rcases commit_success hrun with ⟨_, after, hfor, hloop⟩ | ⟨mid, hfor, hrun⟩
  · exact forEach_sound h hloop ((reads_word (by decide)).sound hfor)
  rw [← (word_lexeme (by decide)).stays hfor]
  obtain ⟨name, after, hname, hrun⟩ := bind_success hrun
  exact simpleStatement_sound hrun (reads_identifier.sound hname)

end Statements

/-- What is parsed as a statement is one. -/
theorem statement_sound : Sound statement Sentence := by
  intro scanner next result hrun
  refine fix_success (motive := fun _ scanner result next =>
    Sentence scanner.rest next.rest result) ?_ hrun
  intro f hf _ scanner result next hbody
  exact statementWith_sound (fun hrun => hf () _ _ _ hrun) hbody

/-- The end of a text is found at its end only. -/
theorem endOfText_success {scanner next : Scanner} {value : Unit}
    (h : endOfText scanner = (some value, next)) : next = scanner ∧ scanner.rest = [] := by
  unfold endOfText at h
  split at h
  · next hempty =>
      cases h
      exact ⟨rfl, List.isEmpty_iff.1 hempty⟩
  · cases h

/-- What is parsed as a program is, up to the end of the text, a block of its statements. -/
theorem program_sound {scanner next : Scanner} {result : Program}
    (h : program scanner = (some result, next)) : Derives scanner.rest result := by
  obtain ⟨statements, mid, hblock, h⟩ := bind_success h
  obtain ⟨_, last, hend, h⟩ := bind_success h
  cases h
  have hderives := block_sound statement_sound _ hblock
  rwa [(endOfText_success hend).2] at hderives

end Parser

end HostScript

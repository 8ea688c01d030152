import HostScript.Proofs.Source.Progress

/-!
# Parsing by well-founded recursion

The parsers of the grammar call each other, often without reading anything first: a level of
operators starts with the next tighter one where it stands itself. Each call still comes before the
one it is nested in, in the lexicographic order of the characters that are left and of the levels of
the grammar. So parsing is well-founded recursion: a recursion that is allowed to make such calls
only, and that may answer all others in any way, reads what the parsers read (`descend_eq`).
-/

namespace HostScript.Parser

variable {α : Type}

/-- The phrases whose parsers call each other, by what they are read as. The loops are among them:
the operands after the first one, the expressions after the first one of a list, the links of a
chain and the statements of a block. -/
inductive Nonterminal : Type → Type where
  | program : Nonterminal Program
  | block (terminators : List String) : Nonterminal (List Statement)
  | statement : Nonterminal Statement
  | branch : Nonterminal Statement
  | forEach : Nonterminal Statement
  | tier (level : Nat) : Nonterminal Expr
  | operands (level : Nat) (left : Expr) : Nonterminal Expr
  | term : Nonterminal Expr
  | elements (close : Char) : Nonterminal (List Expr)
  | moreElements : Nonterminal (List Expr)
  | chain (base : Expr) : Nonterminal Expr

/-- A parser for each nonterminal. -/
abbrev Parsers : Type 1 := ∀ ⦃α : Type⦄, Nonterminal α → Parser α

namespace Nonterminal

/-- The parser of a nonterminal in the grammar. -/
def parser : Nonterminal α → Parser α
  | .program => Parser.program
  | .block terminators => Parser.block Parser.statement terminators
  | .statement => Parser.statement
  | .branch => Parser.branch Parser.statement
  | .forEach => Parser.forEach Parser.statement
  | .tier level => Parser.tier expression level
  | .operands level left =>
    Parser.operands (levelOperators level) (Parser.tier expression (level + 1)) left
  | .term => Parser.term expression
  | .elements close => Parser.elements expression close
  | .moreElements => Parser.moreElements expression
  | .chain base => Parser.chain expression base

/-- One call for a nonterminal, given the parsers that the calls inside it go to. -/
def body (parse : Parsers) : Nonterminal α → Parser α
  | .program => do
    let statements ← parse (.block [])
    endOfText
    return ⟨statements⟩
  | .block terminators =>
    blockBody (parse .statement) terminators (fun _ => parse (.block terminators)) ()
  | .statement =>
    commit (word "if") (fun _ => parse .branch) <|
    commit (word "for") (fun _ => parse .forEach) do
      let name ← identifier
      afterBlanks assignSign
        (fun _ => do
          skipBlanks
          return .assign name (← parse (.tier 0)))
        (commit (char '(')
          (fun _ => do return .call name (← parse (.elements ')')))
          (do
            match ← parse (.chain (.var name)) with
            | .method base name args => succeed (.method base name args)
            | _ => fail))
  | .branch => do
    skipBlanks
    let test ← parse (.tier 0)
    skipBlanks
    word "then"
    let consequent ← parse (.block ["else", "end"])
    commit (word "else")
      (fun _ => do
        skipBlanks
        commit (word "if")
          (fun _ => do
            let nested ← parse .branch
            return .branch test consequent [nested])
          (do
            let alternative ← parse (.block ["end"])
            word "end"
            return .branch test consequent alternative))
      (do
        word "end"
        return .branch test consequent [])
  | .forEach => do
    skipBlanks
    word "each"
    skipBlanks
    let binding ← identifier
    skipBlanks
    word "in"
    skipBlanks
    let iterable ← parse .term
    skipBlanks
    word "do"
    let body ← parse (.block ["end"])
    word "end"
    return .forEach binding iterable body
  | .tier level =>
    if level < negationLevel then do
      let first ← parse (.tier (level + 1))
      parse (.operands level first)
    else negationBody (parse .term) (fun _ => parse (.tier level)) ()
  | .operands level left =>
    operandsBody (levelOperators level) (parse (.tier (level + 1)))
      (fun left => parse (.operands level left)) left
  | .term =>
    commit number (fun value => succeed (.number value)) <|
    commit (word "true") (fun _ => succeed (.boolean true)) <|
    commit (word "false") (fun _ => succeed (.boolean false)) <|
    commit identifier
      (fun name =>
        commit (char '(')
          (fun _ => do return .call name (← parse (.elements ')')))
          (parse (.chain (.var name)))) <|
    commit (char '[') (fun _ => do return .array (← parse (.elements ']'))) <|
    commit string (fun value => succeed (.string value)) <|
    commit (char '(') (fun _ => parenthesized (parse (.tier 0))) fail
  | .elements close => do
    skipBlanks
    commit (char close) (fun _ => succeed []) do
      let first ← parse (.tier 0)
      let others ← parse .moreElements
      char close
      return first :: others
  | .moreElements => moreElementsBody (parse (.tier 0)) (fun _ => parse .moreElements) ()
  | .chain base =>
    commit (char '.')
      (fun _ => do
        let name ← identifier
        commit (char '(')
          (fun _ => do
            let args ← parse (.elements ')')
            parse (.chain (.method base name args)))
          (parse (.chain (.property base name))))
      (succeed base)

/-! ## Progress of all nonterminals -/

/-- How many characters a success takes at least. -/
def gain : Nonterminal α → Nat
  | .program | .block _ | .operands _ _ | .moreElements | .chain _ => 0
  | .statement | .branch | .forEach | .tier _ | .term | .elements _ => 1

/-- The level of a nonterminal in the grammar. A call that may start where the call around it does
is at a lower level; the nonterminals at the lowest level read something before every call. -/
def level : Nonterminal α → Nat
  | .program => 2
  | .block _ => 1
  | .branch | .elements _ => negationLevel + 2
  | .tier level => negationLevel - level + 1
  | .statement | .forEach | .operands _ _ | .term | .moreElements | .chain _ => 0

/-- A tier takes at least one character. -/
theorem tier_agree {count : Nat} (level : Nat) :
    Agree 1 count (Parser.tier expression level) (Parser.tier expression level) :=
  (term_agree.negation).levels _

/-- The end of the text takes nothing. -/
theorem endOfText_agree {count : Nat} : Agree 0 count endOfText endOfText := by
  intro scanner _
  unfold endOfText
  split
  · exact ⟨rfl, .refl scanner, fun _ => Nat.le_refl _⟩
  · exact ⟨rfl, scanner.reaches_expectAt _ _, nofun⟩

/-- Every parser of the grammar moves only forward, and gains its characters. -/
theorem parser_agree (part : Nonterminal α) {count : Nat} :
    Agree part.gain count part.parser part.parser := by
  cases part with
  | program =>
      exact .bind (statement_agree.block []) fun _ => .bind endOfText_agree fun _ => .succeed _
  | block terminators => exact statement_agree.block terminators
  | statement => exact statement_agree
  | branch => exact statement_agree.branch
  | forEach => exact statement_agree.forEach
  | tier level => exact tier_agree level
  | operands level left => exact (tier_agree (level + 1)).operands (levelOperators level) left
  | term => exact term_agree
  | elements close => exact expression_agree.elements close
  | moreElements => exact expression_agree.moreElements
  | chain base => exact expression_agree.chain base

/-! ## Descent -/

/-- The lowest tier is all expressions. -/
theorem tier_zero : Parser.tier expression 0 = expression :=
  expression_eq.symm

/-- Above the binary operators there are negations. -/
theorem tier_eq_negation {level : Nat} (h : ¬ level < negationLevel) :
    Parser.tier expression level = negation (Parser.term expression) := by
  unfold Parser.tier
  rw [List.drop_eq_nil_of_le (Nat.le_of_not_lt h)]
  rfl

section Bodies

variable {count : Nat} {parse : Parsers}
  (hshorter : ∀ {β : Type} (inner : Nonterminal β),
    Agree inner.gain count (parse inner) inner.parser)

include hshorter

/-- Nested expressions agree where fewer characters are left. -/
theorem expression_shorter {gain less : Nat} (hgain : gain ≤ 1) (hless : less ≤ count) :
    Agree gain less (parse (.tier 0)) expression := by
  have hexpression : Agree 1 count (parse (.tier 0)) (Parser.tier expression 0) :=
    hshorter (.tier 0)
  rw [tier_zero] at hexpression
  exact hexpression.mono hgain hless

/-- Nested lists agree where fewer characters are left. -/
theorem elements_shorter (close : Char) {less : Nat} (hless : less ≤ count) :
    Agree 0 less (parse (.elements close)) (Parser.elements expression close) :=
  (hshorter (.elements close)).mono (Nat.zero_le 1) hless

/-- Nested blocks agree where fewer characters are left. -/
theorem block_shorter (terminators : List String) {less : Nat} (hless : less ≤ count) :
    Agree 0 less (parse (.block terminators)) (Parser.block Parser.statement terminators) :=
  (hshorter (.block terminators)).mono (Nat.le_refl 0) hless

/-- One step of a statement agrees with its parser. -/
theorem statement_body_agree :
    Agree 1 (count + 1) (Nonterminal.statement.body parse) Parser.statement := by
  rw [statement_eq]
  refine .commit (word_lexeme (by decide)).agree
    (fun _ => (hshorter .branch).mono (Nat.zero_le 1) (Nat.le_refl _)) ?_
  refine .commit (word_lexeme (by decide)).agree
    (fun _ => (hshorter .forEach).mono (Nat.zero_le 1) (Nat.le_refl _)) ?_
  refine .bind identifier_lexeme.agree fun name => ?_
  refine .afterBlanks assignSign_lexeme.agree (fun _ => ?_) ?_
  · have hvalue := expression_shorter hshorter (Nat.zero_le 1) (Nat.sub_le count 1)
    exact .bind .skipBlanks fun _ => .bind hvalue fun value => .succeed _
  · refine .commit (char_lexeme '(').agree (fun _ => ?_) ?_
    · exact .bind (elements_shorter hshorter ')' (Nat.sub_le count 1)) fun args => .succeed _
    · refine .bind (hshorter (.chain (.var name))) fun found => ?_
      cases found with
      | method base name args => exact .succeed _
      | _ => exact .fail

/-- One step of a branch agrees with its parser. -/
theorem branch_body_agree (htest : Agree 1 (count + 1) (parse (.tier 0)) expression) :
    Agree 1 (count + 1) (Nonterminal.branch.body parse) (Parser.branch Parser.statement) := by
  have hend : ∀ {less}, Agree 0 less (word "end") (word "end") :=
    (word_lexeme (by decide)).agree.mono (Nat.zero_le 1) (Nat.le_refl _)
  rw [branch_eq]
  refine .bind .skipBlanks fun _ => .bind htest fun test => ?_
  refine .bind .skipBlanks fun _ => .bind (word_lexeme (by decide)).agree fun _ => ?_
  refine .bind (block_shorter hshorter _ (by omega)) fun consequent => ?_
  refine .commit (word_lexeme (by decide)).agree (fun _ => ?_) (.bind hend fun _ => .succeed _)
  refine .bind .skipBlanks fun _ => .commit (word_lexeme (by decide)).agree (fun _ => ?_) ?_
  · exact .bind ((hshorter .branch).mono (Nat.zero_le 1) (by omega)) fun _ => .succeed _
  · refine .bind (block_shorter hshorter _ (by omega)) fun alternative => ?_
    exact .bind hend fun _ => .succeed _

/-- One step of a loop agrees with its parser. -/
theorem forEach_body_agree :
    Agree 1 (count + 1) (Nonterminal.forEach.body parse) (Parser.forEach Parser.statement) := by
  refine .bind .skipBlanks fun _ => .bind (word_lexeme (by decide)).agree fun _ => ?_
  refine .bind .skipBlanks fun _ => .bind identifier_lexeme.agree fun binding => ?_
  refine .bind .skipBlanks fun _ => .bind (word_lexeme (by decide)).agree fun _ => ?_
  refine .bind .skipBlanks fun _ => ?_
  refine .bind ((hshorter .term).mono (Nat.le_refl 1) (by omega)) fun iterable => ?_
  refine .bind .skipBlanks fun _ => .bind (word_lexeme (by decide)).agree fun _ => ?_
  refine .bind (block_shorter hshorter _ (by omega)) fun body => ?_
  exact .bind (word_lexeme (by decide)).agree fun _ => .succeed _

/-- One step of a tier agrees with its parser. -/
theorem tier_body_agree (level : Nat)
    (hlower : ∀ {β : Type} (inner : Nonterminal β), inner.level < (tier level).level →
      Agree inner.gain (count + 1) (parse inner) inner.parser) :
    Agree 1 (count + 1) ((tier level).body parse) (Parser.tier expression level) := by
  show Agree 1 _ (if level < negationLevel then _ else _) _
  split
  · next hlevel =>
      rw [tier_of_lt hlevel, binaryLevel_eq_operands]
      refine .bind (hlower (.tier (level + 1)) ?_) fun first => hshorter (.operands level first)
      show negationLevel - (level + 1) + 1 < negationLevel - level + 1
      omega
  · next hlevel =>
      have hagain : Agree 1 count (parse (.tier level)) (Parser.tier expression level) :=
        hshorter (.tier level)
      rw [tier_eq_negation hlevel] at hagain ⊢
      rw [negation_eq fun _ => term_agree]
      exact (hlower .term (Nat.succ_pos _)).negationBody (fun _ => hagain) ()

/-- One step of a term agrees with its parser. -/
theorem term_body_agree :
    Agree 1 (count + 1) (Nonterminal.term.body parse) (Parser.term expression) := by
  refine .commit number_lexeme.agree (fun _ => .succeed _) ?_
  refine .commit (word_lexeme (by decide)).agree (fun _ => .succeed _) ?_
  refine .commit (word_lexeme (by decide)).agree (fun _ => .succeed _) ?_
  refine .commit identifier_lexeme.agree (fun name => ?_) ?_
  · refine .commit (char_lexeme '(').agree (fun _ => ?_) (hshorter (.chain (.var name)))
    exact .bind (elements_shorter hshorter ')' (Nat.sub_le count 1)) fun args => .succeed _
  refine .commit (char_lexeme '[').agree (fun _ => ?_) ?_
  · exact .bind (elements_shorter hshorter ']' (Nat.le_refl count)) fun _ => .succeed _
  refine .commit string_lexeme.agree (fun _ => .succeed _) ?_
  have hinner := expression_shorter hshorter (Nat.le_refl 1) (Nat.le_refl count)
  exact .commit (char_lexeme '(').agree (fun _ => hinner.parenthesized) .fail

/-- One step of a list agrees with its parser. -/
theorem elements_body_agree (close : Char)
    (hfirst : Agree 1 (count + 1) (parse (.tier 0)) expression) :
    Agree 1 (count + 1) ((elements close).body parse) (Parser.elements expression close) := by
  refine .bind .skipBlanks fun _ => .commit (char_lexeme close).agree (fun _ => .succeed []) ?_
  refine .bind hfirst fun first => .bind (hshorter .moreElements) fun others => ?_
  exact .bind ((char_lexeme close).agree.mono (Nat.zero_le 1) (Nat.le_refl _)) fun _ => .succeed _

/-- One step of a chain agrees with its parser. -/
theorem chain_body_agree (base : Expr) :
    Agree 0 (count + 1) ((chain base).body parse) (Parser.chain expression base) := by
  have hmore : ∀ {less} base, less ≤ count →
      Agree 0 less (parse (.chain base)) (Parser.chain expression base) :=
    fun base hless => (hshorter (.chain base)).mono (Nat.le_refl 0) hless
  rw [chain_eq]
  refine .commit (char_lexeme '.').agree (fun _ => ?_) (.succeed base)
  refine .bind identifier_lexeme.agree fun name => ?_
  refine .commit (char_lexeme '(').agree (fun _ => ?_) (hmore _ (by omega))
  exact .bind (elements_shorter hshorter ')' (by omega)) fun args => hmore _ (by omega)

/-- One call does what the parser of its nonterminal does, if the calls inside it do so on all
shorter texts, and at lower levels where it stands itself. -/
theorem body_agree (part : Nonterminal α)
    (hlower : ∀ {β : Type} (inner : Nonterminal β), inner.level < part.level →
      Agree inner.gain (count + 1) (parse inner) inner.parser) :
    Agree part.gain (count + 1) (part.body parse) part.parser := by
  have hexpression : (tier 0).level < part.level →
      Agree 1 (count + 1) (parse (.tier 0)) expression := by
    intro hlevel
    have htier := hlower (.tier 0) hlevel
    exact tier_zero ▸ htier
  cases part with
  | program =>
      refine .bind (hlower (.block []) (Nat.lt_succ_self 1)) fun _ => ?_
      exact .bind endOfText_agree fun _ => .succeed _
  | block terminators =>
      show Agree 0 _ _ (Parser.block Parser.statement terminators)
      rw [block_eq]
      exact Agree.blockBody (hlower .statement Nat.zero_lt_one) terminators
        (fun _ => hshorter (.block terminators)) ()
  | statement => exact statement_body_agree hshorter
  | branch => exact branch_body_agree hshorter (hexpression (Nat.lt_succ_self _))
  | forEach => exact forEach_body_agree hshorter
  | tier level => exact tier_body_agree hshorter level hlower
  | operands level left =>
      show Agree 0 _ _ (Parser.operands _ _ left)
      rw [operands_eq _ fun _ => tier_agree (level + 1)]
      have hright : Agree 1 count (parse (.tier (level + 1)))
          (Parser.tier expression (level + 1)) := hshorter (.tier (level + 1))
      exact hright.operandsBody (levelOperators level)
        (fun left => hshorter (.operands level left)) left
  | term => exact term_body_agree hshorter
  | elements close =>
      exact elements_body_agree hshorter close (hexpression (Nat.lt_succ_self _))
  | moreElements =>
      show Agree 0 _ _ (Parser.moreElements expression)
      rw [moreElements_eq]
      exact (expression_shorter hshorter (Nat.le_refl 1) (Nat.le_refl count)).moreElementsBody
        (fun _ => hshorter .moreElements) ()
  | chain base => exact chain_body_agree hshorter base

end Bodies

/-- A call that comes before another one: fewer characters are left, or as many at a lower level of
the grammar. -/
def Precedes {β : Type} (inner : Nonterminal β) (next : Scanner) (part : Nonterminal α)
    (scanner : Scanner) : Prop :=
  next.rest.length < scanner.rest.length ∨
    next.rest.length = scanner.rest.length ∧ inner.level < part.level

instance {β : Type} (inner : Nonterminal β) (next : Scanner) (part : Nonterminal α)
    (scanner : Scanner) : Decidable (inner.Precedes next part scanner) :=
  inferInstanceAs (Decidable (_ ∨ _))

/-- One call does what the parser of its nonterminal does, if the calls that come before it do. -/
theorem body_eq {parse : Parsers} (part : Nonterminal α) {scanner : Scanner}
    (h : ∀ {β : Type} (inner : Nonterminal β) (next : Scanner),
      inner.Precedes next part scanner → parse inner next = inner.parser next) :
    part.body parse scanner = part.parser scanner := by
  have hagree : ∀ {β : Type} (inner : Nonterminal β) {count : Nat},
      (∀ next : Scanner, next.rest.length < count → inner.Precedes next part scanner) →
      Agree inner.gain count (parse inner) inner.parser := by
    intro β inner count hprecedes next hlength
    obtain ⟨-, hreaches, hgain⟩ := inner.parser_agree next hlength
    rw [h inner next (hprecedes next hlength)]
    exact ⟨rfl, hreaches, hgain⟩
  -- A lower level may also be called where the call itself starts, hence on one character more.
  refine (body_agree (fun inner => hagree inner fun next hlength => .inl hlength) part
    (fun inner hlevel => hagree inner fun next hlength => ?_) scanner (Nat.lt_succ_self _)).1
  rcases Nat.lt_or_eq_of_le (Nat.le_of_lt_succ hlength) with hless | hsame
  · exact .inl hless
  · exact .inr ⟨hsame, hlevel⟩

/-- Parsing by recursion to the calls that come before a call. All other calls are not made, and
`otherwise` stands for what they would do. -/
def descend (otherwise : Parsers) {α : Type} (part : Nonterminal α) (scanner : Scanner) :
    Option α × Scanner :=
  part.body
    (fun _ inner next =>
      if _h : inner.Precedes next part scanner then descend otherwise inner next
      else otherwise inner next)
    scanner
termination_by (scanner.rest.length, part.level)
decreasing_by exact Prod.lex_def.2 _h

/-- No call is ever made but those that come before the call it is made in. -/
theorem descend_eq (otherwise : Parsers) {α : Type} (part : Nonterminal α)
    (scanner : Scanner) : part.descend otherwise scanner = part.parser scanner := by
  rw [descend]
  refine body_eq part fun inner next hprecedes => ?_
  rw [dif_pos hprecedes]
  exact descend_eq otherwise inner next
termination_by (scanner.rest.length, part.level)
decreasing_by exact Prod.lex_def.2 hprecedes

end Nonterminal

end HostScript.Parser

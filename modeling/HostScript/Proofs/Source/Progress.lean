import HostScript.Proofs.Source.Lexemes

/-!
# Progress of the grammar

Every parser of the grammar moves forward inside the text, and those of expressions and statements
take at least one character. So the nested calls of the recursive parsers start further right, and
each of them satisfies the equation that it was written down with (`expression_eq`, `statement_eq`
and the equations of the loops).
-/

namespace HostScript.Parser

variable {α β : Type}

/-! ## Looking past blanks -/

/-- Tries a parser after blanks; if it fails, the blanks are given back. -/
def afterBlanks (p : Parser α) (yes : α → Parser β) (no : Parser β) : Parser β := do
  let before ← here
  skipBlanks
  commit p yes (do rewind before; no)

/-- The first parser starts after the blanks, and the second choice before them. -/
theorem afterBlanks_apply (p : Parser α) (yes : α → Parser β) (no : Parser β)
    (scanner : Scanner) :
    afterBlanks p yes no scanner =
      commit p yes (fun next => no (next.rewind scanner)) scanner.skipBlanks := rfl

/-- Looking past blanks keeps agreement. -/
theorem Agree.afterBlanks {gain gain' count : Nat} {p q : Parser α} {yes yes' : α → Parser β}
    {no no' : Parser β} (h : Agree gain count p q)
    (hyes : ∀ value, Agree (gain' - gain) (count - gain) (yes value) (yes' value))
    (hno : Agree gain' count no no') :
    Agree gain' count (afterBlanks p yes no) (afterBlanks q yes' no') := by
  intro scanner hlength
  have hskip := scanner.reaches_skipBlanks
  have hle := hskip.length_le
  obtain ⟨heq, hreach, htake⟩ := h scanner.skipBlanks (by omega)
  rw [afterBlanks_apply, afterBlanks_apply]
  unfold Parser.commit
  rw [← heq]
  generalize p scanner.skipBlanks = result at hreach htake
  obtain ⟨_ | value, next⟩ := result
  -- After a failure the cursor goes back before the blanks, so no character was lost.
  · have hback : scanner.Reaches (next.rewind scanner) := (hskip.trans hreach).rewind
    obtain ⟨hnoEq, hnoReach, hnoTake⟩ := hno (next.rewind scanner) hlength
    exact ⟨hnoEq, hback.trans hnoReach, hnoTake⟩
  · have hgain : next.rest.length + gain ≤ scanner.skipBlanks.rest.length := htake rfl
    obtain ⟨hyesEq, hyesReach, hyesTake⟩ := hyes value next (by omega)
    refine ⟨hyesEq, (hskip.trans hreach).trans hyesReach, fun hsome => ?_⟩
    have hmore : (yes value next).2.rest.length + (gain' - gain) ≤ next.rest.length :=
      hyesTake hsome
    show (yes value next).2.rest.length + gain' ≤ scanner.rest.length
    omega

/-! ## Expressions -/

/-- One more operator with its operand, or the end of a level. -/
def operandsBody (operators : List Operator) (operand : Parser Expr) (more : Expr → Parser Expr)
    (left : Expr) : Parser Expr :=
  afterBlanks (operatorOf operators)
    (fun operator => do
      skipBlanks
      let right ← operand
      more (.binary operator left right))
    (succeed left)

/-- The operators and operands after the first operand of a level. -/
def operands (operators : List Operator) (operand : Parser Expr) : Expr → Parser Expr :=
  fix (operandsBody operators operand)

/-- A level is an operand and the operators and operands after it. -/
theorem binaryLevel_eq_operands (operators : List Operator) (operand : Parser Expr) :
    binaryLevel operators operand = (operand >>= operands operators operand) := rfl

/-- A word of negation with what it negates, or an operand. -/
def negationBody (operand : Parser Expr) (again : Unit → Parser Expr) (_ : Unit) : Parser Expr :=
  commit (word "not")
    (fun _ => do
      skipBlanks
      return .not (← again ()))
    operand

/-- A comma with an expression and what follows, or the end of the expressions. -/
def moreElementsBody (expression : Parser Expr) (more : Unit → Parser (List Expr)) (_ : Unit) :
    Parser (List Expr) := do
  skipBlanks
  commit (char ',')
    (fun _ => do
      skipBlanks
      let element ← expression
      return element :: (← more ()))
    (succeed [])

/-- One more link of a chain, or its end. -/
def chainBody (expression : Parser Expr) (more : Expr → Parser Expr) (base : Expr) :
    Parser Expr :=
  commit (char '.')
    (fun _ => do
      let name ← identifier
      commit (char '(')
        (fun _ => do
          let args ← elements expression ')'
          more (.method base name args))
        (more (.property base name)))
    (succeed base)

section Expressions

variable {count : Nat} {p q : Parser Expr}

/-- One more operator with its operand keeps agreement. -/
theorem Agree.operandsBody (h : Agree 1 count p q) (operators : List Operator)
    {f g : Expr → Parser Expr} (hfg : ∀ left, Agree 0 count (f left) (g left)) (left : Expr) :
    Agree 0 (count + 1) (operandsBody operators p f left) (operandsBody operators q g left) := by
  refine .afterBlanks (operatorOf_lexeme operators).agree (fun operator => ?_) (.succeed left)
  refine .bind .skipBlanks fun _ => .bind h fun right => ?_
  exact (hfg _).mono (Nat.zero_le _) (by omega)

/-- The operators and operands of a level keep agreement. -/
theorem Agree.operands (h : Agree 1 count p q) (operators : List Operator) (left : Expr) :
    Agree 0 count (operands operators p left) (operands operators q left) :=
  .fix (fun _ hshorter _ _ hfg =>
    (h.mono (Nat.le_refl 1) (Nat.le_of_lt hshorter)).operandsBody operators hfg) left

/-- A level keeps agreement. -/
theorem Agree.binaryLevel (h : Agree 1 count p q) (operators : List Operator) :
    Agree 1 count (binaryLevel operators p) (binaryLevel operators q) := by
  rw [binaryLevel_eq_operands, binaryLevel_eq_operands]
  exact h.bind fun first => (h.operands operators first).mono (Nat.le_refl 0) (by omega)

/-- A word of negation keeps agreement. -/
theorem Agree.negationBody (h : Agree 1 (count + 1) p q) {f g : Unit → Parser Expr}
    (hfg : ∀ state, Agree 1 count (f state) (g state)) (state : Unit) :
    Agree 1 (count + 1) (negationBody p f state) (negationBody q g state) := by
  refine .commit (word_lexeme (by decide)).agree (fun _ => ?_) h
  refine .bind .skipBlanks fun _ => ?_
  exact .bind ((hfg ()).mono (Nat.zero_le 1) (Nat.le_refl _)) fun _ => .succeed _

/-- The level of negations keeps agreement. -/
theorem Agree.negation (h : Agree 1 count p q) : Agree 1 count (negation p) (negation q) :=
  .fix (fun _ hshorter _ _ hfg => (h.mono (Nat.le_refl 1) hshorter).negationBody hfg) ()

/-- One more comma with its expression keeps agreement. -/
theorem Agree.moreElementsBody (h : Agree 1 count p q) {f g : Unit → Parser (List Expr)}
    (hfg : ∀ state, Agree 0 count (f state) (g state)) (state : Unit) :
    Agree 0 (count + 1) (moreElementsBody p f state) (moreElementsBody q g state) := by
  refine .bind .skipBlanks fun _ => .commit (char_lexeme ',').agree (fun _ => ?_) (.succeed [])
  refine .bind .skipBlanks fun _ => .bind h fun element => ?_
  exact .bind ((hfg ()).mono (Nat.le_refl 0) (by omega)) fun _ => .succeed _

/-- The expressions after the first one keep agreement. -/
theorem Agree.moreElements (h : Agree 1 count p q) :
    Agree 0 count (moreElements p) (moreElements q) :=
  .fix (fun _ hshorter _ _ hfg =>
    (h.mono (Nat.le_refl 1) (Nat.le_of_lt hshorter)).moreElementsBody hfg) ()

/-- Lists of expressions up to a closing character keep agreement. -/
theorem Agree.elements (h : Agree 1 count p q) (close : Char) :
    Agree 1 count (elements p close) (elements q close) := by
  refine .bind .skipBlanks fun _ => .commit (char_lexeme close).agree (fun _ => .succeed []) ?_
  refine .bind h fun first => ?_
  refine .bind (h.moreElements.mono (Nat.le_refl 0) (by omega)) fun others => ?_
  exact .bind ((char_lexeme close).agree.mono (Nat.zero_le 1) (Nat.le_refl _)) fun _ => .succeed _

/-- One more link of a chain keeps agreement. -/
theorem Agree.chainBody (h : Agree 1 count p q) {f g : Expr → Parser Expr}
    (hfg : ∀ base, Agree 0 count (f base) (g base)) (base : Expr) :
    Agree 0 (count + 1) (chainBody p f base) (chainBody q g base) := by
  refine .commit (char_lexeme '.').agree (fun _ => ?_) (.succeed base)
  refine .bind identifier_lexeme.agree fun name => ?_
  refine .commit (char_lexeme '(').agree (fun _ => ?_) ((hfg _).mono (Nat.le_refl 0) (by omega))
  refine .bind ((h.elements ')').mono (Nat.le_refl 1) (by omega)) fun args => ?_
  exact (hfg _).mono (Nat.zero_le _) (by omega)

/-- Chains keep agreement. -/
theorem Agree.chain (h : Agree 1 count p q) (base : Expr) :
    Agree 0 count (chain p base) (chain q base) :=
  .fix (fun _ hshorter _ _ hfg =>
    (h.mono (Nat.le_refl 1) (Nat.le_of_lt hshorter)).chainBody hfg) base

/-- What a name starts keeps agreement. -/
theorem Agree.reference (h : Agree 1 count p q) (name : String) :
    Agree 0 count (reference p name) (reference q name) := by
  refine .commit (char_lexeme '(').agree (fun _ => ?_) (h.chain _)
  exact .bind ((h.elements ')').mono (Nat.le_refl 1) (by omega)) fun args => .succeed _

/-- Parentheses keep agreement. -/
theorem Agree.parenthesized (h : Agree 1 count p q) :
    Agree 0 count (parenthesized p) (parenthesized q) := by
  refine .bind .skipBlanks fun _ => .bind h fun inner => ?_
  exact .bind .skipBlanks fun _ => .bind (char_lexeme ')').agree fun _ => .succeed _

/-- A term reaches the expressions inside it only after its first character. -/
theorem Agree.term (h : Agree 1 count p q) : Agree 1 (count + 1) (term p) (term q) := by
  refine .commit number_lexeme.agree (fun _ => .succeed _) ?_
  refine .commit (word_lexeme (by decide)).agree (fun _ => .succeed _) ?_
  refine .commit (word_lexeme (by decide)).agree (fun _ => .succeed _) ?_
  refine .commit identifier_lexeme.agree (fun name => h.reference name) ?_
  refine .commit (char_lexeme '[').agree (fun _ => .bind (h.elements ']') fun _ => .succeed _) ?_
  refine .commit string_lexeme.agree (fun _ => .succeed _) ?_
  exact .commit (char_lexeme '(').agree (fun _ => h.parenthesized) .fail

/-- The levels of operators keep the agreement of their operands. -/
theorem Agree.levels (h : Agree 1 count p q) (levels : List (List Operator)) :
    Agree 1 count (levels.foldr Parser.binaryLevel p) (levels.foldr Parser.binaryLevel q) := by
  induction levels with
  | nil => exact h
  | cons operators levels ih => exact ih.binaryLevel operators

/-- All levels together keep agreement, with one more character to read. -/
theorem Agree.operation (h : Agree 1 count p q) :
    Agree 1 (count + 1) (operation p) (operation q) :=
  h.term.negation.levels operatorLevels

end Expressions

/-- The operators of a level. -/
def levelOperators (level : Nat) : List Operator :=
  operatorLevels[level]?.getD []

/-- The expressions of a level and tighter ones. -/
def tier (expression : Parser Expr) (level : Nat) : Parser Expr :=
  (operatorLevels.drop level).foldr binaryLevel (negation (term expression))

/-- A level has the operators of its own over the next tighter level. -/
theorem tier_of_lt {expression : Parser Expr} {level : Nat} (h : level < negationLevel) :
    tier expression level = binaryLevel (levelOperators level) (tier expression (level + 1)) := by
  have hlength : level < operatorLevels.length := h
  unfold tier levelOperators
  rw [List.drop_eq_getElem_cons hlength, List.foldr_cons, List.getElem?_eq_getElem hlength]
  rfl

/-- The operators of a level are those that have it. -/
theorem level_of_mem_levelOperators {level : Nat} {operator : Operator}
    (h : operator ∈ levelOperators level) : operator.level = level := by
  have hall : ∀ index < negationLevel, ∀ operator ∈ levelOperators index,
      operator.level = index := by decide
  by_cases hlevel : level < negationLevel
  · exact hall level hlevel operator h
  · have hlength : operatorLevels.length ≤ level := Nat.le_of_not_lt hlevel
    rw [levelOperators, List.getElem?_eq_none hlength] at h
    cases h

/-- An expression takes at least one character and moves only forward. -/
theorem expression_agree {count : Nat} : Agree 1 count expression expression :=
  .fix (fun _ _ _ _ hfg _ => (hfg ()).operation) ()

/-- A term takes at least one character and moves only forward. -/
theorem term_agree {count : Nat} : Agree 1 count (term expression) (term expression) :=
  expression_agree.term.mono (Nat.le_refl 1) (Nat.le_succ count)

/-- An expression is an operation over expressions. -/
theorem expression_eq : expression = operation expression :=
  fix_eq (fun _ _ _ hfg _ => (hfg ()).operation) ()

/-- The operands of a level are one more step of themselves. -/
theorem operands_eq (operators : List Operator) {operand : Parser Expr}
    (h : ∀ count, Agree 1 count operand operand) (left : Expr) :
    operands operators operand left =
      operandsBody operators operand (operands operators operand) left :=
  fix_eq (fun count _ _ hfg => (h count).operandsBody operators hfg) left

/-- Negations are one more step of themselves. -/
theorem negation_eq {operand : Parser Expr} (h : ∀ count, Agree 1 count operand operand) :
    negation operand = negationBody operand (fun _ => negation operand) () :=
  fix_eq (fun count _ _ hfg => (h (count + 1)).negationBody hfg) ()

/-- The expressions after the first one are one more step of themselves. -/
theorem moreElements_eq :
    moreElements expression = moreElementsBody expression (fun _ => moreElements expression) () :=
  fix_eq (fun _ _ _ hfg => expression_agree.moreElementsBody hfg) ()

/-- A chain is one more step of itself. -/
theorem chain_eq (base : Expr) :
    chain expression base = chainBody expression (chain expression) base :=
  fix_eq (fun _ _ _ hfg => expression_agree.chainBody hfg) base

/-! ## Statements -/

/-- Another statement, or the end of a block. -/
def blockBody (statement : Parser Statement) (terminators : List String)
    (more : Unit → Parser (List Statement)) (_ : Unit) : Parser (List Statement) := do
  skipBlanks
  if ← atBlockEnd terminators then succeed []
  else
    let first ← statement
    return first :: (← more ())

/-- A branch after its first word, given the parser of a nested branch. -/
def branchBody (statement : Parser Statement) (again : Unit → Parser Statement) (_ : Unit) :
    Parser Statement := do
  skipBlanks
  let test ← expression
  skipBlanks
  word "then"
  let consequent ← block statement ["else", "end"]
  commit (word "else")
    (fun _ => do
      skipBlanks
      commit (word "if")
        (fun _ => do
          let nested ← again ()
          return .branch test consequent [nested])
        (do
          let alternative ← block statement ["end"]
          word "end"
          return .branch test consequent alternative))
    (do
      word "end"
      return .branch test consequent [])

section Statements

variable {count : Nat} {p q : Parser Statement}

/-- The end of a block agrees with itself. -/
theorem atBlockEnd_agree (terminators : List String) :
    Agree 0 count (atBlockEnd terminators) (atBlockEnd terminators) :=
  fun scanner _ => ⟨rfl, .refl scanner, fun _ => Nat.le_refl _⟩

/-- One more statement of a block keeps agreement. -/
theorem Agree.blockBody (h : Agree 1 (count + 1) p q) (terminators : List String)
    {f g : Unit → Parser (List Statement)} (hfg : ∀ state, Agree 0 count (f state) (g state))
    (state : Unit) :
    Agree 0 (count + 1) (blockBody p terminators f state) (blockBody q terminators g state) := by
  refine .bind .skipBlanks fun _ => .bind (atBlockEnd_agree terminators) fun atEnd => ?_
  cases atEnd with
  | true => exact .succeed []
  | false => exact .bind h fun first => .bind (hfg ()) fun _ => .succeed _

/-- Blocks keep agreement. -/
theorem Agree.block (h : Agree 1 count p q) (terminators : List String) :
    Agree 0 count (block p terminators) (block q terminators) :=
  .fix (fun _ hshorter _ _ hfg => (h.mono (Nat.le_refl 1) hshorter).blockBody terminators hfg) ()

/-- One more test of a branch keeps agreement. -/
theorem Agree.branchBody (h : Agree 1 count p q) {f g : Unit → Parser Statement}
    (hfg : ∀ state, Agree 1 count (f state) (g state)) (state : Unit) :
    Agree 1 (count + 1) (branchBody p f state) (branchBody q g state) := by
  have hend : ∀ {less gain}, gain ≤ 1 → Agree gain less (word "end") (word "end") :=
    fun hgain => (word_lexeme (by decide)).agree.mono hgain (Nat.le_refl _)
  refine .bind .skipBlanks fun _ => .bind expression_agree fun test => ?_
  refine .bind .skipBlanks fun _ => .bind (word_lexeme (by decide)).agree fun _ => ?_
  refine .bind ((h.block _).mono (Nat.le_refl 0) (by omega)) fun consequent => ?_
  refine .commit (word_lexeme (by decide)).agree (fun _ => ?_)
    (.bind (hend (Nat.zero_le 1)) fun _ => .succeed _)
  refine .bind .skipBlanks fun _ => .commit (word_lexeme (by decide)).agree (fun _ => ?_) ?_
  · exact .bind ((hfg ()).mono (Nat.zero_le 1) (by omega)) fun _ => .succeed _
  · refine .bind ((h.block _).mono (Nat.le_refl 0) (by omega)) fun alternative => ?_
    exact .bind (hend (Nat.zero_le 1)) fun _ => .succeed _

/-- Branches keep agreement. -/
theorem Agree.branch (h : Agree 1 count p q) : Agree 1 count (branch p) (branch q) :=
  .fix (fun _ hshorter _ _ hfg =>
    (h.mono (Nat.le_refl 1) (Nat.le_of_lt hshorter)).branchBody hfg) ()

/-- Loops keep agreement. -/
theorem Agree.forEach (h : Agree 1 count p q) : Agree 1 count (forEach p) (forEach q) := by
  refine .bind .skipBlanks fun _ => .bind (word_lexeme (by decide)).agree fun _ => ?_
  refine .bind .skipBlanks fun _ => .bind identifier_lexeme.agree fun binding => ?_
  refine .bind .skipBlanks fun _ => .bind (word_lexeme (by decide)).agree fun _ => ?_
  refine .bind .skipBlanks fun _ => .bind term_agree fun iterable => ?_
  refine .bind .skipBlanks fun _ => .bind (word_lexeme (by decide)).agree fun _ => ?_
  refine .bind ((h.block _).mono (Nat.le_refl 0) (by omega)) fun body => ?_
  exact .bind (word_lexeme (by decide)).agree fun _ => .succeed _

/-- A statement that calls a method of a name agrees with itself. -/
theorem methodStatement_agree (name : String) :
    Agree 0 count (methodStatement name) (methodStatement name) := by
  refine .bind (expression_agree.chain _) fun found => ?_
  cases found with
  | method base name args => exact .succeed _
  | _ => exact .fail

/-- A statement that a name starts agrees with itself. -/
theorem simpleStatement_agree (name : String) :
    Agree 0 count (simpleStatement name) (simpleStatement name) := by
  refine .afterBlanks assignSign_lexeme.agree (fun _ => ?_) ?_
  · exact .bind .skipBlanks fun _ => .bind expression_agree fun value => .succeed _
  · refine .commit (char_lexeme '(').agree (fun _ => ?_) (methodStatement_agree name)
    exact .bind (expression_agree.elements ')') fun args => .succeed _

/-- A statement reaches the statements inside it only after its first word. -/
theorem Agree.statementWith (h : Agree 1 count p q) :
    Agree 1 (count + 1) (statementWith p) (statementWith q) := by
  refine .commit (word_lexeme (by decide)).agree
    (fun _ => h.branch.mono (Nat.zero_le 1) (Nat.le_refl _)) ?_
  refine .commit (word_lexeme (by decide)).agree
    (fun _ => h.forEach.mono (Nat.zero_le 1) (Nat.le_refl _)) ?_
  exact .bind identifier_lexeme.agree fun name => simpleStatement_agree name

end Statements

/-- A statement takes at least one character and moves only forward. -/
theorem statement_agree {count : Nat} : Agree 1 count statement statement :=
  .fix (fun _ _ _ _ hfg _ => (hfg ()).statementWith) ()

/-- A statement is made of statements. -/
theorem statement_eq : statement = statementWith statement :=
  fix_eq (fun _ _ _ hfg _ => (hfg ()).statementWith) ()

/-- A block is one more step of itself. -/
theorem block_eq (terminators : List String) :
    block statement terminators =
      blockBody statement terminators (fun _ => block statement terminators) () :=
  fix_eq (fun _ _ _ hfg => statement_agree.blockBody terminators hfg) ()

/-- A branch is one more step of itself. -/
theorem branch_eq : branch statement = branchBody statement (fun _ => branch statement) () :=
  fix_eq (fun _ _ _ hfg => statement_agree.branchBody hfg) ()

end HostScript.Parser

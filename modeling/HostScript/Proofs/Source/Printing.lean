import HostScript.Proofs.Source.Compiling
import HostScript.Proofs.Source.Literals
import HostScript.Proofs.Source.WellFormed

/-!
# Writing programs as text

`Program.print` writes a program with single blanks and the fewest parentheses. What it writes for a
well-formed program derives that program (`derives_print`), whatever literals stand for the numbers,
so compiling undoes printing. Start with `compile_print_and_image`.
-/

namespace HostScript

open Grammar

/-! ## The printer -/

/-- How tight an expression is; terms are tighter than negations. -/
def Expr.level : Expr → Nat
  | .binary operator _ _ => operator.level
  | .not _ => negationLevel
  | _ => negationLevel + 1

/-- What is tighter than a negation is a term. -/
theorem Expr.level_eq_of_not_le {expr : Expr} (h : ¬ expr.level ≤ negationLevel) :
    expr.level = negationLevel + 1 := by
  cases expr with
  | binary operator => exact absurd (Nat.le_of_lt operator.level_lt_negationLevel) h
  | not => exact absurd (Nat.le_refl _) h
  | _ => rfl

/-- Parentheses around a text, where they are needed. -/
def enclose (needed : Bool) (text : List Char) : List Char :=
  if needed then '(' :: text ++ [')'] else text

mutual

/-- The text of an expression. A left operand looser than its operator is enclosed, and so are a
right operand that is not tighter than its operator and a binary operand of a negation. -/
def Expr.print (literal : Binary64 → String) : Expr → List Char
  | .number value => (literal value).toList
  | .string value => '"' :: value.toList ++ ['"']
  | .boolean true => "true".toList
  | .boolean false => "false".toList
  | .array elements => '[' :: Expr.printList literal elements ++ [']']
  | .var name => name.toList
  | .property base name => base.print literal ++ '.' :: name.toList
  | .method base name args =>
    base.print literal ++ '.' :: name.toList ++ '(' :: Expr.printList literal args ++ [')']
  | .call name args => name.toList ++ '(' :: Expr.printList literal args ++ [')']
  | .binary operator left right =>
    enclose (left.level < operator.level) (left.print literal) ++ ' ' :: operator.symbol.toList ++
      ' ' :: enclose (right.level < operator.level + 1) (right.print literal)
  | .not operand =>
    "not".toList ++ ' ' :: enclose (operand.level < negationLevel) (operand.print literal)

/-- The texts of expressions with commas between them. -/
def Expr.printList (literal : Binary64 → String) : List Expr → List Char
  | [] => []
  | first :: others => first.print literal ++ Expr.printMore literal others

/-- The texts of expressions, each after a comma. -/
def Expr.printMore (literal : Binary64 → String) : List Expr → List Char
  | [] => []
  | expr :: exprs => ',' :: ' ' :: expr.print literal ++ Expr.printMore literal exprs

end

/-- A branch made of the texts of its parts; the last one brings the end. -/
def branchText (test consequent otherwise : List Char) : List Char :=
  "if".toList ++ ' ' :: (test ++ ' ' :: ("then".toList ++ ' ' :: (consequent ++ otherwise)))

/-- A loop made of the texts of its parts. -/
def loopText (binding : String) (iterable body : List Char) : List Char :=
  "for".toList ++ ' ' :: ("each".toList ++ ' ' :: (binding.toList ++ ' ' :: ("in".toList ++
    ' ' :: (iterable ++ ' ' :: ("do".toList ++ ' ' :: (body ++ "end".toList))))))

mutual

/-- The text of a statement. What a loop runs over is enclosed unless it is a term. -/
def Statement.print (literal : Binary64 → String) : Statement → List Char
  | .assign name value => name.toList ++ ' ' :: '=' :: ' ' :: value.print literal
  | .call name args => name.toList ++ '(' :: Expr.printList literal args ++ [')']
  | .method base name args =>
    base.print literal ++ '.' :: name.toList ++ '(' :: Expr.printList literal args ++ [')']
  | .branch test consequent alternative =>
    branchText (test.print literal) (Statement.printBlock literal consequent)
      (Statement.printOtherwise literal alternative)
  | .forEach binding iterable body =>
    loopText binding (enclose (iterable.level < negationLevel + 1) (iterable.print literal))
      (Statement.printBlock literal body)

/-- The texts of statements with a blank after each. -/
def Statement.printBlock (literal : Binary64 → String) : List Statement → List Char
  | [] => []
  | statement :: statements =>
    statement.print literal ++ ' ' :: Statement.printBlock literal statements

/-- The other case of a branch with the end of the branch. One branch alone brings its own end. -/
def Statement.printOtherwise (literal : Binary64 → String) : List Statement → List Char
  | [] => "end".toList
  | first :: others =>
    if startsWithBranch [first] && others.isEmpty then
      "else".toList ++ ' ' :: first.print literal
    else "else".toList ++ ' ' :: first.print literal ++
      ' ' :: Statement.printBlock literal others ++ "end".toList

end

/-- The text of a program, given the literals of its numbers. -/
def Program.print (literal : Binary64 → String) (program : Program) : String :=
  String.ofList ([' '].intercalate (program.statements.map (Statement.print literal)))

/-! ## Printed expressions are phrases -/

namespace Grammar

/-- An expression of a level is one of every looser level. -/
theorem Operation.loosen {level tighter : Nat} {text rest : List Char} {expr : Expr}
    (h : Operation tighter text rest expr) (hle : level ≤ tighter)
    (htighter : tighter ≤ negationLevel) : Operation level text rest expr := by
  induction hle with
  | refl => exact h
  | step hle ih => exact ih (.tighter _ _ _ _ htighter h) (Nat.le_of_succ_le htighter)

/-- A single blank. -/
theorem Blanks.single (rest : List Char) : Blanks (' ' :: rest) rest :=
  ⟨[' '], by decide, rfl⟩

/-- A word before a blank. -/
theorem Word.single (word : String) (rest : List Char) :
    Word word (word.toList ++ ' ' :: rest) (' ' :: rest) :=
  ⟨rfl, Text.stops_cons.2 rfl⟩

/-- An operator between blanks is spelled by its symbol. -/
theorem spelled_symbol (operator : Operator) (rest : List Char) :
    Spelled operator (operator.symbol.toList ++ ' ' :: rest) (' ' :: rest) := by
  cases operator with
  | and | or => exact .single _ rest
  | _ => rfl

/-- What a printed expression is before a rest: an expression of its level, and a term or a chain if
it is as tight as those. -/
structure Printed (text rest : List Char) (expr : Expr) : Prop where
  operation : expr.level ≤ negationLevel → Operation expr.level text rest expr
  term : expr.level = negationLevel + 1 → Term text rest expr
  chain : expr.isChain = true → Chain text rest expr

namespace Printed

variable {text rest : List Char} {expr : Expr}

/-- A term that is not a chain is printed as a term. -/
theorem of_term (h : Term text rest expr) (hlevel : expr.level = negationLevel + 1)
    (hchain : expr.isChain = false) : Printed text rest expr where
  operation hle := absurd (hlevel ▸ hle) (by decide)
  term _ := h
  chain htrue := by rw [hchain] at htrue; cases htrue

/-- A chain is printed as a term. -/
theorem of_chain (h : Chain text rest expr) (hlevel : expr.level = negationLevel + 1) :
    Printed text rest expr where
  operation hle := absurd (hlevel ▸ hle) (by decide)
  term _ := .chain _ _ _ h
  chain _ := h

/-- An operation is printed as an expression of its level. -/
theorem of_operation (h : Operation expr.level text rest expr) (hlevel : expr.level ≤ negationLevel)
    (hchain : expr.isChain = false) : Printed text rest expr where
  operation _ := h
  term hterm := absurd (hterm ▸ hlevel) (by decide)
  chain htrue := by rw [hchain] at htrue; cases htrue

/-- A printed expression is one of every level that is not tighter than its own. -/
theorem operationAt (h : Printed text rest expr) {level : Nat} (hle : level ≤ expr.level)
    (hlevel : level ≤ negationLevel) : Operation level text rest expr := by
  by_cases hexpr : expr.level ≤ negationLevel
  · exact (h.operation hexpr).loosen hle hexpr
  · have hterm := h.term (Expr.level_eq_of_not_le hexpr)
    exact Operation.loosen (.term _ _ _ hterm) hlevel (Nat.le_refl _)

end Printed

section Enclosed

variable {text rest : List Char} {expr : Expr}

/-- A printed expression between parentheses is a term. -/
theorem term_parenthesized (h : Printed (text ++ ')' :: rest) (')' :: rest) expr) :
    Term ('(' :: text ++ [')'] ++ rest) rest expr := by
  rw [List.cons_append, List.cons_append, List.append_assoc]
  exact .parenthesized _ _ _ _ _ (.refl _) (h.operationAt (Nat.zero_le _) (Nat.zero_le _))
    (.refl _)

/-- A printed expression, enclosed if it is looser than a level, is an expression of the level. -/
theorem operation_enclose
    (h : ∀ {rest}, Text.Stops isNamePart rest → Printed (text ++ rest) rest expr) {level : Nat}
    (hlevel : level ≤ negationLevel) (hrest : Text.Stops isNamePart rest) :
    Operation level (enclose (decide (expr.level < level)) text ++ rest) rest expr := by
  unfold enclose
  by_cases hloose : expr.level < level
  · rw [decide_eq_true hloose, if_pos rfl]
    have hterm : Term ('(' :: text ++ [')'] ++ rest) rest expr :=
      term_parenthesized (h (Text.stops_cons.2 rfl))
    exact Operation.loosen (.term _ _ _ hterm) hlevel (Nat.le_refl _)
  · rw [decide_eq_false hloose, if_neg (by decide)]
    exact (h hrest).operationAt (Nat.le_of_not_lt hloose) hlevel

/-- A printed expression, enclosed unless it is a term, is a term. -/
theorem term_enclose
    (h : ∀ {rest}, Text.Stops isNamePart rest → Printed (text ++ rest) rest expr)
    (hrest : Text.Stops isNamePart rest) :
    Term (enclose (decide (expr.level < negationLevel + 1)) text ++ rest) rest expr := by
  unfold enclose
  by_cases hloose : expr.level < negationLevel + 1
  · rw [decide_eq_true hloose, if_pos rfl]
    exact term_parenthesized (h (Text.stops_cons.2 rfl))
  · rw [decide_eq_false hloose, if_neg (by decide)]
    exact (h hrest).term (Expr.level_eq_of_not_le fun hle => hloose (Nat.lt_succ_of_le hle))

end Enclosed

/-- A name is printed as it is. -/
theorem name_toList {name : String} {rest : List Char} (h : IsName name)
    (hrest : Text.Stops isNamePart rest) : Name name (name.toList ++ rest) rest :=
  ⟨h, rfl, hrest⟩

section Expressions

variable {literal : Binary64 → String}

mutual

/-- What is printed for a well-formed expression is that expression. -/
theorem expr_printed (hliteral : LiteralsReadBack literal) : ∀ (expr : Expr), expr.WellFormed →
    ∀ {rest : List Char}, Text.Stops isNamePart rest →
      Printed (expr.print literal ++ rest) rest expr
  | .number value, hexpr, rest, _ => by
      rw [Expr.print]
      exact .of_term (.number _ _ _ (hliteral.literal hexpr)) rfl rfl
  | .string value, hexpr, rest, _ => by
      rw [Expr.print, List.append_assoc]
      exact .of_term (.string _ _ hexpr) rfl rfl
  | .boolean true, _, rest, hrest => by
      rw [Expr.print]
      exact .of_term (.trueWord _ _ ⟨rfl, hrest⟩) rfl rfl
  | .boolean false, _, rest, hrest => by
      rw [Expr.print]
      exact .of_term (.falseWord _ _ ⟨rfl, hrest⟩) rfl rfl
  | .array elements, hexpr, rest, _ => by
      rw [Expr.print, List.cons_append, List.cons_append, List.append_assoc]
      exact .of_term (.array _ _ _ (elements_printed hliteral elements hexpr (by decide))) rfl rfl
  | .var name, hexpr, rest, hrest => by
      rw [Expr.print]
      exact .of_chain (.var _ _ _ (name_toList hexpr hrest)) rfl
  | .property base name, hexpr, rest, hrest => by
      obtain ⟨hchain, hbase, hname⟩ := hexpr
      rw [Expr.print, List.append_assoc]
      refine .of_chain (.property _ _ _ _ _ ?_ (name_toList hname hrest)) rfl
      exact (expr_printed hliteral base hbase (Text.stops_cons.2 rfl)).chain hchain
  | .method base name args, hexpr, rest, _ => by
      obtain ⟨hchain, hbase, hname, hargs⟩ := hexpr
      rw [Expr.print]
      simp only [List.append_assoc, List.cons_append]
      refine .of_chain (.method _ _ _ _ _ _ _ ?_ (name_toList hname (Text.stops_cons.2 rfl))
        (elements_printed hliteral args hargs (by decide))) rfl
      exact (expr_printed hliteral base hbase (Text.stops_cons.2 rfl)).chain hchain
  | .call name args, hexpr, rest, _ => by
      obtain ⟨hname, hargs⟩ := hexpr
      rw [Expr.print]
      simp only [List.append_assoc, List.cons_append]
      exact .of_term (.call _ _ _ _ _ (name_toList hname (Text.stops_cons.2 rfl))
        (elements_printed hliteral args hargs (by decide))) rfl rfl
  | .binary operator left right, hexpr, rest, hrest => by
      obtain ⟨hleft, hright⟩ := hexpr
      have hlevel := operator.level_lt_negationLevel
      rw [Expr.print]
      simp only [List.append_assoc, List.cons_append]
      refine .of_operation ?_ (Nat.le_of_lt hlevel) rfl
      -- Operators group to the left: only the right operand is enclosed at its own level.
      exact .binary _ _ _ _ _ _ _ _ _ _ rfl
        (operation_enclose (expr_printed hliteral left hleft) (Nat.le_of_lt hlevel)
          (Text.stops_cons.2 rfl))
        (.single _) (spelled_symbol operator _) (.single _)
        (operation_enclose (expr_printed hliteral right hright) hlevel hrest)
  | .not operand, hexpr, rest, hrest => by
      rw [Expr.print, List.append_assoc]
      refine .of_operation ?_ (Nat.le_refl _) rfl
      exact .not _ _ _ _ _ (.single _ _) (.single _)
        (operation_enclose (expr_printed hliteral operand hexpr) (Nat.le_refl _) hrest)

/-- What is printed for a list of well-formed expressions is that list. -/
theorem elements_printed (hliteral : LiteralsReadBack literal) : ∀ (exprs : List Expr),
    Expr.ListWellFormed exprs → ∀ {close : Char} {rest : List Char}, isNamePart close = false →
      Elements close (Expr.printList literal exprs ++ close :: rest) rest exprs
  | [], _, close, rest, _ => .none _ _ _ (.refl _)
  | first :: others, hexprs, close, rest, hclose => by
      obtain ⟨hfirst, hothers⟩ := hexprs
      obtain ⟨hstops, hmore⟩ := @more_printed hliteral others hothers close rest hclose
      rw [Expr.printList, List.append_assoc]
      exact .some _ _ _ _ _ _ _ (.refl _)
        ((expr_printed hliteral first hfirst hstops).operationAt (Nat.zero_le _) (Nat.zero_le _))
        hmore

/-- What is printed for the expressions after the first one ends that one and is those. -/
theorem more_printed (hliteral : LiteralsReadBack literal) : ∀ (exprs : List Expr),
    Expr.ListWellFormed exprs → ∀ {close : Char} {rest : List Char}, isNamePart close = false →
      Text.Stops isNamePart (Expr.printMore literal exprs ++ close :: rest) ∧
        MoreElements close (Expr.printMore literal exprs ++ close :: rest) rest exprs
  | [], _, close, rest, hclose => ⟨Text.stops_cons.2 hclose, .done _ _ _ (.refl _)⟩
  | expr :: exprs, hexprs, close, rest, hclose => by
      obtain ⟨hexpr, hothers⟩ := hexprs
      obtain ⟨hstops, hmore⟩ := @more_printed hliteral exprs hothers close rest hclose
      rw [Expr.printMore]
      simp only [List.append_assoc, List.cons_append]
      refine ⟨Text.stops_cons.2 rfl, ?_⟩
      exact .next _ _ _ _ _ _ _ _ (.refl _) (.single _)
        ((expr_printed hliteral expr hexpr hstops).operationAt (Nat.zero_le _) (Nat.zero_le _))
        hmore

end

end Expressions

/-! ## Printed statements are phrases -/

/-- A sentence that is a branch is derived as one. -/
theorem Sentence.branch_of_startsWithBranch {text rest : List Char} {statement : Statement}
    (h : Sentence text rest statement) (hbranch : startsWithBranch [statement] = true) :
    Branch text rest statement := by
  cases h with
  | branch _ _ _ hstatement => exact hstatement
  | _ => cases hbranch

section Statements

variable {literal : Binary64 → String}

/-- What is printed for a well-formed expression is an expression. -/
theorem expression_printed (hliteral : LiteralsReadBack literal) {expr : Expr}
    (hexpr : expr.WellFormed) {rest : List Char} (hrest : Text.Stops isNamePart rest) :
    Expression (expr.print literal ++ rest) rest expr :=
  (expr_printed hliteral expr hexpr hrest).operationAt (Nat.zero_le _) (Nat.zero_le _)

mutual

/-- What is printed for a well-formed statement is that statement. -/
theorem sentence_printed (hliteral : LiteralsReadBack literal) : ∀ (statement : Statement),
    statement.WellFormed → ∀ {rest : List Char}, Text.Stops isNamePart rest →
      Sentence (statement.print literal ++ rest) rest statement
  | .assign name value, hstatement, rest, hrest => by
      obtain ⟨hname, hvalue⟩ := hstatement
      rw [Statement.print]
      simp only [List.append_assoc, List.cons_append]
      refine .assign _ _ _ _ _ _ _ (name_toList hname ?_) (.single _) (.single _)
        (expression_printed hliteral hvalue hrest)
      exact Text.stops_cons.2 rfl
  | .call name args, hstatement, rest, _ => by
      obtain ⟨hname, hargs⟩ := hstatement
      rw [Statement.print]
      simp only [List.append_assoc, List.cons_append]
      exact .call _ _ _ _ _ (name_toList hname (Text.stops_cons.2 rfl))
        (elements_printed hliteral args hargs (by decide))
  | .method base name args, hstatement, rest, hrest => by
      have hchain := (expr_printed hliteral (.method base name args) hstatement hrest).chain
        hstatement.1
      rw [Expr.print] at hchain
      rw [Statement.print]
      exact .method _ _ _ _ _ hchain
  | .branch test consequent alternative, hstatement, rest, hrest => by
      obtain ⟨htest, hconsequent, halternative, hnested⟩ := hstatement
      rw [Statement.print, branchText]
      simp only [List.append_assoc, List.cons_append]
      refine .branch _ _ _ (.intro _ _ _ _ _ _ _ _ _ _ _ (.single _ _) (.single _)
        (expression_printed hliteral htest ?_) (.single _) (.single _ _)
        ((block_printed hliteral consequent hconsequent _).of_blanks (.single _))
        (otherwise_printed hliteral alternative halternative hnested hrest))
      exact Text.stops_cons.2 rfl
  | .forEach binding iterable body, hstatement, rest, hrest => by
      obtain ⟨hbinding, hiterable, hbody⟩ := hstatement
      rw [Statement.print, loopText]
      simp only [List.append_assoc, List.cons_append]
      refine .forEach _ _ _ _ _ _ _ _ _ _ _ _ _ _ _ _ _ (.single _ _) (.single _) (.single _ _)
        (.single _) (name_toList hbinding ?_) (.single _) (.single _ _) (.single _)
        (term_enclose (expr_printed hliteral iterable hiterable) ?_) (.single _) (.single _ _)
        ((block_printed hliteral body hbody _).of_blanks (.single _)) ⟨rfl, hrest⟩
      · exact Text.stops_cons.2 rfl
      · exact Text.stops_cons.2 rfl

/-- What is printed for a block of well-formed statements is that block. -/
theorem block_printed (hliteral : LiteralsReadBack literal) : ∀ (statements : List Statement),
    Statement.ListWellFormed statements → ∀ (rest : List Char),
      Block (Statement.printBlock literal statements ++ rest) rest statements
  | [], _, rest => .nil _ _ (.refl _)
  | statement :: statements, hstatements, rest => by
      obtain ⟨hstatement, hothers⟩ := hstatements
      rw [Statement.printBlock, List.append_assoc]
      exact .cons _ _ _ _ _ _ (.refl _)
        (sentence_printed hliteral statement hstatement (Text.stops_cons.2 rfl))
        ((block_printed hliteral statements hothers rest).of_blanks (.single _))

/-- What is printed for the other case of a branch is that case. -/
theorem otherwise_printed (hliteral : LiteralsReadBack literal) : ∀ (statements : List Statement),
    Statement.ListWellFormed statements →
      (startsWithBranch statements = true → statements.length = 1) → ∀ {rest : List Char},
        Text.Stops isNamePart rest →
          Otherwise (Statement.printOtherwise literal statements ++ rest) rest statements
  | [], _, _, rest, hrest => .none _ _ ⟨rfl, hrest⟩
  | first :: others, hstatements, hnested, rest, hrest => by
      obtain ⟨hfirst, hothers⟩ := hstatements
      have hsame : startsWithBranch (first :: others) = startsWithBranch [first] := by
        cases first <;> rfl
      rw [Statement.printOtherwise]
      cases hbranch : startsWithBranch [first] with
      | true =>
          obtain rfl : others = [] := by
            rw [hsame, hbranch] at hnested
            exact List.length_eq_zero_iff.1 (Nat.succ.inj (hnested rfl))
          rw [if_pos (by rfl), List.append_assoc]
          exact .nested _ _ _ _ _ (.single _ _) (.single _)
            ((sentence_printed hliteral first hfirst hrest).branch_of_startsWithBranch hbranch)
      | false =>
          have hblock : Block (' ' :: (first.print literal ++
              (' ' :: (Statement.printBlock literal others ++ ("end".toList ++ rest)))))
              ("end".toList ++ rest) (first :: others) :=
            .cons _ _ _ _ _ _ (.single _)
              (sentence_printed hliteral first hfirst (Text.stops_cons.2 rfl))
              ((block_printed hliteral others hothers _).of_blanks (.single _))
          rw [if_neg (by simp)]
          simp only [List.append_assoc, List.cons_append]
          exact .block _ _ _ _ _ (.single _ _) hblock (hsame.trans hbranch) ⟨rfl, hrest⟩

end

/-- What is printed for statements with blanks between them is a block of those statements. -/
theorem block_intercalate (hliteral : LiteralsReadBack literal) (statements : List Statement)
    (hstatements : Statement.ListWellFormed statements) :
    Block ([' '].intercalate (statements.map (Statement.print literal))) [] statements := by
  induction statements with
  | nil => exact .nil _ _ (.refl _)
  | cons statement statements ih =>
      obtain ⟨hstatement, hothers⟩ := hstatements
      have hblock := ih hothers
      cases statements with
      | nil =>
          have hsentence := sentence_printed hliteral statement hstatement Text.stops_nil
          rw [List.append_nil] at hsentence
          rw [List.map_singleton, List.intercalate_singleton]
          exact .cons _ _ _ _ _ _ (.refl _) hsentence hblock
      | cons next others =>
          rw [List.map_cons, List.map_cons, List.intercalate_cons_cons, ← List.map_cons,
            List.append_assoc]
          exact .cons _ _ _ _ _ _ (.refl _)
            (sentence_printed hliteral statement hstatement (Text.stops_cons.2 rfl))
            (hblock.of_blanks (.single _))

/-- The text of a well-formed program derives that program. -/
theorem derives_print (hliteral : LiteralsReadBack literal) {program : Program}
    (hprogram : program.WellFormed) : Derives (program.print literal).toList program := by
  rw [Program.print, String.toList_ofList]
  exact block_intercalate hliteral program.statements hprogram

end Statements

end Grammar

/-- Compiling undoes printing, and the programs that some text compiles to are the well-formed
ones. -/
theorem compile_print_and_image (literal : Binary64 → String) (hliteral : LiteralsReadBack literal)
    (program : Program) :
    (program.WellFormed → compile (program.print literal) = .ok program) ∧
      ((∃ source, compile source = .ok program) ↔ program.WellFormed) := by
  have hprint (hprogram : program.WellFormed) : compile (program.print literal) = .ok program :=
    compile_of_derives (derives_print hliteral hprogram)
  refine ⟨hprint, fun ⟨source, hsource⟩ => ?_, fun hprogram => ⟨_, hprint hprogram⟩⟩
  exact (derives_of_compile hsource).wellFormed

/-- A difference on the right of a difference is enclosed, and so is a conjunction that is negated;
a branch alone in the other case shares its end. -/
theorem compile_print_nested :
    let program : Program := ⟨[
      .assign "x" (.binary .subtract (.var "a")
        (.binary .subtract (.var "b") (.number (.zero true)))),
      .branch (.not (.binary .and (.var "a") (.var "b")))
        [.method (.var "list") "add" [.string "k"]] [.branch (.boolean true) [] []]]⟩
    LiteralsReadBack exactLiteral ∧ program.WellFormed ∧
      compile (program.print exactLiteral) = .ok program :=
  ⟨exactLiteral_readsBack, by decide,
    (compile_print_and_image exactLiteral exactLiteral_readsBack _).1 (by decide)⟩

end HostScript

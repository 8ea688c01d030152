import HostScript.Proofs.Source.Lexemes

/-!
# What phrases start with and what may follow them

The parsers are greedy, so they take a phrase whole only if what follows cannot continue it.
`Closed level rest` says that `rest` does not continue an expression of the level, and `Ends text`
that no expression goes on at `text`, whatever its level. Every place of the grammar at which an
expression is followed by something else is closed.
-/

namespace HostScript

namespace Grammar

/-! ## Starts -/

/-- The characters that an expression may start with. -/
def startsExpression (char : Char) : Bool :=
  char.isDigit || isNameStart char || ['.', '+', '-', '[', '"', '('].contains char

/-- A character that starts an expression is none of those that stand around one. -/
theorem ne_of_startsExpression {char : Char} (h : startsExpression char = true) :
    ∀ other ∈ [' ', '\t', '\n', '\r', '=', ')', ']', ','], char ≠ other :=
  Text.ne_of_class h (by decide)

/-- An expression does not start with a blank. -/
theorem isSeparator_of_startsExpression {char : Char} (h : startsExpression char = true) :
    Text.isSeparator char = false := by
  by_contra hblank
  have hmem := (Text.isSeparator_iff char).1 (by simpa using hblank)
  exact ne_of_startsExpression h char (List.mem_append_left ['=', ')', ']', ','] hmem) rfl

/-- A name starts with a character for names. -/
theorem Name.head {name : String} {text rest : List Char} (h : Name name text rest) :
    ∃ first others, text = first :: others ∧ isNameStart first = true := by
  obtain ⟨⟨⟨first, others, hname, hfirst, -⟩, -⟩, htext, -⟩ := h
  exact ⟨first, others ++ rest, by rw [htext, hname, List.cons_append], hfirst⟩

/-- An expression may start with a name. -/
theorem Name.starts {name : String} {text rest : List Char} (h : Name name text rest) :
    ∃ first others, text = first :: others ∧ startsExpression first = true := by
  obtain ⟨first, others, htext, hfirst⟩ := h.head
  exact ⟨first, others, htext, by simp [startsExpression, hfirst]⟩

/-- A literal starts with a sign, a digit or a point. -/
theorem Literal.head {literal : List Char} {value : Binary64} (h : Literal literal value) :
    ∃ first others, literal = first :: others ∧
      (first.isDigit || ['.', '+', '-'].contains first) = true := by
  obtain ⟨sign, _, digits, _, _, hsign, hdigits, rfl, -⟩ := h
  cases hsign with
  | plus => exact ⟨'+', digits, rfl, rfl⟩
  | minus => exact ⟨'-', digits, rfl, rfl⟩
  | none =>
      obtain ⟨first, others, rfl, hfirst⟩ := hdigits.head
      refine ⟨first, others, rfl, ?_⟩
      simp only [Bool.or_eq_true, beq_iff_eq] at hfirst
      rcases hfirst with hdigit | rfl
      · simp [hdigit]
      · rfl

/-- An expression may start with a literal. -/
theorem Literal.starts {literal : List Char} {value : Binary64} (h : Literal literal value)
    (rest : List Char) :
    ∃ first others, literal ++ rest = first :: others ∧ startsExpression first = true := by
  obtain ⟨first, others, rfl, hfirst⟩ := h.head
  refine ⟨first, others ++ rest, rfl, ?_⟩
  simp only [List.contains_cons, List.contains_nil, Bool.or_eq_true, beq_iff_eq] at hfirst
  rcases hfirst with hdigit | rfl | rfl | rfl | hfalse
  · simp [startsExpression, hdigit]
  · rfl
  · rfl
  · rfl
  · cases hfalse

mutual

/-- An operation starts with a character that expressions start with. -/
theorem Operation.head : ∀ {level : Nat} {text rest : List Char} {expr : Expr},
    Operation level text rest expr →
      ∃ first others, text = first :: others ∧ startsExpression first = true
  | _, _, _, _, .tighter _ _ _ _ _ hnext => hnext.head
  | _, _, _, _, .binary _ _ _ _ _ _ _ _ _ _ _ hleft _ _ _ _ => hleft.head
  | _, _, _, _, .not _ _ _ _ _ hword _ _ => ⟨'n', _, hword.1, rfl⟩
  | _, _, _, _, .term _ _ _ hterm => hterm.head

/-- A term starts with a character that expressions start with. -/
theorem Term.head : ∀ {text rest : List Char} {expr : Expr}, Term text rest expr →
    ∃ first others, text = first :: others ∧ startsExpression first = true
  | _, _, _, .number _ rest _ hliteral => hliteral.starts rest
  | _, _, _, .trueWord _ _ hword => ⟨'t', _, hword.1, rfl⟩
  | _, _, _, .falseWord _ _ hword => ⟨'f', _, hword.1, rfl⟩
  | _, _, _, .call _ _ _ _ _ hname _ => hname.starts
  | _, _, _, .chain _ _ _ hchain => by
      obtain ⟨name, start, hname⟩ := hchain.name
      exact hname.starts
  | _, _, _, .array _ _ _ _ => ⟨'[', _, rfl, rfl⟩
  | _, _, _, .string _ _ _ => ⟨'"', _, rfl, rfl⟩
  | _, _, _, .parenthesized _ _ _ _ _ _ _ _ => ⟨'(', _, rfl, rfl⟩

/-- A chain starts with a name. -/
theorem Chain.name : ∀ {text rest : List Char} {expr : Expr}, Chain text rest expr →
    ∃ name start, Name name text start
  | _, _, _, .var _ _ name hname => ⟨name, _, hname⟩
  | _, _, _, .property _ _ _ _ _ hbase _ => hbase.name
  | _, _, _, .method _ _ _ _ _ _ _ hbase _ _ => hbase.name

end

/-- No blank stands before an expression. -/
theorem Operation.stops {level : Nat} {text rest : List Char} {expr : Expr}
    (h : Operation level text rest expr) : Text.Stops Text.isSeparator text := by
  obtain ⟨first, others, rfl, hfirst⟩ := h.head
  exact Text.stops_cons.2 (isSeparator_of_startsExpression hfirst)

/-! ## Words -/

/-- The characters of reserved words may stand in names. -/
theorem isNamePart_of_mem_reserved {word : String} (h : word ∈ reservedWords) :
    ∀ char ∈ word.toList, isNamePart char = true := by
  have hall : ∀ word ∈ reservedWords, word.toList.all isNamePart = true := by decide
  exact List.all_eq_true.1 (hall word h)

/-- Reserved words start as names do. -/
theorem isNameStart_of_mem_reserved {word : String} (h : word ∈ reservedWords) :
    ∃ first others, word.toList = first :: others ∧ isNameStart first = true := by
  have hall : ∀ word ∈ reservedWords, word.toList.head?.any isNameStart = true := by decide
  obtain ⟨first, hfirst, hstart⟩ := (Option.any_eq_true _ _).1 (hall word h)
  obtain ⟨others, hothers⟩ := List.head?_eq_some_iff.1 hfirst
  exact ⟨first, others, hothers, hstart⟩

/-- At most one reserved word stands at a place. -/
theorem Word.unique {word other : String} {text rest otherRest : List Char}
    (h : Word word text rest) (hother : Word other text otherRest) (hword : word ∈ reservedWords)
    (hotherWord : other ∈ reservedWords) : word = other := by
  have hlists := (Text.run_unique (isNamePart_of_mem_reserved hword) h.2
    (isNamePart_of_mem_reserved hotherWord) hother.2 (h.1.symm.trans hother.1)).1
  exact String.toList_inj.1 hlists

/-- No reserved word stands where a name does. -/
theorem Name.not_word {name word : String} {text rest otherRest : List Char}
    (h : Name name text rest) (hword : word ∈ reservedWords) : ¬ Word word text otherRest := by
  intro hother
  obtain ⟨hname, htext, hend⟩ := h
  have hlists := (Text.run_unique (Parser.isNamePart_of_mem_name hname) hend
    (isNamePart_of_mem_reserved hword) hother.2 (htext.symm.trans hother.1)).1
  have hreserved : isReserved name = true := by
    rw [String.toList_inj.1 hlists]
    exact List.contains_iff_mem.2 hword
  exact hname.2 hreserved

/-! ## Ends -/

/-- The first place after blanks that is not a blank is determined by the text. -/
theorem Blanks.unique {text rest other : List Char} (h : Blanks text rest)
    (hother : Blanks text other) (hrest : Text.Stops Text.isSeparator rest)
    (hotherRest : Text.Stops Text.isSeparator other) : rest = other := by
  obtain ⟨blanks, hblanks, rfl⟩ := h
  obtain ⟨others, hothers, heq⟩ := hother
  exact (Text.run_unique (fun char hchar => (Text.isSeparator_iff char).2 (hblanks char hchar))
    hrest (fun char hchar => (Text.isSeparator_iff char).2 (hothers char hchar)) hotherRest heq).2

/-- What follows blanks also follows the blanks of any text that goes on the same. -/
theorem Blanks.of_dropWhile {text start rest : List Char} (h : Blanks text rest)
    (hrest : Text.Stops Text.isSeparator rest)
    (hstart : start.dropWhile Text.isSeparator = text.dropWhile Text.isSeparator) :
    Blanks start rest := by
  rw [h.unique (.dropWhile text) hrest (Text.stops_dropWhile text), ← hstart]
  exact .dropWhile start

/-- What no blank and not the rest continues is not continued by blanks before the rest. -/
theorem Blanks.stops {p : Char → Bool} {text rest : List Char} (h : Blanks text rest)
    (hblank : ∀ char ∈ [' ', '\t', '\n', '\r'], p char = false) (hrest : Text.Stops p rest) :
    Text.Stops p text := by
  obtain ⟨blanks, hblanks, rfl⟩ := h
  cases blanks with
  | nil => exact hrest
  | cons char blanks => exact Text.stops_cons.2 (hblank char (hblanks char List.mem_cons_self))

/-- An operator is spelled by its symbol. -/
theorem Spelled.text_eq {operator : Operator} {text rest : List Char}
    (h : Spelled operator text rest) : text = operator.symbol.toList ++ rest := by
  cases operator with
  | and | or => exact h.1
  | _ => exact h

/-- Operators of different levels start with different characters. -/
theorem level_eq_of_head_eq {operator other : Operator}
    (h : operator.symbol.toList.head? = other.symbol.toList.head?) :
    operator.level = other.level := by
  revert h
  cases operator <;> cases other <;> decide

/-- The character that an operator starts with. -/
theorem Spelled.head {operator : Operator} {text rest : List Char}
    (h : Spelled operator text rest) : text.head? = operator.symbol.toList.head? := by
  rw [h.text_eq]
  cases operator <;> rfl

/-- An operator starts neither with a blank nor with what continues a term. -/
theorem Spelled.stops {operator : Operator} {text rest : List Char}
    (h : Spelled operator text rest) :
    Text.Stops (fun char => char.isDigit || ['.', '('].contains char) text ∧
      Text.Stops Text.isSeparator text := by
  rw [h.text_eq]
  cases operator <;> exact ⟨Text.stops_cons.2 rfl, Text.stops_cons.2 rfl⟩

/-- Nothing here continues an expression of the level: neither a digit, a point or a bracket
directly, nor an operator of the level or a tighter one after blanks. -/
def Closed (level : Nat) (rest : List Char) : Prop :=
  Text.Stops (fun char => char.isDigit || ['.', '('].contains char) rest ∧
    ∀ operator : Operator, level ≤ operator.level →
      ∀ start after, Blanks rest start → ¬ Spelled operator start after

/-- What does not continue a level does not continue a tighter one. -/
theorem Closed.mono {level tighter : Nat} {rest : List Char} (h : Closed level rest)
    (hle : level ≤ tighter) : Closed tighter rest :=
  ⟨h.1, fun operator hoperator => h.2 operator (Nat.le_trans hle hoperator)⟩

/-- An operator does not continue an expression of a tighter level. -/
theorem closed_of_spelled {level : Nat} {operator : Operator} {before spelled after : List Char}
    (hblanks : Blanks before spelled) (h : Spelled operator spelled after)
    (hlevel : operator.level < level) : Closed level before := by
  refine ⟨hblanks.stops (by decide) h.stops.1, fun other hother start rest hstart hspelled => ?_⟩
  rw [hstart.unique hblanks hspelled.stops.2 h.stops.2] at hspelled
  have hequal := level_eq_of_head_eq (h.head.symm.trans hspelled.head)
  omega

/-- The characters that continue an expression of some level, and the blanks. -/
def continuesExpression (char : Char) : Bool :=
  char.isDigit || Text.isSeparator char ||
    ['.', '(', '=', '!', '<', '>', '+', '-', '*', '/'].contains char

/-- No expression goes on here, and no blank stands here. -/
def Ends (text : List Char) : Prop :=
  Text.Stops continuesExpression text ∧ (∀ rest, ¬ Word "and" text rest) ∧
    ∀ rest, ¬ Word "or" text rest

/-- Where no expression goes on there is no blank. -/
theorem Ends.stops {text : List Char} (h : Ends text) : Text.Stops Text.isSeparator text := by
  intro char hchar
  have := h.1 char hchar
  simp only [continuesExpression, Bool.or_eq_false_iff] at this
  exact this.1.2

/-- Blanks and a place where no expression goes on close every level. -/
theorem closed_of_ends {level : Nat} {rest start : List Char} (hblanks : Blanks rest start)
    (h : Ends start) : Closed level rest := by
  refine ⟨hblanks.stops (by decide) fun char hchar => ?_,
    fun operator _ start' after hstart hspelled => ?_⟩
  · have hall := h.1 char hchar
    simp only [continuesExpression, List.contains_cons, Bool.or_eq_false_iff] at hall ⊢
    exact ⟨hall.1.1, hall.2.1, hall.2.2.1, rfl⟩
  · rw [hstart.unique hblanks hspelled.stops.2 h.stops] at hspelled
    cases operator with
    | and => exact h.2.1 _ hspelled
    | or => exact h.2.2 _ hspelled
    | _ =>
        have hhead := hspelled.head
        exact absurd (h.1 _ hhead) (by decide)

/-- An expression may end at the end of the text. -/
theorem ends_nil : Ends [] :=
  ⟨Text.stops_nil, fun _ h => List.cons_ne_nil _ _ h.1.symm,
    fun _ h => List.cons_ne_nil _ _ h.1.symm⟩

/-- No expression goes on at a comma or a closing bracket. -/
theorem ends_cons {char : Char} {rest : List Char} (h : char ∈ [',', ')', ']']) :
    Ends (char :: rest) := by
  have hall : ∀ char ∈ [',', ')', ']'], continuesExpression char = false ∧ char ≠ 'a' ∧
    char ≠ 'o' := by decide
  obtain ⟨hcontinues, hand, hor⟩ := hall char h
  exact ⟨Text.stops_cons.2 hcontinues, fun _ hword => hand (List.cons.inj hword.1).1,
    fun _ hword => hor (List.cons.inj hword.1).1⟩

/-- A letter is no digit. -/
theorem isDigit_of_isAlpha {char : Char} (h : char.isAlpha = true) : char.isDigit = false := by
  refine Bool.eq_false_iff.2 fun hdigit => ?_
  have hlast : char.val ≤ 57 := of_decide_eq_true (Bool.and_eq_true_iff.1 hdigit).2
  rcases Bool.or_eq_true_iff.1 h with hupper | hlower
  · have hfirst : 65 ≤ char.val := (of_decide_eq_true hupper).1
    exact absurd (UInt32.le_trans hfirst hlast) (by decide)
  · have hfirst : 97 ≤ char.val := of_decide_eq_true (Bool.and_eq_true_iff.1 hlower).1
    exact absurd (UInt32.le_trans hfirst hlast) (by decide)

/-- A name starts with no digit, blank or symbol. -/
theorem continuesExpression_of_isNameStart {char : Char} (h : isNameStart char = true) :
    continuesExpression char = false := by
  by_contra hcontinues
  have hcontinues : continuesExpression char = true := by simpa using hcontinues
  simp only [continuesExpression, Bool.or_eq_true] at hcontinues
  rcases hcontinues with (hdigit | hblank) | hsymbol
  · simp only [isNameStart, Bool.or_eq_true, beq_iff_eq] at h
    rcases h with (halpha | rfl) | rfl
    · rw [isDigit_of_isAlpha halpha] at hdigit
      cases hdigit
    · exact absurd hdigit (by decide)
    · exact absurd hdigit (by decide)
  · exact Text.ne_of_class h (by decide) char ((Text.isSeparator_iff char).1 hblank) rfl
  · exact Text.ne_of_class h (by decide) char (List.contains_iff_mem.1 hsymbol) rfl

/-- No expression goes on at a word other than the logical operators. -/
theorem Word.ends {word : String} {text rest : List Char} (h : Word word text rest)
    (hword : word ∈ reservedWords) (hand : word ≠ "and") (hor : word ≠ "or") : Ends text := by
  obtain ⟨first, others, hothers, hstart⟩ := isNameStart_of_mem_reserved hword
  refine ⟨?_, fun _ hother => hand (h.unique hother hword (by decide)),
    fun _ hother => hor (h.unique hother hword (by decide))⟩
  rw [h.1, hothers]
  exact Text.stops_cons.2 (continuesExpression_of_isNameStart hstart)

/-- No expression goes on at a name. -/
theorem Name.ends {name : String} {text rest : List Char} (h : Name name text rest) :
    Ends text := by
  obtain ⟨first, others, htext, hfirst⟩ := h.head
  refine ⟨?_, fun _ => h.not_word (by decide), fun _ => h.not_word (by decide)⟩
  rw [htext]
  exact Text.stops_cons.2 (continuesExpression_of_isNameStart hfirst)

/-- A term starts with no reserved word but those of the truth values. -/
theorem Term.not_word {text rest after : List Char} {expr : Expr} {word : String}
    (h : Term text rest expr) (hword : word ∈ reservedWords) (htrue : word ≠ "true")
    (hfalse : word ≠ "false") : ¬ Word word text after := by
  have hsymbol : ∀ {first others}, isNameStart first = false →
      ¬ Word word (first :: others) after := by
    intro first others hfirst hother
    obtain ⟨head, tail, htail, hstart⟩ := isNameStart_of_mem_reserved hword
    rw [(List.cons.inj (hother.1.trans (by rw [htail, List.cons_append]))).1, hstart] at hfirst
    cases hfirst
  cases h with
  | number literal rest value hliteral =>
      obtain ⟨first, others, rfl, hfirst⟩ := hliteral.head
      refine hsymbol ?_
      by_contra hstart
      have hcontinues : continuesExpression first = true := by
        simp only [List.contains_cons, List.contains_nil, Bool.or_eq_true, beq_iff_eq] at hfirst
        rcases hfirst with hdigit | rfl | rfl | rfl | hnone
        · simp [continuesExpression, hdigit]
        · rfl
        · rfl
        · rfl
        · cases hnone
      rw [continuesExpression_of_isNameStart (by simpa using hstart)] at hcontinues
      cases hcontinues
  | trueWord _ _ hother => exact fun h => htrue (h.unique hother hword (by decide))
  | falseWord _ _ hother => exact fun h => hfalse (h.unique hother hword (by decide))
  | call _ _ _ _ _ hname _ => exact hname.not_word hword
  | chain _ _ _ hchain =>
      obtain ⟨name, start, hname⟩ := hchain.name
      exact hname.not_word hword
  | array => exact hsymbol rfl
  | string => exact hsymbol rfl
  | parenthesized => exact hsymbol rfl

/-- No expression goes on after the first of some elements. -/
theorem MoreElements.closed {close : Char} {text rest : List Char} {others : List Expr}
    (h : MoreElements close text rest others) (hclose : close ∈ [')', ']']) (level : Nat) :
    Closed level text := by
  cases h with
  | done _ _ _ hblanks =>
      exact closed_of_ends hblanks (ends_cons (List.mem_cons_of_mem _ hclose))
  | next _ _ _ _ _ _ _ _ hblanks => exact closed_of_ends hblanks (ends_cons List.mem_cons_self)

/-! ## Statements -/

/-- A sentence starts with a name or with the word of a branch or a loop. -/
theorem Sentence.start {text rest : List Char} {statement : Statement}
    (h : Sentence text rest statement) :
    (∃ name start, Name name text start) ∨
      ∃ word ∈ ["if", "for"], ∃ after, Word word text after := by
  cases h with
  | assign _ _ _ _ _ _ _ hname => exact .inl ⟨_, _, hname⟩
  | call _ _ _ _ _ hname => exact .inl ⟨_, _, hname⟩
  | method _ _ _ _ _ hchain => exact .inl hchain.name
  | branch _ _ _ hbranch =>
      obtain @⟨_, _, _, _, _, _, _, _, _, _, _, hword⟩ := hbranch
      exact .inr ⟨"if", by decide, _, hword⟩
  | forEach _ _ _ _ _ _ _ _ _ _ _ _ _ _ _ _ _ hword =>
      exact .inr ⟨"for", by decide, _, hword⟩

/-- No expression goes on where a sentence starts. -/
theorem Sentence.ends {text rest : List Char} {statement : Statement}
    (h : Sentence text rest statement) : Ends text := by
  have hall : ∀ word ∈ ["if", "for"], word ∈ reservedWords ∧ word ≠ "and" ∧ word ≠ "or" := by
    decide
  rcases h.start with ⟨name, start, hname⟩ | ⟨word, hmem, after, hword⟩
  · exact hname.ends
  · obtain ⟨hreserved, hand, hor⟩ := hall word hmem
    exact hword.ends hreserved hand hor

/-- A sentence starts with no reserved word but those of branches and loops. -/
theorem Sentence.not_word {text rest after : List Char} {statement : Statement} {word : String}
    (h : Sentence text rest statement) (hword : word ∈ reservedWords)
    (hother : word ∉ ["if", "for"]) : ¬ Word word text after := by
  intro hstands
  rcases h.start with ⟨name, start, hname⟩ | ⟨found, hmem, _, hfound⟩
  · exact hname.not_word hword hstands
  · have hall : ∀ found ∈ ["if", "for"], found ∈ reservedWords := by decide
    exact hother (hstands.unique hfound hword (hall found hmem) ▸ hmem)

/-- A block ends here: with the text or before one of some words. -/
def BlockEnd (terminators : List String) (rest : List Char) : Prop :=
  rest = [] ∨ ∃ word ∈ terminators, ∃ after, Word word rest after

/-- No expression goes on at the end of a block. -/
theorem BlockEnd.ends {terminators : List String} {rest : List Char}
    (h : BlockEnd terminators rest) (hwords : terminators ⊆ ["else", "end"]) : Ends rest := by
  have hall : ∀ word ∈ ["else", "end"], word ∈ reservedWords ∧ word ≠ "and" ∧ word ≠ "or" := by
    decide
  rcases h with rfl | ⟨word, hmem, after, hword⟩
  · exact ends_nil
  · obtain ⟨hreserved, hand, hor⟩ := hall word (hwords hmem)
    exact hword.ends hreserved hand hor

/-- No expression goes on where a block starts, since it is followed by its end. -/
theorem Block.closed {text rest : List Char} {statements : List Statement}
    (h : Block text rest statements) (hrest : Ends rest) (level : Nat) : Closed level text := by
  cases h with
  | nil _ _ hblanks => exact closed_of_ends hblanks hrest
  | cons _ _ _ _ _ _ hblanks hfirst => exact closed_of_ends hblanks hfirst.ends

/-- The word of branches does not stand at a block that does not start with a branch. -/
theorem Block.not_word {text start rest after finish : List Char} {statements : List Statement}
    (h : Block text rest statements) (hbranch : startsWithBranch statements = false)
    (hrest : Word "end" rest finish) (hblanks : Blanks text start)
    (hstart : Text.Stops Text.isSeparator start) : ¬ Word "if" start after := by
  intro hif
  cases h with
  | nil _ _ hother =>
      have hends := (hrest.ends (by decide) (by decide) (by decide)).stops
      rw [hblanks.unique hother hstart hends] at hif
      exact absurd (hif.unique hrest (by decide) (by decide)) (by decide)
  | cons _ _ _ _ first others hother hfirst =>
      rw [hblanks.unique hother hstart hfirst.ends.stops] at hif
      cases hfirst with
      | assign _ _ _ _ _ _ _ hname => exact hname.not_word (by decide) hif
      | call _ _ _ _ _ hname => exact hname.not_word (by decide) hif
      | method _ _ _ _ _ hchain =>
          obtain ⟨name, start, hname⟩ := hchain.name
          exact hname.not_word (by decide) hif
      | branch _ _ _ hstatement =>
          cases hstatement
          cases hbranch
      | forEach _ _ _ _ _ _ _ _ _ _ _ _ _ _ _ _ _ hword =>
          exact absurd (hif.unique hword (by decide) (by decide)) (by decide)

end Grammar

end HostScript

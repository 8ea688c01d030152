import Mathlib.Order.Basic
import HostScript.Proofs.Source.Portable

/-!
# What can still be written

A text is viable if something can be written after it that makes it a program. To tell this in the
middle of a parse, the phrases of the grammar are cut into what was read and what is still awaited:
`After R P` is whatever makes a `P` of an `R`. A phrase is writable if some text of it can be put
in front of every text that does not continue a name; all that a parser ever awaits is writable,
names and words after a blank.
-/

namespace HostScript

/-- Whether an expression is a call of a method. -/
def Expr.isMethod : Expr → Bool
  | .method _ _ _ => true
  | _ => false

namespace Grammar

open Text

/-- Something after the text makes it a program. -/
def Viable (text : List Char) : Prop :=
  ∃ more program, Derives (text ++ more) program

/-! ## Putting phrases together -/

section Phrases

variable {α : Type} {P Q R S : Phrase}

/-- A phrase of some tree. -/
def Any (A : List Char → List Char → α → Prop) : Phrase := fun text rest =>
  ∃ tree, A text rest tree

/-- No text at all. -/
def Here : Phrase := fun text rest => text = rest

/-- One character. -/
def Mark (char : Char) : Phrase := fun text rest => text = char :: rest

/-- What makes one phrase of another one, when it is put after that. -/
def After (R P : Phrase) : Phrase := fun text rest => ∀ start, R start text → P start rest

/-- A sequence has more texts if its parts have. -/
theorem then_mono (hP : P ≤ Q) (hR : R ≤ S) : Then P R ≤ Then Q S := by
  rintro text rest ⟨mid, hfirst, hsecond⟩
  exact ⟨mid, hP _ _ hfirst, hR _ _ hsecond⟩

/-- How the parts of a sequence are grouped does not matter. -/
theorem then_assoc (P Q R : Phrase) : Then (Then P Q) R = Then P (Then Q R) := by
  funext text rest
  refine propext ⟨?_, ?_⟩
  · rintro ⟨second, ⟨first, hP, hQ⟩, hR⟩
    exact ⟨first, hP, second, hQ, hR⟩
  · rintro ⟨first, hP, second, hQ, hR⟩
    exact ⟨second, ⟨first, hP, hQ⟩, hR⟩

/-- A phrase that can be empty can be left out before another one. -/
theorem le_then_of_here_le (h : Here ≤ P) (S : Phrase) : S ≤ Then P S :=
  fun text _ hS => ⟨text, h _ _ rfl, hS⟩

/-- Nothing can be left out after a phrase. -/
theorem then_here_le (h : P ≤ Q) : Then P Here ≤ Q := by
  rintro text rest ⟨_, hP, rfl⟩
  exact h _ _ hP

/-- A phrase and what makes another one after it are that other one. -/
theorem then_after_le (R P : Phrase) : Then R (After R P) ≤ P := by
  rintro text rest ⟨mid, hR, hafter⟩
  exact hafter text hR

/-- No text at all is blank. -/
theorem here_le_blanks : Here ≤ Blanks := by
  rintro text _ rfl
  exact .refl text

/-- Blanks after blanks are blanks. -/
theorem blanks_then_blanks_le (P : Phrase) : Then Blanks (Then Blanks P) ≤ Then Blanks P := by
  rintro text rest ⟨mid, hblanks, start, hmore, hP⟩
  exact ⟨start, hblanks.trans hmore, hP⟩

end Phrases

/-! ## Writable phrases -/

/-- In front of every text that does not continue a name there can be a text of the phrase, and it
does not continue a name either. -/
class Writable (R : Phrase) : Prop where
  exists_start : ∀ close, Stops isNamePart close →
    ∃ start, Stops isNamePart start ∧ R start close

section Writable

variable {R S : Phrase}

/-- A phrase with more texts stays writable. -/
theorem Writable.of_le (h : Writable R) (hle : R ≤ S) : Writable S where
  exists_start close hclose := by
    obtain ⟨start, hstart, hR⟩ := h.exists_start close hclose
    exact ⟨start, hstart, hle _ _ hR⟩

/-- A text in front of every text makes a phrase writable. -/
theorem Writable.of_text (first : Char) (others : List Char) (hfirst : isNamePart first = false)
    (h : ∀ close, Stops isNamePart close → R (first :: others ++ close) close) : Writable R where
  exists_start close hclose := ⟨first :: others ++ close, stops_cons.2 hfirst, h close hclose⟩

instance writable_here : Writable Here where
  exists_start close hclose := ⟨close, hclose, rfl⟩

instance writable_blanks : Writable Blanks :=
  writable_here.of_le here_le_blanks

instance writable_then [hR : Writable R] [hS : Writable S] : Writable (Then R S) where
  exists_start close hclose := by
    obtain ⟨mid, hmid, hsecond⟩ := hS.exists_start close hclose
    obtain ⟨start, hstart, hfirst⟩ := hR.exists_start mid hmid
    exact ⟨start, hstart, mid, hfirst, hsecond⟩

instance writable_spaced_word (word : String) : Writable (Then Blanks (Word word)) :=
  .of_text ' ' word.toList (by decide) fun close hclose =>
    ⟨word.toList ++ close, ⟨[' '], by decide, rfl⟩, rfl, hclose⟩

instance writable_spaced_word_then (word : String) [Writable S] :
    Writable (Then Blanks (Then (Word word) S)) := by
  rw [← then_assoc]
  infer_instance

end Writable

/-! ## Lexemes -/

variable {S : Phrase}

/-- Some name. -/
abbrev Named : Phrase := Any fun text rest name => Name name text rest

/-- The literal of some number. -/
def Number : Phrase := fun text rest =>
  ∃ literal value, Literal literal value ∧ text = literal ++ rest

/-- Some string between quotes. -/
def Quoted : Phrase := fun text rest =>
  ∃ value : String, '"' ∉ value.toList ∧ text = '"' :: value.toList ++ '"' :: rest

/-- One of some operators. -/
def SpelledIn (operators : List Operator) : Phrase := fun text rest =>
  ∃ operator ∈ operators, Spelled operator text rest

/-- A sign that may stand before a number is part of one. -/
theorem number_zero {sign : List Char} {negative : Bool} (h : Sign sign negative)
    (rest : List Char) : Number (sign ++ '0' :: rest) rest := by
  refine ⟨sign ++ ['0'], .ofDecimal negative ⟨Nat.ofDigitChars 10 (['0'] ++ []) 0, -(0 : Nat)⟩,
    ⟨sign, negative, ['0'], ['0'], [], h, .whole _ (by decide) (by decide), rfl, ?_, rfl⟩, ?_⟩
  · cases negative <;> decide
  · simp

/-- One letter is a name where no other character of a name follows. -/
theorem named_cons {rest : List Char} (h : Stops isNamePart rest) : Named ('a' :: rest) rest :=
  ⟨"a", ⟨⟨'a', [], rfl, by decide, by decide⟩, by decide⟩, rfl, h⟩

/-- A character that no name consists of is writable. -/
theorem writable_mark {char : Char} (h : isNamePart char = false) : Writable (Mark char) :=
  .of_text char [] h fun _ _ => rfl

instance : Writable (Mark ')') := writable_mark (by decide)

instance : Writable (Mark ']') := writable_mark (by decide)

instance : Writable (Mark '(') := writable_mark (by decide)

instance : Writable (Mark '=') := writable_mark (by decide)

instance writable_spaced_name [hS : Writable S] : Writable (Then Blanks (Then Named S)) where
  exists_start close hclose := by
    obtain ⟨start, hstart, hS⟩ := hS.exists_start close hclose
    exact ⟨' ' :: 'a' :: start, stops_cons.2 (by decide), 'a' :: start, ⟨[' '], by decide, rfl⟩,
      start, named_cons hstart, hS⟩

/-- An operator between blanks is writable if something is. -/
theorem writable_spaced_operator {operators : List Operator} (h : operators ≠ [])
    [hS : Writable S] : Writable (Then Blanks (Then (SpelledIn operators) S)) := by
  obtain ⟨operator, others, rfl⟩ := List.exists_cons_of_ne_nil h
  refine ⟨fun close hclose => ?_⟩
  obtain ⟨start, hstart, hS⟩ := hS.exists_start close hclose
  refine ⟨' ' :: operator.symbol.toList ++ start, stops_cons.2 (by decide),
    operator.symbol.toList ++ start, ⟨[' '], by decide, rfl⟩, start,
    ⟨operator, List.mem_cons_self, ?_⟩, hS⟩
  cases operator with
  | and | or => exact ⟨rfl, hstart⟩
  | _ => rfl

/-! ## Expressions -/

/-- Some expression of a level. -/
abbrev Level (level : Nat) : Phrase := Any (Operation level)

/-- Operators and operands after an expression of a level. -/
abbrev Operands (level : Nat) : Phrase := After (Level level) (Level level)

/-- Expressions after commas and blanks, whatever bracket closes them. -/
def Items : Phrase := fun text rest =>
  ∀ close after, rest = close :: after → Any (MoreElements close) text after

/-- A chain, one that ends in a call of a method if that is wanted. -/
def ChainIf (called : Bool) : Phrase := fun text rest =>
  ∃ expr, Chain text rest expr ∧ (called = true → expr.isMethod = true)

/-- A chain with one more name. -/
abbrev Dotted : Phrase := Then (ChainIf false) (Then (Mark '.') Named)

/-- A term is an expression of the level of negations. -/
theorem term_le_level : Any Term ≤ Level negationLevel := by
  rintro text rest ⟨expr, hterm⟩
  exact ⟨expr, .term _ _ _ hterm⟩

/-- The rules of the terms, for what follows their first lexeme. -/
theorem number_le_term : Number ≤ Any Term := by
  rintro _ rest ⟨literal, value, hliteral, rfl⟩
  exact ⟨_, .number _ _ _ hliteral⟩

/-- A string is a term. -/
theorem quoted_le_term : Quoted ≤ Any Term := by
  rintro _ rest ⟨value, hquote, rfl⟩
  exact ⟨_, .string _ _ hquote⟩

instance : Writable (Any Term) :=
  .of_le (.of_text '"' ['"'] (by decide) fun _ _ => ⟨"", by decide, rfl⟩) quoted_le_term

/-- The word for the true value is a term. -/
theorem trueWord_le_term : Word "true" ≤ Any Term :=
  fun _ _ hword => ⟨_, .trueWord _ _ hword⟩

/-- The word for the false value is a term. -/
theorem falseWord_le_term : Word "false" ≤ Any Term :=
  fun _ _ hword => ⟨_, .falseWord _ _ hword⟩

/-- Elements between brackets are a term. -/
theorem array_le_term : Then (Mark '[') (Any (Elements ']')) ≤ Any Term := by
  rintro _ rest ⟨inner, rfl, exprs, helements⟩
  exact ⟨_, .array _ _ _ helements⟩

/-- An expression in parentheses is a term. -/
theorem parenthesized_le_term :
    Then (Mark '(') (Then Blanks (Then (Level 0) (Then Blanks (Mark ')')))) ≤ Any Term := by
  rintro _ rest ⟨inner, rfl, start, hbefore, finish, ⟨expr, hexpr⟩, _, hafter, rfl⟩
  exact ⟨_, .parenthesized _ _ _ _ _ hbefore hexpr hafter⟩

/-- Arguments in parentheses make a term of a name. -/
theorem call_le_term : Then (Mark '(') (Any (Elements ')')) ≤ After Named (Any Term) := by
  rintro _ rest ⟨inner, rfl, args, hargs⟩ start ⟨name, hname⟩
  exact ⟨_, .call _ _ _ _ _ hname hargs⟩

/-- A negated expression is of the level of negations. -/
theorem not_le_level :
    Then (Word "not") (Then Blanks (Level negationLevel)) ≤ Level negationLevel := by
  rintro text rest ⟨after, hword, start, hblanks, expr, hoperand⟩
  exact ⟨_, .not _ _ _ _ _ hword hblanks hoperand⟩

/-- A level is an operand of the next tighter level and the operands after it. -/
theorem operand_le_level {level : Nat} (h : level < negationLevel) :
    Then (Level (level + 1)) (Operands level) ≤ Level level := by
  rintro text rest ⟨mid, ⟨first, hfirst⟩, hothers⟩
  exact hothers text ⟨first, .tighter _ _ _ _ h hfirst⟩

/-- No more operands have to follow. -/
theorem here_le_operands (level : Nat) : Here ≤ Operands level := by
  rintro text _ rfl start hlevel
  exact hlevel

/-- An operator of a level with its right operand can come before more operands. -/
theorem operator_le_operands {level : Nat} {operators : List Operator}
    (h : ∀ operator ∈ operators, operator.level = level) :
    Then Blanks (Then (SpelledIn operators) (Then Blanks (Then (Level (level + 1))
      (Operands level)))) ≤ Operands level := by
  rintro text rest ⟨spelled, hbefore, after, ⟨operator, hmem, hspelled⟩, operand, hafter, mid,
    ⟨right, hright⟩, hothers⟩ start ⟨left, hleft⟩
  exact hothers start
    ⟨_, .binary _ _ _ _ _ _ _ _ _ _ (h operator hmem) hleft hbefore hspelled hafter hright⟩

/-- An expression of every level is writable. -/
theorem writable_level {level : Nat} (h : level ≤ negationLevel) : Writable (Level level) := by
  induction h using Nat.decreasingInduction with
  | self => exact .of_le inferInstance term_le_level
  | of_succ level hlt ih =>
      refine ih.of_le fun text rest ⟨expr, hexpr⟩ => ?_
      exact ⟨expr, .tighter _ _ _ _ hlt hexpr⟩

instance : Writable (Level 0) := writable_level (Nat.zero_le _)

instance : Writable (Level negationLevel) := writable_level (Nat.le_refl _)

instance (level : Nat) : Writable (Operands level) :=
  writable_here.of_le (here_le_operands level)

/-- No more items have to follow, but blanks may. -/
theorem blanks_le_items : Blanks ≤ Items := by
  rintro text rest hblanks close after rfl
  exact ⟨[], .done _ _ _ hblanks⟩

instance : Writable Items := writable_blanks.of_le blanks_le_items

/-- Blanks may stand before the items that follow. -/
theorem blanks_items_le : Then Blanks Items ≤ Items := by
  rintro text rest ⟨mid, hblanks, hitems⟩ close after hafter
  obtain ⟨exprs, hmore⟩ := hitems close after hafter
  refine ⟨exprs, ?_⟩
  cases hmore with
  | done _ _ _ hstart => exact .done _ _ _ (hblanks.trans hstart)
  | next _ _ _ _ _ _ _ _ hstart hinner helement hothers =>
      exact .next _ _ _ _ _ _ _ _ (hblanks.trans hstart) hinner helement hothers

/-- A comma with an expression can come before more items. -/
theorem comma_le_items : Then (Mark ',') (Then Blanks (Then (Level 0) Items)) ≤ Items := by
  rintro _ rest ⟨after, rfl, start, hafter, mid, ⟨element, helement⟩, hitems⟩ close last hlast
  obtain ⟨others, hothers⟩ := hitems close last hlast
  exact ⟨_, .next _ _ _ _ _ _ _ _ (.refl _) hafter helement hothers⟩

/-- The closing bracket alone ends the elements. -/
theorem close_le_elements (close : Char) : Mark close ≤ Any (Elements close) := by
  rintro _ rest rfl
  exact ⟨[], .none _ _ _ (.refl _)⟩

/-- An expression with more items can stand before the closing bracket. -/
theorem first_le_elements (close : Char) :
    Then (Level 0) (Then Items (Mark close)) ≤ Any (Elements close) := by
  rintro text rest ⟨finish, ⟨first, hfirst⟩, _, hitems, rfl⟩
  obtain ⟨others, hothers⟩ := hitems close rest rfl
  exact ⟨_, .some _ _ _ _ _ _ _ (.refl _) hfirst hothers⟩

/-- Blanks may stand before the elements. -/
theorem blanks_elements_le (close : Char) :
    Then Blanks (Any (Elements close)) ≤ Any (Elements close) := by
  rintro text rest ⟨mid, hblanks, exprs, helements⟩
  refine ⟨exprs, ?_⟩
  cases helements with
  | none _ _ _ hstart => exact .none _ _ _ (hblanks.trans hstart)
  | some _ _ _ _ _ _ _ hstart hfirst hothers =>
      exact .some _ _ _ _ _ _ _ (hblanks.trans hstart) hfirst hothers

instance (close : Char) [Writable (Mark close)] : Writable (Any (Elements close)) :=
  .of_le inferInstance (close_le_elements close)

/-! ## Chains -/

section Chains

variable {P : Phrase}

/-- A point and a name go on with a chain. -/
theorem dot_le_chain (called : Bool) :
    Then (Mark '.') (Then Named (After Dotted P)) ≤ After (ChainIf called) P := by
  rintro text rest ⟨after, rfl, mid, hname, hdotted⟩ start ⟨base, hbase, -⟩
  exact hdotted start ⟨_, ⟨base, hbase, fun h => by cases h⟩, after, rfl, hname⟩

/-- After a point and a name, a chain that is not called goes on as a property. -/
theorem property_le_dotted : After (ChainIf false) P ≤ After Dotted P := by
  rintro text rest hchain start ⟨_, ⟨base, hbase, -⟩, after, rfl, name, hname⟩
  exact hchain start ⟨_, .property _ _ _ _ _ hbase hname, fun h => by cases h⟩

/-- After a point and a name, arguments make a method of it. -/
theorem method_le_dotted :
    Then (Mark '(') (Then (Any (Elements ')')) (After (ChainIf true) P)) ≤ After Dotted P := by
  rintro _ rest ⟨inner, rfl, mid, ⟨args, hargs⟩, hchain⟩ start
    ⟨_, ⟨base, hbase, -⟩, after, rfl, name, hname⟩
  exact hchain start ⟨_, .method _ _ _ _ _ _ _ hbase hname hargs, fun _ => rfl⟩

/-- After a name, a chain that is not called goes on as a variable. -/
theorem var_le_named : After (ChainIf false) P ≤ After Named P := by
  rintro text rest hchain start ⟨name, hname⟩
  exact hchain start ⟨_, .var _ _ _ hname, fun h => by cases h⟩

/-- A chain is a term wherever it ends. -/
theorem here_le_chain_term (called : Bool) : Here ≤ After (ChainIf called) (Any Term) := by
  rintro text _ rfl start ⟨expr, hchain, -⟩
  exact ⟨expr, .chain _ _ _ hchain⟩

/-- What goes on after a chain that need not be called goes on after one that is. -/
theorem after_chain_anti (called : Bool) : After (ChainIf false) P ≤ After (ChainIf called) P := by
  rintro text rest hchain start ⟨base, hbase, -⟩
  exact hchain start ⟨base, hbase, fun h => by cases h⟩

end Chains

/-! ## Statements -/

/-- A statement, a branch only if branches are allowed. -/
def SentenceIf (branches : Prop) : Phrase := fun text rest =>
  ∃ statement, Sentence text rest statement ∧ (startsWithBranch [statement] = true → branches)

/-- A block that starts with a branch only if branches are allowed. -/
def BlockIf (branches : Prop) : Phrase := fun text rest =>
  ∃ statements, Block text rest statements ∧ (startsWithBranch statements = true → branches)

/-- What follows the first word of a branch. -/
abbrev AfterIf : Phrase :=
  Then Blanks (Then (Level 0) (Then Blanks (Then (Word "then") (Then (BlockIf True)
    (Any Otherwise)))))

/-- What follows the word for the other case: a branch, or a block that does not start with one. -/
def AfterElse : Phrase := fun text rest =>
  Then Blanks (Then (Word "if") AfterIf) text rest ∨ Then (BlockIf False) (Word "end") text rest

/-- What follows the first word of a loop. -/
abbrev AfterFor : Phrase :=
  Then Blanks (Then (Word "each") (Then Blanks (Then Named (Then Blanks (Then (Word "in")
    (Then Blanks (Then (Any Term) (Then Blanks (Then (Word "do") (Then (BlockIf True)
      (Word "end")))))))))))

/-- What follows the name that a statement starts with. -/
abbrev AfterName : Phrase := After Named (SentenceIf False)

/-- A statement that is no branch is a statement where branches are allowed too. -/
theorem sentenceIf_le (branches : Prop) : SentenceIf False ≤ SentenceIf branches := by
  rintro text rest ⟨statement, hsentence, hplain⟩
  exact ⟨statement, hsentence, fun h => (hplain h).elim⟩

/-- The word of a branch makes a branch of what follows. -/
theorem if_le_branch : Then (Word "if") AfterIf ≤ Any Branch := by
  rintro text rest ⟨afterIf, hif, atTest, hatTest, afterTest, ⟨test, htest⟩, atThen, hatThen,
    afterThen, hthen, atOther, ⟨consequent, hconsequent, -⟩, alternative, hother⟩
  exact ⟨_, .intro _ _ _ _ _ _ _ _ _ _ _ hif hatTest htest hatThen hthen hconsequent hother⟩

/-- A branch is a statement where branches are allowed. -/
theorem branch_le_sentence {branches : Prop} (h : branches) :
    Then (Word "if") AfterIf ≤ SentenceIf branches := by
  intro text rest hif
  obtain ⟨statement, hbranch⟩ := if_le_branch _ _ hif
  exact ⟨_, .branch _ _ _ hbranch, fun _ => h⟩

/-- The word of a loop makes a statement of what follows. -/
theorem forEach_le_sentence : Then (Word "for") AfterFor ≤ SentenceIf False := by
  rintro text rest ⟨_, hfor, _, hatEach, _, heach, _, hatName, _, ⟨binding, hname⟩, _, hatIn, _,
    hin, _, hatTerm, _, ⟨iterable, hterm⟩, _, hatDo, _, hdo, _, ⟨body, hbody, -⟩, hend⟩
  exact ⟨_, .forEach _ _ _ _ _ _ _ _ _ _ _ _ _ _ _ _ _ hfor hatEach heach hatName hname hatIn hin
    hatTerm hterm hatDo hdo hbody hend, fun h => by cases h⟩

/-- An equals sign and an expression make a statement of a name. -/
theorem assign_le_afterName :
    Then Blanks (Then (Mark '=') (Then Blanks (Level 0))) ≤ AfterName := by
  rintro text rest ⟨_, hbefore, after, rfl, atValue, hafter, value, hvalue⟩ start ⟨name, hname⟩
  exact ⟨_, .assign _ _ _ _ _ _ _ hname hbefore hafter hvalue, fun h => by cases h⟩

/-- Arguments make a statement of a name. -/
theorem call_le_afterName : Then (Mark '(') (Any (Elements ')')) ≤ AfterName := by
  rintro _ rest ⟨inner, rfl, args, hargs⟩ start ⟨name, hname⟩
  exact ⟨_, .call _ _ _ _ _ hname hargs, fun h => by cases h⟩

/-- A chain that ends in a call of a method is a statement. -/
theorem here_le_chain_sentence : Here ≤ After (ChainIf true) (SentenceIf False) := by
  rintro text _ rfl start ⟨expr, hchain, hmethod⟩
  cases expr with
  | method base name args => exact ⟨_, .method _ _ _ _ _ hchain, fun h => by cases h⟩
  | _ => cases hmethod rfl

/-- A block can be empty. -/
theorem blanks_le_blockIf (branches : Prop) : Blanks ≤ BlockIf branches :=
  fun _ _ hblanks => ⟨[], .nil _ _ hblanks, fun h => by cases h⟩

/-- Blanks may stand before a block. -/
theorem blanks_blockIf_le (branches : Prop) :
    Then Blanks (BlockIf branches) ≤ BlockIf branches := by
  rintro text rest ⟨start, hblanks, statements, hblock, hbranch⟩
  exact ⟨statements, hblock.of_blanks hblanks, hbranch⟩

/-- A statement with a block after it is a block. -/
theorem sentence_le_blockIf (branches : Prop) :
    Then (SentenceIf branches) (BlockIf True) ≤ BlockIf branches := by
  rintro text rest ⟨mid, ⟨first, hfirst, hbranch⟩, others, hothers, -⟩
  refine ⟨first :: others, .cons _ _ _ _ _ _ (.refl _) hfirst hothers, fun h => hbranch ?_⟩
  cases first with
  | branch test consequent alternative => rfl
  | _ => cases h

/-- The last word of a branch can follow its first block at once. -/
theorem end_le_otherwise : Word "end" ≤ Any Otherwise :=
  fun _ _ hend => ⟨[], .none _ _ hend⟩

/-- A second block can follow the first one. -/
theorem else_le_otherwise : Then (Word "else") AfterElse ≤ Any Otherwise := by
  rintro text rest ⟨afterElse, helse,
    ⟨atIf, hatIf, hif⟩ | ⟨atEnd, ⟨statements, hblock, hplain⟩, hend⟩⟩
  · obtain ⟨statement, hbranch⟩ := if_le_branch _ _ hif
    exact ⟨_, .nested _ _ _ _ _ helse hatIf hbranch⟩
  · exact ⟨_, .block _ _ _ _ _ helse hblock (Bool.eq_false_iff.2 hplain) hend⟩

/-- Blanks may stand before the second block. -/
theorem blanks_afterElse_le : Then Blanks AfterElse ≤ AfterElse := by
  rintro text rest ⟨mid, hblanks, hnested | ⟨atEnd, hblock, hend⟩⟩
  · exact .inl (blanks_then_blanks_le _ _ _ ⟨mid, hblanks, hnested⟩)
  · exact .inr ⟨atEnd, blanks_blockIf_le _ _ _ ⟨mid, hblanks, hblock⟩, hend⟩

instance : Writable (After (ChainIf false) (Any Term)) :=
  writable_here.of_le (here_le_chain_term false)

instance : Writable (After (ChainIf false) (SentenceIf False)) := by
  refine .of_text '.' ['a', '(', ')'] (by decide) fun close _ => ?_
  refine dot_le_chain false _ _ ⟨_, rfl, _, named_cons (stops_cons.2 (by decide)), ?_⟩
  refine method_le_dotted _ _ ⟨_, rfl, close, close_le_elements _ _ _ rfl, ?_⟩
  exact here_le_chain_sentence _ _ rfl

instance (P : Phrase) [h : Writable (After (ChainIf false) P)] : Writable (After Dotted P) :=
  h.of_le property_le_dotted

instance : Writable (After Named (Any Term)) :=
  .of_le inferInstance (var_le_named (P := Any Term))

instance : Writable AfterName :=
  .of_le inferInstance call_le_afterName

instance (branches : Prop) [h : Writable (Then Blanks S)] :
    Writable (Then (BlockIf branches) S) :=
  h.of_le (then_mono (blanks_le_blockIf branches) (le_refl S))

instance : Writable (Then Blanks (Any Otherwise)) :=
  (writable_spaced_word "end").of_le (then_mono (le_refl _) end_le_otherwise)

instance : Writable AfterElse :=
  .of_le inferInstance fun _ _ h => .inr h

end Grammar

end HostScript

import HostScript.Program.Basic
import HostScript.Proofs.Text.Runs
import HostScript.Source.Lexeme

/-!
# The phrases of the language

The grammar of program text as relations. `R text rest tree` says that `text` starts with a phrase
that stands for `tree` and goes on with `rest`. What follows a phrase matters for words and names
only, which end where a name cannot go on; everything else is free of context. Operators fold to
the left, so the rule for a level is recursive in its left operand. Start with `Derives`.
-/

namespace HostScript

/-- How tight an operator binds, the loosest first. -/
def Operator.level : Operator → Nat
  | .or => 0
  | .and => 1
  | .equal | .notEqual => 2
  | .less | .lessEqual | .greater | .greaterEqual => 3
  | .add | .subtract => 4
  | .multiply | .divide => 5

/-- The level of negations, which is tighter than that of every operator. -/
def negationLevel : Nat := 6

/-- Every operator binds less tight than a negation. -/
theorem Operator.level_lt_negationLevel (operator : Operator) :
    operator.level < negationLevel := by
  cases operator <;> decide

/-- Whether a block starts with a branch. -/
def startsWithBranch : List Statement → Bool
  | .branch _ _ _ :: _ => true
  | _ => false

namespace Grammar

/-! ## Lexemes -/

/-- A run of blanks, possibly empty. -/
def Blanks (text rest : List Char) : Prop :=
  ∃ blanks : List Char, (∀ char ∈ blanks, char ∈ [' ', '\t', '\n', '\r']) ∧ text = blanks ++ rest

/-- A word of the language, which is not the beginning of a longer one. -/
def Word (word : String) (text rest : List Char) : Prop :=
  text = word.toList ++ rest ∧ Text.Stops isNamePart rest

/-- A name starts with a letter, a dollar sign or an underscore, goes on with those and digits, and
is not reserved. -/
def IsName (name : String) : Prop :=
  (∃ first others, name.toList = first :: others ∧ isNameStart first ∧
    ∀ char ∈ others, isNamePart char) ∧ ¬ isReserved name

/-- A name, as long as it goes. -/
def Name (name : String) (text rest : List Char) : Prop :=
  IsName name ∧ text = name.toList ++ rest ∧ Text.Stops isNamePart rest

/-- A sign that may stand before a number. -/
inductive Sign : (text : List Char) → (negative : Bool) → Prop where
  | none : Sign [] false
  | plus : Sign ['+'] false
  | minus : Sign ['-'] true

/-- An unsigned number with the given digits before and after its point: digits, digits with a point
and perhaps more digits after it, or a point with digits after it. -/
inductive Unsigned : (text whole fraction : List Char) → Prop where
  | whole (digits) : digits ≠ [] → (∀ char ∈ digits, char.isDigit) → Unsigned digits digits []
  | point (whole fraction) : whole ≠ [] → (∀ char ∈ whole, char.isDigit) →
      (∀ char ∈ fraction, char.isDigit) → Unsigned (whole ++ '.' :: fraction) whole fraction
  | leading (fraction) : fraction ≠ [] → (∀ char ∈ fraction, char.isDigit) →
      Unsigned ('.' :: fraction) [] fraction

/-- The text of a number, which stands for the nearest double; that double must be finite. -/
def Literal (text : List Char) (value : Binary64) : Prop :=
  ∃ sign negative digits whole fraction, Sign sign negative ∧ Unsigned digits whole fraction ∧
    text = sign ++ digits ∧ value.isFinite ∧
    value = .ofDecimal negative
      ⟨Nat.ofDigitChars 10 (whole ++ fraction) 0, -(fraction.length : Int)⟩

/-- An operator as it is spelled: the logical ones are words. -/
def Spelled (operator : Operator) (text rest : List Char) : Prop :=
  match operator with
  | .and | .or => Word operator.symbol text rest
  | _ => text = operator.symbol.toList ++ rest

/-! ## Expressions -/

mutual

/-- An expression of a level or a tighter one. -/
inductive Operation : Nat → List Char → List Char → Expr → Prop where
  | tighter (level text rest expr) : level < negationLevel →
      Operation (level + 1) text rest expr → Operation level text rest expr
  | binary (level operator text before spelled after start rest left right) :
      operator.level = level → Operation level text before left → Blanks before spelled →
      Spelled operator spelled after → Blanks after start →
      Operation (level + 1) start rest right →
      Operation level text rest (.binary operator left right)
  | not (text after start rest operand) : Word "not" text after → Blanks after start →
      Operation negationLevel start rest operand → Operation negationLevel text rest (.not operand)
  | term (text rest expr) : Term text rest expr → Operation negationLevel text rest expr

/-- The tightest expressions. -/
inductive Term : List Char → List Char → Expr → Prop where
  | number (literal rest value) : Literal literal value →
      Term (literal ++ rest) rest (.number value)
  | trueWord (text rest) : Word "true" text rest → Term text rest (.boolean true)
  | falseWord (text rest) : Word "false" text rest → Term text rest (.boolean false)
  | call (text inner rest name args) : Name name text ('(' :: inner) →
      Elements ')' inner rest args → Term text rest (.call name args)
  | chain (text rest expr) : Chain text rest expr → Term text rest expr
  | array (inner rest elements) : Elements ']' inner rest elements →
      Term ('[' :: inner) rest (.array elements)
  | string (value rest) : '"' ∉ value.toList →
      Term ('"' :: value.toList ++ '"' :: rest) rest (.string value)
  | parenthesized (inner start finish rest expr) : Blanks inner start →
      Operation 0 start finish expr → Blanks finish (')' :: rest) → Term ('(' :: inner) rest expr

/-- A variable followed by reads of properties and calls of methods, without blanks. -/
inductive Chain : List Char → List Char → Expr → Prop where
  | var (text rest name) : Name name text rest → Chain text rest (.var name)
  | property (text after rest base name) : Chain text ('.' :: after) base → Name name after rest →
      Chain text rest (.property base name)
  | method (text after inner rest base name args) : Chain text ('.' :: after) base →
      Name name after ('(' :: inner) → Elements ')' inner rest args →
      Chain text rest (.method base name args)

/-- Expressions between commas up to a closing bracket, after the opening one. -/
inductive Elements : Char → List Char → List Char → List Expr → Prop where
  | none (close text rest) : Blanks text (close :: rest) → Elements close text rest []
  | some (close text start finish rest first others) : Blanks text start →
      Operation 0 start finish first → MoreElements close finish rest others →
      Elements close text rest (first :: others)

/-- The expressions after the first one, each after a comma, and the closing bracket. -/
inductive MoreElements : Char → List Char → List Char → List Expr → Prop where
  | done (close text rest) : Blanks text (close :: rest) → MoreElements close text rest []
  | next (close text after start finish rest element others) : Blanks text (',' :: after) →
      Blanks after start → Operation 0 start finish element →
      MoreElements close finish rest others → MoreElements close text rest (element :: others)

end

/-- An expression. -/
abbrev Expression := Operation 0

/-! ## Statements -/

mutual

/-- A statement. -/
inductive Sentence : List Char → List Char → Statement → Prop where
  | assign (text before after start rest name value) : Name name text before →
      Blanks before ('=' :: after) → Blanks after start → Expression start rest value →
      Sentence text rest (.assign name value)
  | call (text inner rest name args) : Name name text ('(' :: inner) →
      Elements ')' inner rest args → Sentence text rest (.call name args)
  | method (text rest base name args) : Chain text rest (.method base name args) →
      Sentence text rest (.method base name args)
  | branch (text rest statement) : Branch text rest statement → Sentence text rest statement
  | forEach (text afterFor atEach afterEach atName afterName atIn afterIn atTerm afterTerm atDo
        afterDo atEnd rest binding iterable body) :
      Word "for" text afterFor → Blanks afterFor atEach → Word "each" atEach afterEach →
      Blanks afterEach atName → Name binding atName afterName → Blanks afterName atIn →
      Word "in" atIn afterIn → Blanks afterIn atTerm → Term atTerm afterTerm iterable →
      Blanks afterTerm atDo → Word "do" atDo afterDo → Block afterDo atEnd body →
      Word "end" atEnd rest → Sentence text rest (.forEach binding iterable body)

/-- A branch: a test, a block, and what follows the block. -/
inductive Branch : List Char → List Char → Statement → Prop where
  | intro (text afterIf atTest afterTest atThen afterThen atOther rest test consequent
        alternative) :
      Word "if" text afterIf → Blanks afterIf atTest → Expression atTest afterTest test →
      Blanks afterTest atThen → Word "then" atThen afterThen →
      Block afterThen atOther consequent → Otherwise atOther rest alternative →
      Branch text rest (.branch test consequent alternative)

/-- The other case of a branch: none, a branch that owns the end, or a block that does not start
with a branch. -/
inductive Otherwise : List Char → List Char → List Statement → Prop where
  | none (text rest) : Word "end" text rest → Otherwise text rest []
  | nested (text afterElse atIf rest statement) : Word "else" text afterElse →
      Blanks afterElse atIf → Branch atIf rest statement → Otherwise text rest [statement]
  | block (text afterElse atEnd rest statements) : Word "else" text afterElse →
      Block afterElse atEnd statements → startsWithBranch statements = false →
      Word "end" atEnd rest → Otherwise text rest statements

/-- Statements with blanks before, between and after them. -/
inductive Block : List Char → List Char → List Statement → Prop where
  | nil (text rest) : Blanks text rest → Block text rest []
  | cons (text start finish rest first others) : Blanks text start →
      Sentence start finish first → Block finish rest others → Block text rest (first :: others)

end

/-- A text derives a program if it is, as a whole, a block of its statements. -/
def Derives (text : List Char) (program : Program) : Prop :=
  Block text [] program.statements

end Grammar

end HostScript

import HostScript.Program.Basic
import HostScript.Source.Lexeme

/-!
# The grammar of programs

Parsers of expressions and statements. Binary operators are read level by level, the loosest level
first, and fold to the left; a call and a read of a property must follow their name or base without
blanks; statements have no terminator.
-/

namespace HostScript.Parser

/-! ## Expressions -/

/-- An operator as it is spelled: the logical ones are words. -/
def operator (operator : Operator) : Parser Unit :=
  match operator with
  | .and | .or => word operator.symbol
  | _ => symbol operator.symbol

/-- The first of some operators that stands at the cursor. -/
def operatorOf : List Operator → Parser Operator
  | [] => fail
  | first :: others => commit (operator first) (fun _ => succeed first) (operatorOf others)

/-- The levels of binary operators, the loosest first. Within a level longer symbols come first. -/
def operatorLevels : List (List Operator) :=
  [[.or], [.and], [.equal, .notEqual], [.lessEqual, .greaterEqual, .less, .greater],
   [.add, .subtract], [.multiply, .divide]]

/-- Operands of the next tighter level joined by the operators of one level, folded to the left.
Blanks after the last operand are not taken. -/
def binaryLevel (operators : List Operator) (operand : Parser Expr) : Parser Expr := do
  let first ← operand
  fix (fun more left => do
    let before ← here
    skipBlanks
    commit (operatorOf operators)
      (fun operator => do
        skipBlanks
        let right ← operand
        more (.binary operator left right))
      (do rewind before; succeed left)) first

/-- An operand with any number of negations in front of it. -/
def negation (operand : Parser Expr) : Parser Expr :=
  fix (fun again () =>
    commit (word "not")
      (fun _ => do
        skipBlanks
        return .not (← again ()))
      operand) ()

/-- The items after the first one, each after a comma. Blanks after the last item are taken. -/
def moreElements (expression : Parser Expr) : Parser (List Expr) :=
  fix (fun more () => do
    skipBlanks
    commit (char ',')
      (fun _ => do
        skipBlanks
        let element ← expression
        return element :: (← more ()))
      (succeed [])) ()

/-- Expressions between commas up to a closing bracket; the opening one was read already. -/
def elements (expression : Parser Expr) (close : Char) : Parser (List Expr) := do
  skipBlanks
  commit (char close) (fun _ => succeed []) do
    let first ← expression
    let others ← moreElements expression
    char close
    return first :: others

/-- Reads of properties and calls of methods that follow a base. -/
def chain (expression : Parser Expr) (base : Expr) : Parser Expr :=
  fix (fun more base =>
    commit (char '.')
      (fun _ => do
        let name ← identifier
        commit (char '(')
          (fun _ => do
            let args ← elements expression ')'
            more (.method base name args))
          (more (.property base name)))
      (succeed base)) base

/-- What a name stands for: a call of a host function, or a variable with a chain. -/
def reference (expression : Parser Expr) (name : String) : Parser Expr :=
  commit (char '(')
    (fun _ => do return .call name (← elements expression ')'))
    (chain expression (.var name))

/-- An expression between parentheses; the opening one was read already. -/
def parenthesized (expression : Parser Expr) : Parser Expr := do
  skipBlanks
  let inner ← expression
  skipBlanks
  char ')'
  return inner

/-- The tightest expressions: literals, references, lists and parentheses. -/
def term (expression : Parser Expr) : Parser Expr :=
  commit number (fun value => succeed (.number value)) <|
  commit (word "true") (fun _ => succeed (.boolean true)) <|
  commit (word "false") (fun _ => succeed (.boolean false)) <|
  commit identifier (fun name => reference expression name) <|
  commit (char '[') (fun _ => do return .array (← elements expression ']')) <|
  commit string (fun value => succeed (.string value)) <|
  commit (char '(') (fun _ => parenthesized expression) fail

/-- All levels of binary operators over negations of terms. -/
def operation (expression : Parser Expr) : Parser Expr :=
  operatorLevels.foldr binaryLevel (negation (term expression))

/-- An expression. -/
def expression : Parser Expr :=
  fix (fun expression () => operation (expression ())) ()

/-! ## Statements -/

/-- Whether the text ends here or goes on with one of some words. -/
def atBlockEnd (terminators : List String) : Parser Bool := fun scanner =>
  (some (scanner.isAtEnd || terminators.any scanner.startsWithWord), scanner)

/-- Statements up to the end of the text or one of some words, which is not taken. -/
def block (statement : Parser Statement) (terminators : List String) :
    Parser (List Statement) :=
  fix (fun more () => do
    skipBlanks
    if ← atBlockEnd terminators then succeed []
    else
      let first ← statement
      return first :: (← more ())) ()

/-- A branch after its first word. A branch that follows the word for the other case directly is
nested in it and owns the end. -/
def branch (statement : Parser Statement) : Parser Statement :=
  fix (fun again () => do
    skipBlanks
    let test ← expression
    skipBlanks
    word "then"
    let consequent ← block statement ["else", "end"]
    commit (word "else")
      (fun _ => do
        skipBlanks
        commit (word "if")
          (fun _ => do
            let nested ← again ()
            return .branch test consequent [nested])
          (do
            let alternative ← block statement ["end"]
            word "end"
            return .branch test consequent alternative))
      (do
        word "end"
        return .branch test consequent [])) ()

/-- A loop after its first word. What it runs over is a term. -/
def forEach (statement : Parser Statement) : Parser Statement := do
  skipBlanks
  word "each"
  skipBlanks
  let binding ← identifier
  skipBlanks
  word "in"
  skipBlanks
  let iterable ← term expression
  skipBlanks
  word "do"
  let body ← block statement ["end"]
  word "end"
  return .forEach binding iterable body

/-- A chain that is a statement, which must end in a call of a method. -/
def methodStatement (name : String) : Parser Statement := do
  match ← chain expression (.var name) with
  | .method base name args => succeed (.method base name args)
  | _ => fail

/-- A statement that starts with a name. -/
def simpleStatement (name : String) : Parser Statement := do
  let before ← here
  skipBlanks
  commit assignSign
    (fun _ => do
      skipBlanks
      return .assign name (← expression))
    (do
      rewind before
      commit (char '(')
        (fun _ => do return .call name (← elements expression ')'))
        (methodStatement name))

/-- A statement, given the parser of the statements inside it. -/
def statementWith (statement : Parser Statement) : Parser Statement :=
  commit (word "if") (fun _ => branch statement) <|
  commit (word "for") (fun _ => forEach statement) do
    simpleStatement (← identifier)

/-- A statement. -/
def statement : Parser Statement :=
  fix (fun statement () => statementWith (statement ())) ()

/-- Records that the end of the text was expected, unless it is reached. -/
def endOfText : Parser Unit := fun scanner =>
  if scanner.isAtEnd then (some (), scanner) else (none, scanner.expect "end of input")

/-- A whole program. -/
def program : Parser Program := do
  let statements ← block statement []
  endOfText
  return ⟨statements⟩

end HostScript.Parser

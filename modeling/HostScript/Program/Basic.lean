import HostScript.Binary64.Arithmetic

/-!
# Programs

A program is a list of statements over expressions. Every node has a tag, which names it in traces
and on the wire; the tag of a binary expression is the symbol of its operator.
-/

namespace HostScript

/-- The binary operators. -/
inductive Operator where
  | equal
  | notEqual
  | less
  | lessEqual
  | greater
  | greaterEqual
  | add
  | subtract
  | multiply
  | divide
  | and
  | or
deriving DecidableEq, Repr

namespace Operator

/-- Every operator. -/
def all : List Operator :=
  [.equal, .notEqual, .less, .lessEqual, .greater, .greaterEqual, .add, .subtract, .multiply,
   .divide, .and, .or]

/-- The spelling of an operator. -/
def symbol : Operator → String
  | .equal => "=="
  | .notEqual => "!="
  | .less => "<"
  | .lessEqual => "<="
  | .greater => ">"
  | .greaterEqual => ">="
  | .add => "+"
  | .subtract => "-"
  | .multiply => "*"
  | .divide => "/"
  | .and => "and"
  | .or => "or"

/-- The operator of a spelling. -/
def ofSymbol? (symbol : String) : Option Operator :=
  all.find? fun operator => operator.symbol == symbol

end Operator

/-- Expressions: literals, variables, reads of a property, calls of a method of a value, calls of a
host function, and operators. -/
inductive Expr where
  | number (value : Binary64)
  | string (value : String)
  | boolean (value : Bool)
  | array (elements : List Expr)
  | var (name : String)
  | property (base : Expr) (name : String)
  | method (base : Expr) (name : String) (args : List Expr)
  | call (name : String) (args : List Expr)
  | binary (operator : Operator) (left right : Expr)
  | not (operand : Expr)
deriving Inhabited, Repr

/-- Statements: assignments, calls made for their effect, branches and loops. -/
inductive Statement where
  | assign (name : String) (value : Expr)
  | call (name : String) (args : List Expr)
  | method (base : Expr) (name : String) (args : List Expr)
  | branch (test : Expr) (consequent alternative : List Statement)
  | forEach (binding : String) (iterable : Expr) (body : List Statement)
deriving Inhabited, Repr

/-- A program: its statements in the order of execution. -/
structure Program where
  statements : List Statement
deriving Inhabited, Repr

/-- The tag of an expression. -/
def Expr.tag : Expr → String
  | .number _ => "number"
  | .string _ => "string"
  | .boolean _ => "boolean"
  | .array _ => "array"
  | .var _ => "var"
  | .property _ _ => "prop"
  | .method _ _ _ => "call"
  | .call _ _ => "func"
  | .binary operator _ _ => operator.symbol
  | .not _ => "not"

/-- The tag of a statement. -/
def Statement.tag : Statement → String
  | .assign _ _ => "="
  | .call _ _ => "func"
  | .method _ _ _ => "call"
  | .branch _ _ _ => "if"
  | .forEach _ _ _ => "foreach"

mutual

/-- Whether two expressions are the same tree, numbers being compared by value. -/
def Expr.equals : Expr → Expr → Bool
  | .number left, .number right => left.equals right
  | .string left, .string right => left == right
  | .boolean left, .boolean right => left == right
  | .array left, .array right => Expr.listEquals left right
  | .var left, .var right => left == right
  | .property left leftName, .property right rightName =>
    left.equals right && leftName == rightName
  | .method left leftName leftArgs, .method right rightName rightArgs =>
    left.equals right && leftName == rightName && Expr.listEquals leftArgs rightArgs
  | .call leftName leftArgs, .call rightName rightArgs =>
    leftName == rightName && Expr.listEquals leftArgs rightArgs
  | .binary leftOperator leftFirst leftSecond, .binary rightOperator rightFirst rightSecond =>
    leftOperator == rightOperator && leftFirst.equals rightFirst && leftSecond.equals rightSecond
  | .not left, .not right => left.equals right
  | _, _ => false

/-- Whether two lists hold the same trees. -/
def Expr.listEquals : List Expr → List Expr → Bool
  | [], [] => true
  | left :: lefts, right :: rights => left.equals right && Expr.listEquals lefts rights
  | _, _ => false

end

mutual

/-- Whether two statements are the same tree, numbers being compared by value. -/
def Statement.equals : Statement → Statement → Bool
  | .assign leftName left, .assign rightName right => leftName == rightName && left.equals right
  | .call leftName leftArgs, .call rightName rightArgs =>
    leftName == rightName && Expr.listEquals leftArgs rightArgs
  | .method left leftName leftArgs, .method right rightName rightArgs =>
    left.equals right && leftName == rightName && Expr.listEquals leftArgs rightArgs
  | .branch leftTest leftYes leftNo, .branch rightTest rightYes rightNo =>
    leftTest.equals rightTest && Statement.listEquals leftYes rightYes &&
      Statement.listEquals leftNo rightNo
  | .forEach leftName left leftBody, .forEach rightName right rightBody =>
    leftName == rightName && left.equals right && Statement.listEquals leftBody rightBody
  | _, _ => false

/-- Whether two blocks hold the same statements. -/
def Statement.listEquals : List Statement → List Statement → Bool
  | [], [] => true
  | left :: lefts, right :: rights => left.equals right && Statement.listEquals lefts rights
  | _, _ => false

end

/-- Whether two programs are the same, numbers being compared by value. -/
def Program.equals (left right : Program) : Bool :=
  Statement.listEquals left.statements right.statements

end HostScript

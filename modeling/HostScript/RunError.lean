import HostScript.Program.Basic
import HostScript.Value.Basic

/-!
# Errors of a run

Every error ends the run. An error of a host function is passed on unchanged.
-/

namespace HostScript

/-- An error that a host function raises, or that is raised in its place. -/
structure HostError where
  message : String
deriving DecidableEq, Repr

/-- What is wrong with the receiver or the arguments of a built-in method. The text of what is wrong
with a pattern is left out. -/
inductive MethodProblem where
  | missingArgument
  | notString (found : Kind)
  | notNumeric (found : Kind)
  | mixedItems
  | invalidPattern
deriving DecidableEq, Repr

/-- Why a run failed. -/
inductive RunError where
  | undefinedVariable (name : String)
  | unknownFunction (name : String)
  | typeMismatch (operator : Operator) (left right : Kind)
  | unknownProperty (kind : Kind) (name : String)
  | unknownMethod (kind : Kind) (name : String)
  | methodArgument (method : String) (problem : MethodProblem)
  | host (error : HostError)
deriving DecidableEq, Repr

/-- The message of a problem with a method. -/
def MethodProblem.message : MethodProblem → String
  | .missingArgument => "requires an argument"
  | .notString found => s!"argument must be string, got {found.name}"
  | .notNumeric found => s!"requires numeric values, got {found.name}"
  | .mixedItems => "requires all numbers or all strings"
  | .invalidPattern => "invalid regex"

/-- The message of a run error. -/
def RunError.message : RunError → String
  | .undefinedVariable name => s!"undefined variable '{name}'"
  | .unknownFunction name => s!"unknown function '{name}'"
  | .typeMismatch operator left right =>
    s!"cannot apply '{operator.symbol}' to {left.name} and {right.name}"
  | .unknownProperty kind name => s!"{kind.name} has no property '{name}'"
  | .unknownMethod kind name => s!"{kind.name} has no method '{name}'"
  | .methodArgument method problem => s!".{method}() {problem.message}"
  | .host error => error.message

namespace HostError

/-- A call with a number of arguments other than the declared one. -/
def arity (function : String) (declared found : Nat) : HostError :=
  let plural := if declared = 1 then "" else "s"
  ⟨s!"{function}() expects {declared} argument{plural}, got {found}"⟩

/-- An argument of the wrong kind, by its place counted from zero. -/
def argument (index : Nat) (wanted : String) (found : Value) : HostError :=
  ⟨s!"argument {index + 1} must be {wanted}, got {found.kind.name}"⟩

/-- An argument that is not there, by its place counted from zero. -/
def missing (index : Nat) : HostError :=
  ⟨s!"missing argument {index + 1}"⟩

end HostError

end HostScript

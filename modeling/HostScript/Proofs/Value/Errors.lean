import HostScript.Value.Methods
import HostScript.Value.Operators

/-!
# Errors of operators, properties and methods

An operator, a property or a method fails for what its operands are. It never fails for a variable,
for a function or in the place of the host; such errors come from the machine alone
(`Operator.apply_fails`, `Value.property_fails`, `Value.invoke_fails`).
-/

namespace HostScript

/-- Whether an error tells about the values of operands only. -/
def RunError.ofValues : RunError → Bool
  | .undefinedVariable _ => false
  | .unknownFunction _ => false
  | .host _ => false
  | _ => true

/-- If there is an error, it is one of operands. -/
def FailsByValues {α : Type} (result : Except RunError α) : Prop :=
  ∀ error, result = .error error → error.ofValues = true

namespace FailsByValues

variable {α β : Type}

/-- A result that is there is no error. -/
theorem ok (value : α) : FailsByValues (.ok value : Except RunError α) := by
  intro error h
  cases h

/-- An error of operands is one. -/
theorem error {error : RunError} (h : error.ofValues = true) :
    FailsByValues (.error error : Except RunError α) := by
  intro other hother
  cases hother
  exact h

/-- Steps that fail only by their operands do so together. -/
theorem bind {first : Except RunError α} {next : α → Except RunError β}
    (h : FailsByValues first) (hnext : ∀ value, FailsByValues (next value)) :
    FailsByValues (first >>= next) := by
  cases first with
  | ok value => exact hnext value
  | error error => exact .error (h error rfl)

end FailsByValues

/-! ## Operators -/

namespace Operator

/-- Arithmetic fails only by its operands. -/
theorem arithmetic_fails (operator : Operator) (operation : Binary64 → Binary64 → Binary64)
    (left right : Value) : FailsByValues (operator.arithmetic operation left right) := by
  unfold arithmetic
  split
  · exact .ok _
  · exact .error rfl

/-- An addition fails only by its operands. -/
theorem addition_fails (left right : Value) : FailsByValues (addition left right) := by
  unfold addition
  split
  · exact .ok _
  · exact .ok _
  · exact .error rfl

/-- A comparison fails only by its operands. -/
theorem ordering_fails (operator : Operator) (test : Ordering → Bool) (left right : Value) :
    FailsByValues (operator.ordering test left right) := by
  unfold ordering
  split
  · exact .ok _
  · exact .error rfl

/-- Every operator fails only by its operands. -/
theorem apply_fails (operator : Operator) (left right : Value) :
    FailsByValues (operator.apply left right) := by
  cases operator with
  | equal | notEqual | and | or => exact .ok _
  | add => exact addition_fails left right
  | subtract | multiply | divide => exact arithmetic_fails _ _ left right
  | less | lessEqual | greater | greaterEqual => exact ordering_fails _ _ left right

end Operator

/-! ## Properties and methods -/

namespace Value

/-- A property fails only by its base. -/
theorem property_fails (base : Value) (name : String) : FailsByValues (base.property name) := by
  unfold property
  split
  · exact .ok _
  · exact .ok _
  · exact .ok _
  · exact .error rfl

/-- A missing argument is an error of operands. -/
theorem firstArgument_fails (method : String) (args : List Value) :
    FailsByValues (firstArgument method args) := by
  cases args with
  | nil => exact .error rfl
  | cons first others => exact .ok _

/-- An argument of the wrong kind is an error of operands. -/
theorem stringArgument_fails (method : String) (args : List Value) :
    FailsByValues (stringArgument method args) := by
  refine (firstArgument_fails method args).bind fun first => ?_
  split
  · exact .ok _
  · exact .error rfl

/-- An item of the wrong kind is an error of operands. -/
theorem numbers_fails (method : String) (items : List Value) :
    FailsByValues (numbers method items) := by
  induction items with
  | nil => exact .ok _
  | cons item items ih =>
      cases item with
      | number value => exact ih.bind fun _ => .ok _
      | _ => exact .error rfl

/-- Sorting fails only by the items. -/
theorem sort_fails (items : List Value) : FailsByValues (sort items) := by
  unfold sort
  split
  · exact .ok _
  · exact .error rfl

/-- A pattern that cannot be read is an error of operands. -/
theorem matchesPattern_fails (text pattern : List Char) :
    FailsByValues (matchesPattern text pattern) := by
  unfold matchesPattern
  split
  · exact .ok _
  · exact .error rfl

/-- A method of arrays that asks its items to be numbers fails for the items only. -/
theorem numbers_map_fails (method : String) (items : List Value) (f : List Binary64 → Value) :
    FailsByValues (do return f (← numbers method items)) :=
  (numbers_fails method items).bind fun _ => .ok _

/-- A method that asks for a string fails for its argument only. -/
theorem stringArgument_map_fails (method : String) (args : List Value) (f : List Char → Value) :
    FailsByValues (do return f (← stringArgument method args)) :=
  (stringArgument_fails method args).bind fun _ => .ok _

/-- A method of an array fails only by the array and the arguments. -/
theorem arrayMethod_fails (items : List Value) (method : String) (args : List Value) :
    FailsByValues (arrayMethod items method args) := by
  unfold arrayMethod
  split
  · exact .ok _
  · exact .ok _
  · exact .ok _
  · exact .ok _
  · exact numbers_map_fails _ _ _
  · exact numbers_map_fails _ _ _
  · exact numbers_map_fails _ _ _
  · exact .ok _
  · exact .ok _
  · exact sort_fails items
  · exact (firstArgument_fails _ _).bind fun _ => .ok _
  · split
    · exact .ok _
    · exact stringArgument_map_fails _ _ _
  · exact .error rfl

/-- A method of a string fails only by the string and the arguments. -/
theorem stringMethod_fails (text : List Char) (method : String) (args : List Value) :
    FailsByValues (stringMethod text method args) := by
  unfold stringMethod
  split
  · exact .ok _
  · exact .ok _
  · exact .ok _
  · exact .ok _
  · exact stringArgument_map_fails _ _ _
  · exact stringArgument_map_fails _ _ _
  · exact stringArgument_map_fails _ _ _
  · exact stringArgument_map_fails _ _ _
  · exact (stringArgument_fails _ _).bind fun pattern => matchesPattern_fails text pattern
  · exact .error rfl

/-- A method of an object fails only by the object and the arguments. -/
theorem objectMethod_fails (entries : List (String × Value)) (method : String)
    (args : List Value) : FailsByValues (objectMethod entries method args) := by
  unfold objectMethod
  split
  · exact .ok _
  · exact .ok _
  · exact stringArgument_map_fails _ _ _
  · exact .error rfl

/-- Every method fails only by its receiver and arguments. -/
theorem invoke_fails (receiver : Value) (method : String) (args : List Value) :
    FailsByValues (receiver.invoke method args) := by
  unfold invoke
  split
  · exact .ok _
  · cases receiver with
    | array items => exact arrayMethod_fails items method args
    | string text => exact stringMethod_fails text.toList method args
    | object entries => exact objectMethod_fails entries method args
    | _ => exact .error rfl

end Value

end HostScript

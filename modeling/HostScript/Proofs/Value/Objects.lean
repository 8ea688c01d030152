import HostScript.Proofs.Value.Unique
import HostScript.Value.Operators

/-!
# Values without objects

No operator, property or method makes an object out of values that hold none, and none of them
fails with an error that tells of an object then (`Operator.apply_spares`, `Value.property_spares`,
`Value.invoke_spares`).
-/

namespace HostScript

namespace Value

mutual

/-- Whether an object occurs anywhere inside a value. -/
def hasObject : Value → Bool
  | .array items => listHasObject items
  | .object _ => true
  | _ => false

/-- Whether an object occurs inside one of some values. -/
def listHasObject : List Value → Bool
  | [] => false
  | item :: items => hasObject item || listHasObject items

end

/-- An array holds no object exactly if none of its items does. -/
theorem hasObject_array_eq_false_iff {items : List Value} :
    (Value.array items).hasObject = false ↔ ∀ item ∈ items, item.hasObject = false := by
  rw [hasObject]
  induction items with
  | nil => simp [listHasObject]
  | cons item items ih => simp [listHasObject, ih]

/-- A value without objects is no object. -/
theorem kind_ne_object {value : Value} (h : value.hasObject = false) : value.kind ≠ .object := by
  cases value with
  | object entries => cases h
  | _ => exact nofun

end Value

/-- Whether an error tells of an object. -/
def RunError.namesObject : RunError → Bool
  | .typeMismatch _ left right => left == .object || right == .object
  | .unknownProperty kind _ => kind == .object
  | .unknownMethod kind _ => kind == .object
  | .methodArgument _ (.notString found) => found == .object
  | .methodArgument _ (.notNumeric found) => found == .object
  | _ => false

/-- A result that holds what is asked for, or an error that tells of no object. -/
def Spares {α : Type} (P : α → Prop) : Except RunError α → Prop
  | .ok value => P value
  | .error error => error.namesObject = false

namespace Spares

variable {α β : Type} {P : α → Prop} {Q : β → Prop}

/-- A result that is worked on stays without objects if each step does. -/
theorem bind {first : Except RunError α} {next : α → Except RunError β} (h : Spares P first)
    (hnext : ∀ value, P value → Spares Q (next value)) : Spares Q (first >>= next) := by
  cases first with
  | ok value => exact hnext value h
  | error error => exact h

/-- What is made of a result is fine whatever the result is. -/
theorem map {first : Except RunError α} (h : Spares P first) {f : α → β}
    (hf : ∀ value, Q (f value)) :
    Spares Q (do return f (← first)) :=
  h.bind fun value _ => hf value

end Spares

/-! ## Operators -/

namespace Operator

variable {left right : Value}

/-- A mismatch of operands without objects tells of no object. -/
theorem namesObject_mismatch (operator : Operator) (hleft : left.hasObject = false)
    (hright : right.hasObject = false) : (operator.mismatch left right).namesObject = false := by
  simp [mismatch, RunError.namesObject, Value.kind_ne_object hleft, Value.kind_ne_object hright]

/-- Arithmetic on values without objects gives one. -/
theorem arithmetic_spares (operator : Operator) (operation : Binary64 → Binary64 → Binary64)
    (hleft : left.hasObject = false) (hright : right.hasObject = false) :
    Spares (fun value => value.hasObject = false) (operator.arithmetic operation left right) := by
  unfold arithmetic
  split
  · exact rfl
  · exact namesObject_mismatch operator hleft hright

/-- The sum of values without objects is one. -/
theorem addition_spares (hleft : left.hasObject = false) (hright : right.hasObject = false) :
    Spares (fun value => value.hasObject = false) (addition left right) := by
  unfold addition
  split
  · exact rfl
  · exact rfl
  · exact namesObject_mismatch .add hleft hright

/-- The order of values without objects is one. -/
theorem ordering_spares (operator : Operator) (test : Ordering → Bool)
    (hleft : left.hasObject = false) (hright : right.hasObject = false) :
    Spares (fun value => value.hasObject = false) (operator.ordering test left right) := by
  unfold ordering
  split
  · exact rfl
  · exact namesObject_mismatch operator hleft hright

/-- Every operator spares values without objects. -/
theorem apply_spares (operator : Operator) (hleft : left.hasObject = false)
    (hright : right.hasObject = false) :
    Spares (fun value => value.hasObject = false) (operator.apply left right) := by
  cases operator with
  | equal | notEqual | and | or => exact rfl
  | add => exact addition_spares hleft hright
  | subtract | multiply | divide => exact arithmetic_spares _ _ hleft hright
  | less | lessEqual | greater | greaterEqual => exact ordering_spares _ _ hleft hright

end Operator

/-! ## Properties and methods -/

namespace Value

/-- A property of a value without objects is one. -/
theorem property_spares {base : Value} (h : base.hasObject = false) (name : String) :
    Spares (fun value => value.hasObject = false) (base.property name) := by
  unfold property
  split
  · cases h
  · exact rfl
  · exact rfl
  · simp [Spares, RunError.namesObject, kind_ne_object h]

section Arguments

variable {args : List Value}

/-- The first argument is one of the arguments. -/
theorem firstArgument_spares (h : ∀ arg ∈ args, arg.hasObject = false) (method : String) :
    Spares (fun value => value.hasObject = false) (firstArgument method args) := by
  cases args with
  | nil => exact rfl
  | cons first others => exact h first List.mem_cons_self

/-- An argument that is no string is no object either. -/
theorem stringArgument_spares (h : ∀ arg ∈ args, arg.hasObject = false) (method : String) :
    Spares (fun _ => True) (stringArgument method args) := by
  refine (firstArgument_spares h method).bind fun first hfirst => ?_
  split
  · exact trivial
  · simp [Spares, RunError.namesObject, kind_ne_object hfirst, throw, throwThe, MonadExceptOf.throw]

end Arguments

section Arrays

variable {items : List Value} (h : ∀ item ∈ items, item.hasObject = false)

include h

/-- An item that is no number is no object either. -/
theorem numbers_spares (method : String) :
    Spares (fun _ => True) (numbers method items) := by
  induction items with
  | nil => exact trivial
  | cons item items ih =>
      obtain ⟨hitem, hitems⟩ := List.forall_mem_cons.1 h
      cases item with
      | number value => exact (ih hitems).map fun _ => trivial
      | object entries => cases hitem
      | _ => exact rfl

/-- Items that are all among some items without objects hold none. -/
theorem hasObject_array_of_subset {others : List Value} (hsubset : others ⊆ items) :
    (Value.array others).hasObject = false :=
  hasObject_array_eq_false_iff.2 fun item hitem => h item (hsubset hitem)

omit h in
/-- The smallest and the largest number are no objects. -/
theorem hasObject_extremeValue (wanted : Ordering) (numbers : List Binary64) :
    (extremeValue wanted numbers).hasObject = false := by
  unfold extremeValue
  cases extreme wanted numbers with
  | none => rfl
  | some value => rfl

/-- The kept items are items. -/
theorem hasObject_unique : (Value.array (unique items)).hasObject = false := by
  refine hasObject_array_of_subset h fun item hitem => ?_
  rw [unique_eq_map_firstPlaces] at hitem
  obtain ⟨place, -, rfl⟩ := List.mem_map.1 hitem
  exact List.get_mem items place

/-- Sorted items are items. -/
theorem sort_spares : Spares (fun value => value.hasObject = false) (sort items) := by
  unfold sort
  split
  · exact hasObject_array_of_subset h (List.mergeSort_perm items sortsBefore).subset
  · exact rfl

/-- An item that is there, or null in its place, holds no object. -/
theorem hasObject_getD {item : Option Value} (hitem : ∀ value ∈ item, value ∈ items) :
    (item.getD .null).hasObject = false := by
  cases item with
  | none => rfl
  | some value => exact h value (hitem value rfl)

/-- A method of an array without objects gives a value without objects. -/
theorem arrayMethod_spares (method : String) {args : List Value}
    (hargs : ∀ arg ∈ args, arg.hasObject = false) :
    Spares (fun value => value.hasObject = false) (arrayMethod items method args) := by
  unfold arrayMethod
  split
  · exact rfl
  · exact rfl
  · exact hasObject_getD h fun _ => List.mem_of_mem_head?
  · exact hasObject_getD h fun _ => List.mem_of_mem_getLast?
  · exact (numbers_spares h _).map fun _ => rfl
  · exact (numbers_spares h _).map fun _ => hasObject_extremeValue _ _
  · exact (numbers_spares h _).map fun _ => hasObject_extremeValue _ _
  · exact hasObject_array_of_subset h (List.reverse_subset.2 (List.Subset.refl _))
  · exact hasObject_unique h
  · exact sort_spares h
  · exact (firstArgument_spares hargs _).map fun _ => rfl
  · split
    · exact rfl
    · exact (stringArgument_spares hargs _).map fun _ => rfl
  · exact rfl

end Arrays

/-- A list of strings holds no object. -/
theorem hasObject_ofTexts (texts : List (List Char)) : (ofTexts texts).hasObject = false := by
  refine hasObject_array_eq_false_iff.2 fun item hitem => ?_
  obtain ⟨text, -, rfl⟩ := List.mem_map.1 hitem
  rfl

/-- Whether a pattern occurs is no object. -/
theorem matchesPattern_spares (text pattern : List Char) :
    Spares (fun value => value.hasObject = false) (matchesPattern text pattern) := by
  unfold matchesPattern
  split
  · exact rfl
  · exact rfl

/-- A method of a string gives a value without objects. -/
theorem stringMethod_spares (text : List Char) (method : String) {args : List Value}
    (hargs : ∀ arg ∈ args, arg.hasObject = false) :
    Spares (fun value => value.hasObject = false) (stringMethod text method args) := by
  unfold stringMethod
  split
  · exact rfl
  · exact rfl
  · exact rfl
  · exact rfl
  · exact (stringArgument_spares hargs _).map fun _ => rfl
  · exact (stringArgument_spares hargs _).map fun _ => rfl
  · exact (stringArgument_spares hargs _).map fun _ => rfl
  · exact (stringArgument_spares hargs _).map fun _ => hasObject_ofTexts _
  · exact (stringArgument_spares hargs _).bind fun pattern _ => matchesPattern_spares text pattern
  · exact rfl

/-- A method of a value without objects gives one. -/
theorem invoke_spares {receiver : Value} (h : receiver.hasObject = false) (method : String)
    {args : List Value} (hargs : ∀ arg ∈ args, arg.hasObject = false) :
    Spares (fun value => value.hasObject = false) (receiver.invoke method args) := by
  unfold invoke
  split
  · exact rfl
  · cases receiver with
    | array items => exact arrayMethod_spares (hasObject_array_eq_false_iff.1 h) method hargs
    | string text => exact stringMethod_spares text.toList method hargs
    | object entries => cases h
    | _ => exact rfl

end Value

end HostScript

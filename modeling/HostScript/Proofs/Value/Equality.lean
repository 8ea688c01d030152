import HostScript.Proofs.Binary64.Ordering
import HostScript.Proofs.Value.Text
import HostScript.Value.Methods

/-!
# Equality of values

Two values are equal if they hold no number that is not a number and are the same without the signs
of zeros (`equals_iff`). Everything that a program sees of a value is the same for the value without
the signs of zeros, so equal values cannot be told apart by what they show. Read `equals_respects`
first.
-/

namespace HostScript.Value

variable {left middle right value : Value}

/-! ## The form that equality compares -/

mutual

/-- Whether a value that is not a number occurs anywhere inside a value. -/
def hasNaN : Value → Bool
  | .number value => value.isNaN
  | .array items => listHasNaN items
  | .object entries => entriesHaveNaN entries
  | _ => false

/-- Whether it occurs inside one of some values. -/
def listHasNaN : List Value → Bool
  | [] => false
  | item :: items => hasNaN item || listHasNaN items

/-- Whether it occurs inside the value of one of some entries. -/
def entriesHaveNaN : List (String × Value) → Bool
  | [] => false
  | (_, value) :: entries => hasNaN value || entriesHaveNaN entries

end

/-- A list holds no NaN if none of its items does. -/
theorem listHasNaN_eq_false_iff {items : List Value} :
    listHasNaN items = false ↔ ∀ item ∈ items, item.hasNaN = false := by
  induction items with
  | nil => simp [listHasNaN]
  | cons item items ih => simp [listHasNaN, ih]

mutual

/-- The value with the positive zero for each zero inside it. -/
def unsignZeros : Value → Value
  | .null => .null
  | .boolean value => .boolean value
  | .number value => .number value.unsignZero
  | .string value => .string value
  | .array items => .array (listUnsignZeros items)
  | .object entries => .object (entriesUnsignZeros entries)

/-- Some values with positive zeros. -/
def listUnsignZeros : List Value → List Value
  | [] => []
  | item :: items => unsignZeros item :: listUnsignZeros items

/-- Some entries with positive zeros. -/
def entriesUnsignZeros : List (String × Value) → List (String × Value)
  | [] => []
  | (key, value) :: entries => (key, unsignZeros value) :: entriesUnsignZeros entries

end

mutual

/-- Equality compares the forms without signs of zeros, and holds of no value that is not a
number. -/
theorem equals_iff : ∀ left right : Value, left.equals right = true ↔
    left.hasNaN = false ∧ left.unsignZeros = right.unsignZeros
  | .null, right => by cases right <;> simp [equals, hasNaN, unsignZeros]
  | .boolean value, right => by cases right <;> simp [equals, hasNaN, unsignZeros]
  | .number value, right => by
      cases right <;> simp [equals, hasNaN, unsignZeros, Binary64.equals_iff_unsignZero_eq]
  | .string value, right => by cases right <;> simp [equals, hasNaN, unsignZeros]
  | .array items, right => by
      cases right <;> simp [equals, hasNaN, unsignZeros, listEquals_iff items]
  | .object entries, right => by
      cases right <;> simp [equals, hasNaN, unsignZeros, entriesEqual_iff entries]

/-- Lists are equal if neither holds a NaN and they are the same up to the signs of zeros. -/
theorem listEquals_iff : ∀ lefts rights : List Value, listEquals lefts rights = true ↔
    listHasNaN lefts = false ∧ listUnsignZeros lefts = listUnsignZeros rights
  | [], rights => by cases rights <;> simp [listEquals, listHasNaN, listUnsignZeros]
  | item :: items, rights => by
      cases rights with
      | nil => simp [listEquals, listUnsignZeros]
      | cons other others =>
          simp only [listEquals, listHasNaN, listUnsignZeros, Bool.and_eq_true,
            Bool.or_eq_false_iff, List.cons.injEq, equals_iff item other,
            listEquals_iff items others]
          tauto

/-- Entries are equal if neither hold a NaN and they are the same up to the signs of zeros. -/
theorem entriesEqual_iff : ∀ lefts rights : List (String × Value),
    entriesEqual lefts rights = true ↔
      entriesHaveNaN lefts = false ∧ entriesUnsignZeros lefts = entriesUnsignZeros rights
  | [], rights => by cases rights <;> simp [entriesEqual, entriesHaveNaN, entriesUnsignZeros]
  | (key, value) :: entries, rights => by
      cases rights with
      | nil => simp [entriesEqual, entriesUnsignZeros]
      | cons other others =>
          obtain ⟨otherKey, otherValue⟩ := other
          simp only [entriesEqual, entriesHaveNaN, entriesUnsignZeros, Bool.and_eq_true, beq_iff_eq,
            Bool.or_eq_false_iff, List.cons.injEq, Prod.mk.injEq, equals_iff value otherValue,
            entriesEqual_iff entries others]
          tauto

end

mutual

/-- The sign of zero is not what makes a value not a number. -/
theorem hasNaN_unsignZeros : ∀ value : Value, value.unsignZeros.hasNaN = value.hasNaN
  | .null => rfl
  | .boolean _ => rfl
  | .number value => Binary64.apply_unsignZero Binary64.isNaN rfl value
  | .string _ => rfl
  | .array items => by rw [unsignZeros, hasNaN, hasNaN, listHasNaN_unsignZeros items]
  | .object entries => by rw [unsignZeros, hasNaN, hasNaN, entriesHaveNaN_unsignZeros entries]

/-- In a list too, taking the signs of zeros away leaves every NaN. -/
theorem listHasNaN_unsignZeros : ∀ items : List Value,
    listHasNaN (listUnsignZeros items) = listHasNaN items
  | [] => rfl
  | item :: items => by
      rw [listUnsignZeros, listHasNaN, listHasNaN, hasNaN_unsignZeros item,
        listHasNaN_unsignZeros items]

/-- In entries too, taking the signs of zeros away leaves every NaN. -/
theorem entriesHaveNaN_unsignZeros : ∀ entries : List (String × Value),
    entriesHaveNaN (entriesUnsignZeros entries) = entriesHaveNaN entries
  | [] => rfl
  | (key, value) :: entries => by
      rw [entriesUnsignZeros, entriesHaveNaN, entriesHaveNaN, hasNaN_unsignZeros value,
        entriesHaveNaN_unsignZeros entries]

end

/-! ## A partial equivalence -/

/-- A value equals every value that equals it. -/
theorem equals_symm (h : left.equals right = true) : right.equals left = true := by
  obtain ⟨hnumbers, hsame⟩ := (equals_iff left right).1 h
  have hother : right.hasNaN = false := by
    rw [← hasNaN_unsignZeros, ← hsame, hasNaN_unsignZeros, hnumbers]
  exact (equals_iff right left).2 ⟨hother, hsame.symm⟩

/-- Which of two values is asked for the other makes no difference. -/
theorem equals_comm (left right : Value) : left.equals right = right.equals left :=
  Bool.eq_iff_iff.2 ⟨equals_symm, equals_symm⟩

/-- Values that equal a third value on either side are equal. -/
theorem equals_trans (h : left.equals middle = true) (h' : middle.equals right = true) :
    left.equals right = true := by
  obtain ⟨hnumbers, hsame⟩ := (equals_iff left middle).1 h
  obtain ⟨-, hother⟩ := (equals_iff middle right).1 h'
  exact (equals_iff left right).2 ⟨hnumbers, hsame.trans hother⟩

/-- A value that holds what is not a number does not even equal itself. -/
theorem equals_self_iff (value : Value) : value.equals value = true ↔ value.hasNaN = false := by
  rw [equals_iff]
  exact and_iff_left rfl

/-- What holds something that is not a number equals nothing. -/
theorem hasNaN_eq_false_of_equals (h : left.equals right = true) : left.hasNaN = false :=
  ((equals_iff left right).1 h).1

/-! ## What a value shows -/

/-- The items of a list lose the signs of their zeros one by one. -/
theorem listUnsignZeros_eq_map (items : List Value) :
    listUnsignZeros items = items.map unsignZeros := by
  induction items with
  | nil => rfl
  | cons item items ih => rw [listUnsignZeros, List.map_cons, ih]

/-- Entries keep their keys, and their values lose the signs of zeros one by one. -/
theorem entriesUnsignZeros_eq_map (entries : List (String × Value)) :
    entriesUnsignZeros entries = entries.map fun entry => (entry.1, entry.2.unsignZeros) := by
  induction entries with
  | nil => rfl
  | cons entry entries ih => rw [entriesUnsignZeros, List.map_cons, ih]

/-- A value without the signs of its zeros is of the same kind. -/
theorem kind_unsignZeros (value : Value) : value.unsignZeros.kind = value.kind := by
  cases value <;> rfl

/-- The sign of a zero does not decide a condition. -/
theorem isTruthy_unsignZeros (value : Value) : value.unsignZeros.isTruthy = value.isTruthy := by
  cases value with
  | number value =>
      exact Binary64.apply_unsignZero (fun number => !number.isZero && !number.isNaN) rfl value
  | _ => rfl

mutual

/-- The JSON tree of a value does not show the sign of zero. -/
theorem toJson_unsignZeros : ∀ value : Value, value.unsignZeros.toJson = value.toJson
  | .null => rfl
  | .boolean _ => rfl
  | .number value => ofBinary64_unsignZero value
  | .string _ => rfl
  | .array items => by rw [unsignZeros, toJson, toJson, listToJson_unsignZeros items]
  | .object entries => by rw [unsignZeros, toJson, toJson, entriesToJson_unsignZeros entries]

/-- Lists that differ in the signs of zeros only are written alike. -/
theorem listToJson_unsignZeros : ∀ items : List Value,
    listToJson (listUnsignZeros items) = listToJson items
  | [] => rfl
  | item :: items => by
      rw [listUnsignZeros, listToJson, listToJson, toJson_unsignZeros item,
        listToJson_unsignZeros items]

/-- Entries that differ in the signs of zeros only are written alike. -/
theorem entriesToJson_unsignZeros : ∀ entries : List (String × Value),
    entriesToJson (entriesUnsignZeros entries) = entriesToJson entries
  | [] => rfl
  | (key, value) :: entries => by
      rw [entriesUnsignZeros, entriesToJson, entriesToJson, toJson_unsignZeros value,
        entriesToJson_unsignZeros entries]

end

/-- Values that differ in the signs of zeros only have one text. -/
theorem text_unsignZeros (value : Value) : value.unsignZeros.text = value.text := by
  rw [text, text, ← write_toJson _ 0, ← write_toJson _ 0, toJson_unsignZeros]

/-- Values that differ in the signs of zeros only are joined alike. -/
theorem joinText_unsignZeros (value : Value) : value.unsignZeros.joinText = value.joinText := by
  cases value with
  | string value => rfl
  | _ => exact text_unsignZeros _

/-- A property of a value without signs of zeros is the property without them. -/
theorem property_unsignZeros (value : Value) (name : String) :
    value.unsignZeros.property name = unsignZeros <$> value.property name := by
  cases value with
  | array items =>
      by_cases hname : name = "length"
      · subst hname
        show Except.ok _ = Except.ok (Value.number (Binary64.unsignZero _))
        rw [Binary64.unsignZero_ofNat, listUnsignZeros_eq_map, List.length_map]
      · simp [unsignZeros, property, hname, kind]
  | string text =>
      by_cases hname : name = "length"
      · subst hname
        show Except.ok _ = Except.ok (Value.number (Binary64.unsignZero _))
        rw [Binary64.unsignZero_ofNat]
      · simp [unsignZeros, property, hname]
  | object entries =>
      show Except.ok _ = Except.ok _
      rw [entriesUnsignZeros_eq_map, Entries.lookup_map (fun _ => unsignZeros)]
      cases entries.lookup name <;> rfl
  | _ => rfl

/-- The value of a key occurs inside the entries. -/
theorem hasNaN_of_lookup {entries : List (String × Value)} {name : String}
    (h : entriesHaveNaN entries = false) (hfound : entries.lookup name = some value) :
    value.hasNaN = false := by
  induction entries with
  | nil => cases hfound
  | cons entry entries ih =>
      obtain ⟨key, first⟩ := entry
      obtain ⟨hfirst, hothers⟩ := Bool.or_eq_false_iff.1 h
      rw [Entries.lookup_cons] at hfound
      split at hfound
      · exact Option.some.inj hfound ▸ hfirst
      · exact ih hothers hfound

/-- A property of a value holds nothing that the value does not hold. -/
theorem hasNaN_of_property {result : Value} {name : String} (h : value.hasNaN = false)
    (hread : value.property name = .ok result) : result.hasNaN = false := by
  unfold property at hread
  split at hread
  · rename_i entries
    cases hread
    cases hfound : entries.lookup name with
    | none => rfl
    | some found => exact hasNaN_of_lookup h hfound
  · cases hread
    exact Binary64.isNaN_ofNat _
  · cases hread
    exact Binary64.isNaN_ofNat _
  · cases hread

/-- Equal values, or the same error. -/
def ResultsEqual : Except RunError Value → Except RunError Value → Prop
  | .ok left, .ok right => left.equals right = true
  | .error left, .error right => left = right
  | _, _ => False

/-- Equal values have equal properties. -/
theorem property_of_equals (h : left.equals right = true) (name : String) :
    ResultsEqual (left.property name) (right.property name) := by
  obtain ⟨hnumbers, hsame⟩ := (equals_iff left right).1 h
  have hproperty : unsignZeros <$> left.property name = unsignZeros <$> right.property name := by
    rw [← property_unsignZeros, hsame, property_unsignZeros]
  cases hleft : left.property name with
  | ok result =>
      cases hright : right.property name with
      | ok other =>
          rw [hleft, hright] at hproperty
          exact (equals_iff result other).2
            ⟨hasNaN_of_property hnumbers hleft, Except.ok.inj hproperty⟩
      | error error =>
          rw [hleft, hright] at hproperty
          cases hproperty
  | error error =>
      cases hright : right.property name with
      | ok other =>
          rw [hleft, hright] at hproperty
          cases hproperty
      | error other =>
          rw [hleft, hright] at hproperty
          exact Except.error.inj hproperty

/-- What joining takes of an item does not depend on the sign of zero. -/
theorem join_unsignZeros (separator : List Char) (before after : List Value) (value : Value) :
    join separator (before ++ value.unsignZeros :: after) =
      join separator (before ++ value :: after) := by
  simp only [join, List.map_append, List.map_cons, joinText_unsignZeros]

/-- Equality is symmetric and transitive, and reflexive on the values without what is not a number.
Equal values have the same kind, the same truth, the same text, also where they are joined to
others, and equal properties. -/
theorem equals_respects (left middle right : Value) :
    (left.equals right = true → right.equals left = true) ∧
    (left.equals middle = true → middle.equals right = true → left.equals right = true) ∧
    (left.equals left = true ↔ left.hasNaN = false) ∧
    (left.equals right = true →
      left.kind.name = right.kind.name ∧ left.isTruthy = right.isTruthy ∧ left.text = right.text ∧
      (∀ before after args, (Value.array (before ++ left :: after)).invoke "join" args =
        (Value.array (before ++ right :: after)).invoke "join" args) ∧
      ∀ name, ResultsEqual (left.property name) (right.property name)) := by
  refine ⟨equals_symm, equals_trans, equals_self_iff left, fun h => ?_⟩
  have hsame := ((equals_iff left right).1 h).2
  refine ⟨?_, ?_, ?_, fun before after args => ?_, property_of_equals h⟩
  · rw [← kind_unsignZeros left, hsame, kind_unsignZeros]
  · rw [← isTruthy_unsignZeros left, hsame, isTruthy_unsignZeros]
  · rw [← text_unsignZeros left, hsame, text_unsignZeros]
  · have hjoin : ∀ separator, join separator (before ++ left :: after) =
        join separator (before ++ right :: after) := fun separator => by
      rw [← join_unsignZeros, hsame, join_unsignZeros]
    simp only [invoke_array (show "join" ≠ "type" by decide), arrayMethod, hjoin]

/-- The two zeros are equal deep inside of values and cannot be told apart there, and what is not a
number makes an array differ from itself. -/
theorem equals_respects_zeros :
    let left : Value := .object [("a", .array [.number (.zero true), .string "x"])]
    let right : Value := .object [("a", .array [.number (.zero false), .string "x"])]
    let spoiled : Value := .array [left, .number (.nan true)]
    left ≠ right ∧ left.equals right = true ∧ right.equals left = true ∧
    left.text = right.text ∧ ResultsEqual (left.property "a") (right.property "a") ∧
    spoiled.equals spoiled ≠ true := by
  intro left right spoiled
  have hequal : left.equals right = true := by decide
  obtain ⟨hsymm, -, -, hshown⟩ := equals_respects left right right
  obtain ⟨-, -, htext, -, hproperty⟩ := hshown hequal
  obtain ⟨-, -, hself, -⟩ := equals_respects spoiled spoiled spoiled
  refine ⟨by simp [left, right, Binary64.zero], hequal, hsymm hequal, htext, hproperty "a", ?_⟩
  rw [Ne, hself]
  decide

end HostScript.Value

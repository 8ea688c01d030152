import HostScript.Proofs.Binary64.Ordering
import HostScript.Value.Methods
import HostScript.Value.Operators
import Mathlib.Data.List.Induction

/-!
# The smallest and the largest number of an array

Going through the numbers from left to right and keeping the better one of two ends at the leftmost
number that none of all the numbers beats (`ExtremeMethod.exists_leftmost`), unless the first item
is not a number, which nothing beats (`extreme_of_isNaN`). Two numbers of an array that none beats
are equal (`ExtremeMethod.equals_of_unbeaten`).
-/

namespace HostScript.Value

/-- The methods for the extremes of an array, each with the operator that holds between a better
item and another one, and the order that the operator stands for. -/
inductive ExtremeMethod : String → Operator → Ordering → Prop where
  | min : ExtremeMethod "min" .less .lt
  | max : ExtremeMethod "max" .greater .gt

/-- A number for which the operator holds between no item and the number. -/
def Unbeaten (operator : Operator) (items : List Binary64) (number : Binary64) : Prop :=
  number.isNaN = false ∧
    ∀ other ∈ items, operator.apply (.number other) (.number number) ≠ .ok (.boolean true)

/-- The first one of the numbers of a list that are not beaten. -/
def LeftmostUnbeaten (operator : Operator) (items : List Binary64) (best : Binary64) : Prop :=
  ∃ before after, items = before ++ best :: after ∧ Unbeaten operator items best ∧
    ∀ earlier ∈ before, ¬ Unbeaten operator items earlier

variable {method : String} {operator : Operator} {wanted : Ordering}

/-- The operator of a method holds if the numbers stand in the order that it stands for. -/
theorem ExtremeMethod.apply_iff (h : ExtremeMethod method operator wanted) (left right : Binary64) :
    operator.apply (.number left) (.number right) = .ok (.boolean true) ↔
      left.compare? right = some wanted := by
  cases h <;>
    simp only [Operator.apply, Operator.ordering, compare?, Except.ok.injEq, boolean.injEq,
      Option.any_eq_true] <;>
    grind [Ordering.isLT, Ordering.isGT]

/-- What is better than a better number is better. -/
theorem ExtremeMethod.beats_trans (h : ExtremeMethod method operator wanted)
    {left middle right : Binary64} (hleft : left.compare? middle = some wanted)
    (hright : middle.compare? right = some wanted) : left.compare? right = some wanted := by
  rw [Binary64.compare?_eq_some_iff] at hleft hright ⊢
  obtain ⟨first, second, hfirst, hsecond, hbetter⟩ := hleft
  obtain ⟨other, third, hother, hthird, hnext⟩ := hright
  obtain rfl : second = other := Option.some.inj (hsecond.symm.trans hother)
  refine ⟨first, third, hfirst, hthird, ?_⟩
  cases h <;> simp only [Int.compare_eq_lt, Int.compare_eq_gt] at hbetter hnext ⊢ <;> omega

/-- What is better than a number is better than each number that is not. -/
theorem ExtremeMethod.beats_of_not_beats (h : ExtremeMethod method operator wanted)
    {left middle right : Binary64} (hleft : left.compare? middle = some wanted)
    (hnumber : right.isNaN = false) (hright : right.compare? middle ≠ some wanted) :
    left.compare? right = some wanted := by
  obtain ⟨first, second, hfirst, hsecond, hbetter⟩ := Binary64.compare?_eq_some_iff.1 hleft
  obtain ⟨third, hthird⟩ := Binary64.exists_position?_iff.2 hnumber
  have hnot : compare third second ≠ wanted := fun hcompare =>
    hright (Binary64.compare?_eq_some_iff.2 ⟨third, second, hthird, hsecond, hcompare⟩)
  refine Binary64.compare?_eq_some_iff.2 ⟨first, third, hfirst, hthird, ?_⟩
  cases h <;> simp only [ne_eq, Int.compare_eq_lt, Int.compare_eq_gt] at hbetter hnot ⊢ <;> omega

/-- No number beats itself. -/
theorem ExtremeMethod.not_beats_self (h : ExtremeMethod method operator wanted)
    (number : Binary64) : number.compare? number ≠ some wanted := by
  intro hself
  obtain ⟨first, second, hfirst, hsecond, hbetter⟩ := Binary64.compare?_eq_some_iff.1 hself
  obtain rfl : first = second := Option.some.inj (hfirst.symm.trans hsecond)
  cases h <;> simp only [Int.compare_eq_lt, Int.compare_eq_gt] at hbetter <;> omega

/-- A number is unbeaten if it is no NaN and no item compares as better. -/
theorem ExtremeMethod.unbeaten_iff (h : ExtremeMethod method operator wanted)
    {items : List Binary64} {number : Binary64} : Unbeaten operator items number ↔
      number.isNaN = false ∧ ∀ other ∈ items, other.compare? number ≠ some wanted := by
  simp only [Unbeaten, ne_eq, h.apply_iff]

/-- Two items that are not beaten are equal. -/
theorem ExtremeMethod.equals_of_unbeaten (h : ExtremeMethod method operator wanted)
    {items : List Binary64} {best other : Binary64} (hbest : best ∈ items) (hother : other ∈ items)
    (hbestUnbeaten : Unbeaten operator items best)
    (hotherUnbeaten : Unbeaten operator items other) : best.equals other = true := by
  obtain ⟨hbestNumber, hbeatsBest⟩ := h.unbeaten_iff.1 hbestUnbeaten
  obtain ⟨hotherNumber, hbeatsOther⟩ := h.unbeaten_iff.1 hotherUnbeaten
  obtain ⟨first, hfirst⟩ := Binary64.exists_position?_iff.2 hbestNumber
  obtain ⟨second, hsecond⟩ := Binary64.exists_position?_iff.2 hotherNumber
  have hnotFirst : compare second first ≠ wanted := fun hcompare =>
    hbeatsBest other hother (Binary64.compare?_eq_some_iff.2 ⟨_, _, hsecond, hfirst, hcompare⟩)
  have hnotSecond : compare first second ≠ wanted := fun hcompare =>
    hbeatsOther best hbest (Binary64.compare?_eq_some_iff.2 ⟨_, _, hfirst, hsecond, hcompare⟩)
  obtain rfl : first = second := by
    cases h <;> simp only [ne_eq, Int.compare_eq_lt, Int.compare_eq_gt] at hnotFirst hnotSecond <;>
      omega
  exact Binary64.equals_iff.2 ⟨first, hfirst, hsecond⟩

/-! ## The fold -/

/-- One step: the last item takes the place of the kept one if it beats it. -/
theorem extreme_concat (wanted : Ordering) {items : List Binary64} {best : Binary64}
    (hbest : extreme wanted items = some best) (item : Binary64) :
    extreme wanted (items ++ [item]) =
      some (if item.compare? best = some wanted then item else best) := by
  cases items with
  | nil => cases hbest
  | cons first items =>
      rw [← Option.some.inj hbest, List.cons_append, extreme, List.foldl_append]
      rfl

/-- An item that does not beat the leftmost unbeaten one changes nothing. -/
theorem LeftmostUnbeaten.keep (h : ExtremeMethod method operator wanted) {items : List Binary64}
    {best item : Binary64} (hbest : LeftmostUnbeaten operator items best)
    (hitem : item.compare? best ≠ some wanted) :
    LeftmostUnbeaten operator (items ++ [item]) best := by
  obtain ⟨before, after, rfl, ⟨hnumber, hunbeaten⟩, hbefore⟩ := hbest
  refine ⟨before, after ++ [item], by simp, ⟨hnumber, fun other hother => ?_⟩,
    fun earlier hearlier hother => hbefore earlier hearlier
      ⟨hother.1, fun other hmember => hother.2 other (List.mem_append_left _ hmember)⟩⟩
  rcases List.mem_append.1 hother with hold | hnew
  · exact hunbeaten other hold
  · rw [List.mem_singleton.1 hnew, Ne, h.apply_iff]
    exact hitem

/-- An item that beats the leftmost unbeaten one beats all items before it. -/
theorem LeftmostUnbeaten.replace (h : ExtremeMethod method operator wanted) {items : List Binary64}
    {best item : Binary64} (hbest : LeftmostUnbeaten operator items best)
    (hitem : item.compare? best = some wanted) :
    LeftmostUnbeaten operator (items ++ [item]) item := by
  obtain ⟨-, -, -, hunbeaten, -⟩ := hbest
  obtain ⟨hnumber, hunbeaten⟩ := h.unbeaten_iff.1 hunbeaten
  refine ⟨items, [], rfl, h.unbeaten_iff.2 ⟨?_, fun other hother hbeats => ?_⟩, ?_⟩
  · obtain ⟨position, -, hposition, -⟩ := Binary64.compare?_eq_some_iff.1 hitem
    exact Binary64.exists_position?_iff.1 ⟨position, hposition⟩
  · rcases List.mem_append.1 hother with hold | hnew
    · exact hunbeaten other hold (h.beats_trans hbeats hitem)
    · rw [List.mem_singleton.1 hnew] at hbeats
      exact h.not_beats_self item hbeats
  · intro earlier hearlier hother
    obtain ⟨hearlierNumber, hearlierUnbeaten⟩ := h.unbeaten_iff.1 hother
    exact hearlierUnbeaten item (by simp)
      (h.beats_of_not_beats hitem hearlierNumber (hunbeaten earlier hearlier))

/-- The whole run: if the first item is a number, the leftmost unbeaten number is kept. -/
theorem ExtremeMethod.exists_leftmost (h : ExtremeMethod method operator wanted)
    {first : Binary64} (hfirst : first.isNaN = false) (items : List Binary64) :
    ∃ best, extreme wanted (first :: items) = some best ∧
      LeftmostUnbeaten operator (first :: items) best := by
  induction items using List.reverseRecOn with
  | nil =>
      refine ⟨first, rfl, [], [], rfl, h.unbeaten_iff.2 ⟨hfirst, fun other hother => ?_⟩, by simp⟩
      rw [List.mem_singleton.1 hother]
      exact h.not_beats_self first
  | append_singleton items item ih =>
      obtain ⟨best, hbest, hleftmost⟩ := ih
      refine ⟨_, extreme_concat wanted hbest item, ?_⟩
      split
      · next hbeats => exact hleftmost.replace h hbeats
      · next hbeats => exact hleftmost.keep h hbeats

/-- What is not a number is kept from the start to the end, since nothing beats it. -/
theorem extreme_of_isNaN (wanted : Ordering) {first : Binary64} (hfirst : first.isNaN = true)
    (items : List Binary64) : extreme wanted (first :: items) = some first := by
  have hposition : first.position? = none := by
    obtain ⟨negative, rank, rfl⟩ := Binary64.exists_eq_nan hfirst
    rfl
  induction items using List.reverseRecOn with
  | nil => rfl
  | append_singleton items item ih =>
      have hnot : item.compare? first ≠ some wanted := by
        intro hbeats
        obtain ⟨_, position, -, hsome, -⟩ := Binary64.compare?_eq_some_iff.1 hbeats
        rw [hposition] at hsome
        cases hsome
      rw [← List.cons_append, extreme_concat wanted ih, if_neg hnot]

/-! ## The methods -/

/-- A list of numbers is read as these numbers. -/
theorem numbers_map_number (method : String) (values : List Binary64) :
    numbers method (values.map .number) = .ok values := by
  induction values with
  | nil => rfl
  | cons value values ih =>
      rw [List.map_cons, numbers, ih]
      rfl

/-- The first item that is no number is the one that the error tells the kind of. -/
theorem numbers_of_not_number (method : String) (values : List Binary64) {item : Value}
    (hitem : item.kind ≠ .number) (others : List Value) :
    numbers method (values.map .number ++ item :: others) =
      .error (.methodArgument method (.notNumeric item.kind)) := by
  induction values with
  | nil =>
      cases item with
      | number value => exact absurd rfl hitem
      | _ => rfl
  | cons value values ih =>
      rw [List.map_cons, List.cons_append, numbers, ih]
      rfl

/-- An extreme is taken of the numbers of an array, if all items are numbers. -/
theorem ExtremeMethod.invoke_eq (h : ExtremeMethod method operator wanted)
    (items args : List Value) : (Value.array items).invoke method args =
      (do return extremeValue wanted (← numbers method items)) := by
  cases h with
  | min => exact invoke_array (by decide) items args
  | max => exact invoke_array (by decide) items args

/-- An array of numbers has an extreme. -/
theorem ExtremeMethod.invoke_numbers (h : ExtremeMethod method operator wanted)
    (values : List Binary64) (args : List Value) :
    (Value.array (values.map .number)).invoke method args = .ok (extremeValue wanted values) := by
  rw [h.invoke_eq, numbers_map_number]
  rfl

/-- Whatever number of an array is not beaten, the method gives an equal one. -/
theorem ExtremeMethod.invoke_equals (h : ExtremeMethod method operator wanted)
    {values : List Binary64} (hnumbers : ∀ value ∈ values, value.isNaN = false) {bound : Binary64}
    (hbound : bound ∈ values) (hunbeaten : Unbeaten operator values bound) (args : List Value) :
    ∃ best, (Value.array (values.map .number)).invoke method args = .ok best ∧
      best.equals (.number bound) = true := by
  cases values with
  | nil => cases hbound
  | cons first values =>
      obtain ⟨best, hextreme, before, after, hplace, hbest, -⟩ :=
        h.exists_leftmost (hnumbers first List.mem_cons_self) values
      have hmember : best ∈ first :: values := hplace ▸ by simp
      refine ⟨.number best, ?_, h.equals_of_unbeaten hmember hbound hbest hunbeaten⟩
      rw [h.invoke_numbers, extremeValue, hextreme]
      rfl

/-- The first item that is no number is the one that the error tells of. -/
theorem ExtremeMethod.invoke_not_numbers (h : ExtremeMethod method operator wanted)
    (values : List Binary64) {item : Value} (hitem : item.kind ≠ .number)
    (others args : List Value) :
    (Value.array (values.map .number ++ item :: others)).invoke method args =
      .error (.methodArgument method (.notNumeric item.kind)) := by
  rw [h.invoke_eq, numbers_of_not_number method values hitem]
  rfl

end HostScript.Value

import HostScript.Proofs.Value.Equality
import HostScript.Proofs.Value.Extremes
import Mathlib.Data.List.Sort
import Mathlib.Data.Set.List
import Mathlib.Data.String.Basic

/-!
# Sorting

Numbers are sorted by the total order of doubles and strings by their code points. No two different
values are tied in these orders, so the result depends on the items alone and not on their order
(`mergeSort_eq_of_perm`). Without what is not a number the sorted items are in the order of the
operator `<=`, and their ends equal the extremes. Read `sort_agrees_with_extremes` first.
-/

namespace HostScript.Value

variable {left middle right : Value}

/-! ## The order of sorted items -/

/-- Two numbers in the total order, or two strings in the order of their code points. -/
inductive InOrder : Value → Value → Prop where
  | numbers {left right : Binary64} (h : left.TotalOrder right) :
      InOrder (.number left) (.number right)
  | strings {left right : String}
      (h : left.toList.map Char.toNat ≤ right.toList.map Char.toNat) :
      InOrder (.string left) (.string right)

/-- The items are all of one kind. -/
def AllOf (kind : Kind) (items : List Value) : Prop :=
  ∀ item ∈ items, item.kind = kind

/-- Items are of one kind in every order. -/
theorem AllOf.of_perm {kind : Kind} {items others : List Value} (h : AllOf kind items)
    (hothers : others.Perm items) : AllOf kind others :=
  fun item hitem => h item (hothers.mem_iff.1 hitem)

/-- The order of texts is the lexicographic one of their code points. -/
theorem codePoints_strictMono : StrictMono fun text : List Char => text.map Char.toNat :=
  fun _ _ h => List.map_lt (fun _ _ hchar => hchar) h

/-- Strings are ordered by their code points. -/
theorem le_iff_codePoints_le {left right : String} :
    left ≤ right ↔ left.toList.map Char.toNat ≤ right.toList.map Char.toNat :=
  String.le_iff_toList_le.trans codePoints_strictMono.le_iff_le.symm

/-- Values that are in order either way round are the same. -/
theorem InOrder.antisymm (h : InOrder left right) (h' : InOrder right left) : left = right := by
  cases h with
  | numbers h =>
      cases h' with
      | numbers h' => rw [h.antisymm h']
  | strings h =>
      cases h' with
      | strings h' => rw [le_antisymm (le_iff_codePoints_le.2 h) (le_iff_codePoints_le.2 h')]

/-- Numbers are sorted by the total order. -/
theorem sortsBefore_number {left right : Binary64} :
    sortsBefore (.number left) (.number right) = true ↔ left.TotalOrder right := by
  rw [sortsBefore, bne_iff_ne, Binary64.totalOrder_ne_gt_iff]

/-- Strings are sorted by the order of their code points. -/
theorem sortsBefore_string {left right : String} :
    sortsBefore (.string left) (.string right) = true ↔ left ≤ right :=
  decide_eq_true_iff

/-- Sorting items that are made from other data sorts the data. -/
theorem exists_sorted {α : Type} {f : α → Value} {order : α → α → Prop}
    (horder : ∀ first second, sortsBefore (f first) (f second) = true ↔ order first second)
    (htrans : ∀ first second third, order first second → order second third → order first third)
    (htotal : ∀ first second, order first second ∨ order second first) (data : List α) :
    ∃ sorted : List α, (data.map f).mergeSort sortsBefore = sorted.map f ∧ sorted.Perm data ∧
      sorted.Pairwise order := by
  let before (first second : α) : Bool := sortsBefore (f first) (f second)
  have hmap : (data.mergeSort before).map f = (data.map f).mergeSort sortsBefore :=
    List.map_mergeSort fun _ _ _ _ => rfl
  refine ⟨data.mergeSort before, hmap.symm, List.mergeSort_perm data before, ?_⟩
  refine (List.pairwise_mergeSort ?_ ?_ data).imp fun h => (horder _ _).1 h
  · intro first second third
    rw [horder, horder, horder]
    exact htrans first second third
  · intro first second
    rw [Bool.or_eq_true, horder, horder]
    exact htotal first second

/-- Sorted numbers are a permutation in the total order. -/
theorem exists_sorted_numbers (values : List Binary64) : ∃ sorted : List Binary64,
    (values.map Value.number).mergeSort sortsBefore = sorted.map .number ∧ sorted.Perm values ∧
      sorted.Pairwise Binary64.TotalOrder :=
  exists_sorted (fun _ _ => sortsBefore_number) (fun _ _ _ => .trans) Binary64.TotalOrder.total
    values

/-- Sorted strings are a permutation in the order of code points. -/
theorem exists_sorted_strings (texts : List String) : ∃ sorted : List String,
    (texts.map Value.string).mergeSort sortsBefore = sorted.map .string ∧ sorted.Perm texts ∧
      sorted.Pairwise (· ≤ ·) :=
  exists_sorted (fun _ _ => sortsBefore_string) (fun _ _ _ => le_trans) le_total texts

/-- A value of the kind of numbers is a number. -/
theorem mem_range_number {value : Value} (h : value.kind = .number) : value ∈ Set.range number := by
  cases value with
  | number value => exact ⟨value, rfl⟩
  | _ => cases h

/-- A value of the kind of strings is a string. -/
theorem mem_range_string {value : Value} (h : value.kind = .string) : value ∈ Set.range string := by
  cases value with
  | string value => exact ⟨value, rfl⟩
  | _ => cases h

/-- Items of one kind are made from the data of that kind. -/
theorem AllOf.exists_data {α : Type} {f : α → Value} {kind : Kind} {items : List Value}
    (h : AllOf kind items) (hkind : ∀ {value : Value}, value.kind = kind → value ∈ Set.range f) :
    ∃ data : List α, data.map f = items := by
  have hrange : items ∈ Set.range (List.map f) := by
    rw [Set.range_list_map]
    exact fun item hitem => hkind (h item hitem)
  exact hrange

/-! ## Sorting -/

variable {items : List Value}

/-- The values that are read as a number are the numbers. -/
theorem isSome_number?_iff (value : Value) :
    value.number?.isSome = true ↔ value.kind = .number := by
  cases value <;> simp [number?, kind]

/-- The values that are read as a string are the strings. -/
theorem isSome_string?_iff (value : Value) :
    value.string?.isSome = true ↔ value.kind = .string := by
  cases value <;> simp [string?, kind]

/-- What sorting asks of the items. -/
theorem sortable_iff : (items.all (·.number?.isSome) || items.all (·.string?.isSome)) = true ↔
    AllOf .number items ∨ AllOf .string items := by
  simp only [Bool.or_eq_true, List.all_eq_true, isSome_number?_iff, isSome_string?_iff, AllOf]

/-- Items that are all numbers or all strings are sorted. -/
theorem sort_of_allOf (h : AllOf .number items ∨ AllOf .string items) :
    sort items = .ok (.array (items.mergeSort sortsBefore)) :=
  if_pos (sortable_iff.2 h)

/-- All other items cannot be sorted. -/
theorem sort_of_not_allOf (h : ¬ (AllOf .number items ∨ AllOf .string items)) :
    sort items = .error (.methodArgument "sort" .mixedItems) :=
  if_neg fun hall => h (sortable_iff.1 hall)

/-- What is sorted is in order. -/
theorem pairwise_mergeSort (h : AllOf .number items ∨ AllOf .string items) :
    (items.mergeSort sortsBefore).Pairwise InOrder := by
  rcases h with hnumbers | hstrings
  · obtain ⟨values, rfl⟩ := hnumbers.exists_data mem_range_number
    obtain ⟨sorted, hsort, -, hsorted⟩ := exists_sorted_numbers values
    rw [hsort, List.pairwise_map]
    exact hsorted.imp .numbers
  · obtain ⟨texts, rfl⟩ := hstrings.exists_data mem_range_string
    obtain ⟨sorted, hsort, -, hsorted⟩ := exists_sorted_strings texts
    rw [hsort, List.pairwise_map]
    exact hsorted.imp fun h => .strings (le_iff_codePoints_le.1 h)

/-- The sorted items do not depend on the order in which the items were. -/
theorem mergeSort_eq_of_perm {others : List Value} (hothers : others.Perm items)
    (h : AllOf .number items ∨ AllOf .string items) :
    others.mergeSort sortsBefore = items.mergeSort sortsBefore := by
  have hsame : AllOf .number others ∨ AllOf .string others :=
    h.imp (·.of_perm hothers) (·.of_perm hothers)
  refine List.Perm.eq_of_pairwise (fun _ _ _ _ => InOrder.antisymm) (pairwise_mergeSort hsame)
    (pairwise_mergeSort h) ?_
  exact (List.mergeSort_perm others _).trans (hothers.trans (List.mergeSort_perm items _).symm)

/-! ## The ordering operators -/

/-- Numbers in the total order are in the order of the operator. -/
theorem lessEqual_of_totalOrder {left right : Binary64} (h : left.TotalOrder right)
    (hleft : left.isNaN = false) (hright : right.isNaN = false) :
    Operator.lessEqual.apply (.number left) (.number right) = .ok (.boolean true) := by
  obtain ⟨first, hfirst⟩ := Binary64.exists_position?_iff.2 hleft
  obtain ⟨second, hsecond⟩ := Binary64.exists_position?_iff.2 hright
  have hle := Binary64.position_le_of_totalPosition_le hfirst hsecond h.totalPosition_le
  have hcompare : left.compare? right = some (compare first second) :=
    Binary64.compare?_eq_some_iff.2 ⟨first, second, hfirst, hsecond, rfl⟩
  simp only [Operator.apply, Operator.ordering, compare?, hcompare, Option.any_some,
    Int.isLE_compare.2 hle]

/-- Sorted items are in the order of the operator, unless they are not numbers. -/
theorem InOrder.lessEqual (h : InOrder left right) (hleft : left.hasNaN = false)
    (hright : right.hasNaN = false) :
    Operator.lessEqual.apply left right = .ok (.boolean true) := by
  cases h with
  | numbers h => exact lessEqual_of_totalOrder h hleft hright
  | strings h =>
      have hle := le_iff_codePoints_le.2 h
      simp only [Operator.apply, Operator.ordering, compare?, Option.any_some,
        Std.LawfulBCmp.isLE_iff_le.2 hle]

/-- Without what is not a number, each sorted item is `<=` all items after it. -/
theorem pairwise_lessEqual (h : AllOf .number items ∨ AllOf .string items)
    (hnumbers : ∀ item ∈ items, item.hasNaN = false) :
    (items.mergeSort sortsBefore).Pairwise fun left right =>
      Operator.lessEqual.apply left right = .ok (.boolean true) := by
  refine (pairwise_mergeSort h).imp_of_mem fun hleft hright horder => ?_
  exact horder.lessEqual (hnumbers _ (List.mem_mergeSort.1 hleft))
    (hnumbers _ (List.mem_mergeSort.1 hright))

/-! ## The ends of sorted numbers -/

/-- No number is below the first one of sorted numbers. -/
theorem unbeaten_first {sorted : List Binary64} (hsorted : sorted.Pairwise Binary64.TotalOrder)
    {first : Binary64} (hfirst : sorted.head? = some first) (hnumber : first.isNaN = false) :
    Unbeaten .less sorted first := by
  obtain ⟨others, rfl⟩ := List.head?_eq_some_iff.1 hfirst
  refine ExtremeMethod.min.unbeaten_iff.2 ⟨hnumber, List.forall_mem_cons.2 ⟨?_, ?_⟩⟩
  · exact ExtremeMethod.min.not_beats_self first
  · exact fun other hother => (List.rel_of_pairwise_cons hsorted hother).compare?_ne.1

/-- No number is above the last one of sorted numbers. -/
theorem unbeaten_last {sorted : List Binary64} (hsorted : sorted.Pairwise Binary64.TotalOrder)
    {last : Binary64} (hlast : sorted.getLast? = some last) (hnumber : last.isNaN = false) :
    Unbeaten .greater sorted last := by
  obtain ⟨others, rfl⟩ := List.getLast?_eq_some_iff.1 hlast
  refine ExtremeMethod.max.unbeaten_iff.2 ⟨hnumber, fun other hother => ?_⟩
  rcases List.mem_append.1 hother with hbefore | hsame
  · exact ((List.pairwise_append.1 hsorted).2.2 other hbefore last List.mem_cons_self).compare?_ne.2
  · rw [List.mem_singleton.1 hsame]
    exact ExtremeMethod.max.not_beats_self last

/-- The order of the items does not matter for a number that none of them beats. -/
theorem Unbeaten.of_perm {operator : Operator} {values others : List Binary64} {number : Binary64}
    (h : Unbeaten operator values number) (hothers : others.Perm values) :
    Unbeaten operator others number :=
  ⟨h.1, fun other hother => h.2 other (hothers.mem_iff.1 hother)⟩

/-- Without what is not a number, the smallest and the largest number equal the ends of the sorted
numbers. -/
theorem extremes_equal_ends {values : List Binary64}
    (hnumbers : ∀ value ∈ values, value.isNaN = false) (args : List Value) :
    ∃ least greatest first last : Value,
      (Value.array (values.map .number)).invoke "min" args = .ok least ∧
      (Value.array (values.map .number)).invoke "max" args = .ok greatest ∧
      (Value.array ((values.map .number).mergeSort sortsBefore)).invoke "first" args = .ok first ∧
      (Value.array ((values.map .number).mergeSort sortsBefore)).invoke "last" args = .ok last ∧
      least.equals first = true ∧ greatest.equals last = true ∧
      (values = [] → least = .null ∧ greatest = .null ∧ first = .null ∧ last = .null) := by
  cases values with
  | nil =>
      rw [List.map_nil, List.mergeSort_nil]
      refine ⟨.null, .null, .null, .null, rfl, rfl, rfl, rfl, rfl, rfl, fun _ => ?_⟩
      exact ⟨rfl, rfl, rfl, rfl⟩
  | cons value values =>
      obtain ⟨sorted, hsort, hperm, hsorted⟩ := exists_sorted_numbers (value :: values)
      have hne : sorted ≠ [] := fun hnil => by simp [hnil] at hperm
      have hfirst := List.head?_eq_some_head hne
      have hlast := List.getLast?_eq_some_getLast hne
      have hfirstMember := hperm.mem_iff.1 (List.head_mem hne)
      have hlastMember := hperm.mem_iff.1 (List.getLast_mem hne)
      obtain ⟨least, hmin, hleast⟩ := ExtremeMethod.min.invoke_equals hnumbers hfirstMember
        ((unbeaten_first hsorted hfirst (hnumbers _ hfirstMember)).of_perm hperm.symm) args
      obtain ⟨greatest, hmax, hgreatest⟩ := ExtremeMethod.max.invoke_equals hnumbers hlastMember
        ((unbeaten_last hsorted hlast (hnumbers _ hlastMember)).of_perm hperm.symm) args
      refine ⟨least, greatest, _, _, hmin, hmax, ?_, ?_, hleast, hgreatest, ?_⟩
      · rw [hsort, invoke_array (by decide), arrayMethod, List.head?_map, hfirst]
        rfl
      · rw [hsort, invoke_array (by decide), arrayMethod, List.getLast?_map, hlast]
        rfl
      · exact fun hnil => absurd hnil (List.cons_ne_nil _ _)

/-- An array that holds something else than numbers has a first item that is none. -/
theorem exists_first_not_number (h : ¬ AllOf .number items) : ∃ values item others,
    items = List.map Value.number values ++ item :: others ∧ item.kind ≠ .number := by
  obtain ⟨item, hitem, hkind⟩ : ∃ item ∈ items, item.kind ≠ .number := by
    simpa [AllOf] using h
  have hfound : (items.find? fun item => item.kind ≠ .number).isSome = true := by
    rw [List.find?_isSome]
    exact ⟨item, hitem, by simpa using hkind⟩
  obtain ⟨first, hfirst⟩ := Option.isSome_iff_exists.1 hfound
  obtain ⟨hkind, before, after, hplace, hbefore⟩ := List.find?_eq_some_iff_append.1 hfirst
  have hall : AllOf .number before := by
    intro earlier hearlier
    simpa using hbefore earlier hearlier
  obtain ⟨values, rfl⟩ := hall.exists_data mem_range_number
  exact ⟨values, first, after, hplace, by simpa using hkind⟩

/-! ## Sorting, the extremes and the ordering operators -/

/-- Sorting fails on arrays that are neither of numbers nor of strings only. Otherwise it gives the
items in order, the same for every order that they were in. Without what is not a number, each item
then is `<=` the ones after it, and the ends equal the smallest and the largest number. These two
are the leftmost numbers that no item is below or above, unless the array starts with what is not a
number, and an array with other items has none, for the kind of the first such item. -/
theorem sort_agrees_with_extremes (items args : List Value) :
    ((∃ error, (Value.array items).invoke "sort" args = .error error) ↔
      ¬ AllOf .number items ∧ ¬ AllOf .string items) ∧
    (AllOf .number items ∨ AllOf .string items → ∃ sorted,
      (Value.array items).invoke "sort" args = .ok (.array sorted) ∧
      sorted.Perm items ∧ sorted.Pairwise InOrder ∧
      (∀ others : List Value, others.Perm items →
        (Value.array others).invoke "sort" args = .ok (.array sorted)) ∧
      ((Value.array items).hasNaN = false →
        sorted.Pairwise (fun left right =>
          Operator.lessEqual.apply left right = .ok (.boolean true)) ∧
        (AllOf .number items → ∃ least greatest first last : Value,
          (Value.array items).invoke "min" args = .ok least ∧
          (Value.array items).invoke "max" args = .ok greatest ∧
          (Value.array sorted).invoke "first" args = .ok first ∧
          (Value.array sorted).invoke "last" args = .ok last ∧
          least.equals first = true ∧ greatest.equals last = true ∧
          (items = [] → least = .null ∧ greatest = .null ∧ first = .null ∧ last = .null)))) ∧
    (∀ method operator wanted, ExtremeMethod method operator wanted →
      (∀ first others, items = List.map Value.number (first :: others) →
        (first.isNaN = true → (Value.array items).invoke method args = .ok (.number first)) ∧
        (first.isNaN = false → ∃ best,
          (Value.array items).invoke method args = .ok (.number best) ∧
          LeftmostUnbeaten operator (first :: others) best)) ∧
      (¬ AllOf .number items → ∃ before item after, items = before ++ item :: after ∧
        AllOf .number before ∧ item.kind ≠ .number ∧
        (Value.array items).invoke method args =
          .error (.methodArgument method (.notNumeric item.kind)))) := by
  have hinvoke : ∀ others, (Value.array others).invoke "sort" args = sort others :=
    fun others => invoke_array (by decide) others args
  refine ⟨?_, fun hall => ⟨items.mergeSort sortsBefore, ?_, List.mergeSort_perm items _,
    pairwise_mergeSort hall, fun others hothers => ?_, fun hnumbers => ⟨?_, fun hnumber => ?_⟩⟩,
    fun method operator wanted hmethod => ⟨fun first others hitems => ?_, fun hmixed => ?_⟩⟩
  · rw [hinvoke, ← not_or]
    constructor
    · rintro ⟨error, herror⟩ hall
      rw [sort_of_allOf hall] at herror
      cases herror
    · exact fun hmixed => ⟨_, sort_of_not_allOf hmixed⟩
  · rw [hinvoke, sort_of_allOf hall]
  · have hsame : AllOf .number others ∨ AllOf .string others := hall.imp (·.of_perm hothers)
      (·.of_perm hothers)
    rw [hinvoke, sort_of_allOf hsame, mergeSort_eq_of_perm hothers hall]
  · exact pairwise_lessEqual hall (listHasNaN_eq_false_iff.1 hnumbers)
  · obtain ⟨values, rfl⟩ := hnumber.exists_data mem_range_number
    have hvalues : ∀ value ∈ values, value.isNaN = false := fun value hvalue =>
      listHasNaN_eq_false_iff.1 hnumbers _ (List.mem_map_of_mem hvalue)
    simpa only [List.map_eq_nil_iff] using extremes_equal_ends hvalues args
  · rw [hitems, hmethod.invoke_numbers]
    refine ⟨fun hfirst => ?_, fun hfirst => ?_⟩
    · rw [extremeValue, extreme_of_isNaN wanted hfirst]
      rfl
    · obtain ⟨best, hextreme, hbest⟩ := hmethod.exists_leftmost hfirst others
      rw [extremeValue, hextreme]
      exact ⟨best, rfl, hbest⟩
  · obtain ⟨values, item, others, rfl, hitem⟩ := exists_first_not_number hmixed
    refine ⟨values.map .number, item, others, rfl, ?_, hitem,
      hmethod.invoke_not_numbers values hitem others args⟩
    rintro earlier hearlier
    obtain ⟨value, -, rfl⟩ := List.mem_map.1 hearlier
    rfl

/-- Both zeros and an infinity: sorting tells the zeros apart, and the smallest number is the zero
that comes first, which equals the first sorted one. -/
theorem sort_agrees_with_extremes_zeros :
    let values : List Binary64 := [.infinite false, .zero false, .zero true]
    let items : List Value := values.map .number
    (∃ sorted, (Value.array items).invoke "sort" [] = .ok (.array sorted) ∧
      (Value.array items.reverse).invoke "sort" [] = .ok (.array sorted) ∧
      ∃ least first : Value, (Value.array items).invoke "min" [] = .ok least ∧
        (Value.array sorted).invoke "first" [] = .ok first ∧ least.equals first = true) ∧
    (∃ best, (Value.array items).invoke "min" [] = .ok (.number best) ∧
      LeftmostUnbeaten .less values best) ∧
    (Value.array (.number .nan :: items)).invoke "max" [] = .ok (.number .nan) ∧
    (∃ error, (Value.array (.string "x" :: items)).invoke "sort" [] = .error error) ∧
    ∃ before item after, .string "x" :: items = before ++ item :: after ∧ item.kind ≠ .number ∧
      (Value.array (.string "x" :: items)).invoke "max" [] =
        .error (.methodArgument "max" (.notNumeric item.kind)) := by
  intro values items
  have hnumber : AllOf .number items := by simp [AllOf, items, values, kind]
  have hmixed : ¬ AllOf .number (.string "x" :: items) := by simp [AllOf, kind]
  have hmixedStrings : ¬ AllOf .string (.string "x" :: items) := by
    simp [AllOf, items, values, kind]
  obtain ⟨-, hsort, hextreme⟩ := sort_agrees_with_extremes items []
  obtain ⟨sorted, hsorted, -, -, hperm, hordered⟩ := hsort (.inl hnumber)
  obtain ⟨least, -, first, -, hmin, -, hfirst, -, hequal, -⟩ := (hordered rfl).2 hnumber
  obtain ⟨-, -, hspoiled⟩ := sort_agrees_with_extremes (.number .nan :: items) []
  obtain ⟨hfails, -, hrefused⟩ := sort_agrees_with_extremes (.string "x" :: items) []
  obtain ⟨before, item, after, hplace, -, hkind, herror⟩ := (hrefused _ _ _ .max).2 hmixed
  exact ⟨⟨sorted, hsorted, hperm _ (List.reverse_perm items), least, first, hmin, hfirst, hequal⟩,
    ((hextreme _ _ _ .min).1 _ _ rfl).2 rfl, ((hspoiled _ _ _ .max).1 .nan values rfl).1 rfl,
    hfails.2 ⟨hmixed, hmixedStrings⟩, before, item, after, hplace, hkind, herror⟩

end HostScript.Value

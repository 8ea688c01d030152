import HostScript.Proofs.Value.Equality
import Mathlib.Data.List.FinRange
import Mathlib.Data.List.Induction

/-!
# First occurrences

Keeping each item that equals none of the items kept before it keeps the first occurrences: an item
equals a kept one exactly if it equals any item before it (`hasItem_unique`), since equality is
symmetric and transitive. Read `unique_keeps_first_occurrences` first.
-/

namespace HostScript.Value

/-- An item of two lists is one of either list. -/
theorem hasItem_append (items others : List Value) (value : Value) :
    hasItem (items ++ others) value = (hasItem items value || hasItem others value) :=
  List.any_append

/-- A list has an item if some item of it equals the value. -/
theorem hasItem_eq_true_iff {items : List Value} {value : Value} :
    hasItem items value = true ↔ ∃ item ∈ items, item.equals value = true :=
  List.any_eq_true

/-- What equals an item of a list is equal to whatever that item equals. -/
theorem hasItem_of_equals {items : List Value} {item value : Value}
    (h : hasItem items item = true) (hequal : item.equals value = true) :
    hasItem items value = true := by
  obtain ⟨found, hfound, hitem⟩ := hasItem_eq_true_iff.1 h
  exact hasItem_eq_true_iff.2 ⟨found, hfound, equals_trans hitem hequal⟩

/-- The last item is kept unless it equals one that was kept. -/
theorem unique_concat (items : List Value) (item : Value) :
    unique (items ++ [item]) =
      if hasItem (unique items) item then unique items else unique items ++ [item] := by
  rw [unique, List.foldl_append]
  rfl

/-- A value equals one of the kept items exactly if it equals one of all items. -/
theorem hasItem_unique (items : List Value) (value : Value) :
    hasItem (unique items) value = hasItem items value := by
  induction items using List.reverseRecOn with
  | nil => rfl
  | append_singleton items item ih =>
      have hlast : hasItem [item] value = item.equals value := Bool.or_false _
      rw [unique_concat, hasItem_append, hlast, ← ih]
      split
      · next hkept =>
          cases hequal : item.equals value with
          | false => rw [Bool.or_false]
          | true => rw [Bool.or_true, hasItem_of_equals hkept hequal]
      · rw [hasItem_append, hlast]

/-- The kept items are those that equal none of all the items before them. -/
theorem unique_eq_filter (items : List Value) : unique items =
    (items.zipIdx.filter fun entry => !hasItem (items.take entry.2) entry.1).map (·.1) := by
  induction items using List.reverseRecOn with
  | nil => rfl
  | append_singleton items item ih =>
      -- An item of the front has the same items before it in the whole list.
      have hfront :
          items.zipIdx.filter (fun entry => !hasItem ((items ++ [item]).take entry.2) entry.1) =
            items.zipIdx.filter fun entry => !hasItem (items.take entry.2) entry.1 := by
        refine List.filter_congr fun entry hentry => ?_
        have hlt : entry.2 < items.length := by
          have := List.snd_lt_add_of_mem_zipIdx hentry
          omega
        rw [List.take_append_of_le_length (Nat.le_of_lt hlt)]
      rw [unique_concat, hasItem_unique, List.zipIdx_append, List.filter_append, List.map_append,
        hfront, ← ih]
      cases hlast : hasItem items item with
      | true => simp [hlast]
      | false => simp [hlast]

/-- The places of the items that equal none of the items before them, in order. -/
def firstPlaces (items : List Value) : List (Fin items.length) :=
  (List.finRange items.length).filter fun place =>
    !hasItem (items.take place) (items.get place)

/-- What is kept are the items at their first places. -/
theorem unique_eq_map_firstPlaces (items : List Value) :
    unique items = (firstPlaces items).map items.get := by
  have hplaces : items.zipIdx =
      (List.finRange items.length).map fun place => (items.get place, place.val) :=
    List.ext_getElem (by simp) (by simp)
  rw [unique_eq_filter, hplaces, List.filter_map, List.map_map]
  rfl

/-- A place is kept if no earlier item equals the one there. -/
theorem mem_firstPlaces_iff {items : List Value} {place : Fin items.length} :
    place ∈ firstPlaces items ↔
      ∀ earlier < place, (items.get earlier).equals (items.get place) = false := by
  have hfirst : place ∈ firstPlaces items ↔
      hasItem (items.take place) (items.get place) = false := by
    simp [firstPlaces]
  rw [hfirst, hasItem, List.any_eq_false]
  constructor
  · intro h earlier hearlier
    have hmember : items.get earlier ∈ items.take place :=
      List.mem_take_iff_getElem.2 ⟨earlier.val, by omega, rfl⟩
    simpa using h _ hmember
  · intro h item hitem
    obtain ⟨earlier, hearlier, rfl⟩ := List.mem_take_iff_getElem.1 hitem
    have hequal := h ⟨earlier, by omega⟩ (Fin.lt_def.2 (by simp; omega))
    simpa using hequal

/-- The places that are kept are in order. -/
theorem firstPlaces_increasing (items : List Value) : (firstPlaces items).Pairwise (· < ·) :=
  (List.pairwise_lt_finRange items.length).filter _

/-- No kept item equals another one, in either direction. -/
theorem unique_distinct (items : List Value) : (unique items).Pairwise fun first second =>
    first.equals second = false ∧ second.equals first = false := by
  rw [unique_eq_map_firstPlaces, List.pairwise_map]
  refine (firstPlaces_increasing items).imp_of_mem fun {first second} _ hsecond hlt => ?_
  have hdifferent := mem_firstPlaces_iff.1 hsecond first hlt
  exact ⟨hdifferent, (equals_comm _ _).trans hdifferent⟩

/-- Items that are all different are all kept. -/
theorem unique_of_distinct {items : List Value}
    (h : items.Pairwise fun first second => first.equals second = false) :
    unique items = items := by
  induction items using List.reverseRecOn with
  | nil => rfl
  | append_singleton items item ih =>
      obtain ⟨hitems, -, hlast⟩ := List.pairwise_append.1 h
      have hnew : ¬ hasItem items item = true := by
        rw [hasItem_eq_true_iff]
        rintro ⟨found, hfound, hequal⟩
        rw [hlast found hfound item List.mem_cons_self] at hequal
        cases hequal
      rw [unique_concat, ih hitems, if_neg hnew]

/-- An item that equals itself equals one kept item and no other. -/
theorem existsUnique_firstPlace {items : List Value} {item : Value} (hitem : item ∈ items)
    (hnumbers : item.hasNaN = false) :
    ∃! place, place ∈ firstPlaces items ∧ (items.get place).equals item = true := by
  have hself := (equals_self_iff item).2 hnumbers
  have hkept : hasItem (unique items) item = true := by
    rw [hasItem_unique]
    exact hasItem_eq_true_iff.2 ⟨item, hitem, hself⟩
  rw [unique_eq_map_firstPlaces, hasItem_eq_true_iff] at hkept
  obtain ⟨found, hfound, hequal⟩ := hkept
  obtain ⟨place, hplace, rfl⟩ := List.mem_map.1 hfound
  refine ⟨place, ⟨hplace, hequal⟩, ?_⟩
  rintro other ⟨hother, hotherEqual⟩
  -- The later one of two places would hold an item that equals an earlier one.
  rcases Nat.lt_trichotomy other.val place.val with hlt | hsame | hgt
  · have hdifferent := mem_firstPlaces_iff.1 hplace other hlt
    rw [equals_trans hotherEqual (equals_symm hequal)] at hdifferent
    cases hdifferent
  · exact Fin.ext hsame
  · have hdifferent := mem_firstPlaces_iff.1 hother place hgt
    rw [equals_trans hequal (equals_symm hotherEqual)] at hdifferent
    cases hdifferent

/-- Exactly the items that equal no item before them are kept, unchanged and in their order, among
them every item that holds what is not a number. No two kept items are equal, each other item equals
one of them, and nothing more is dropped the second time. -/
theorem unique_keeps_first_occurrences (items args : List Value) :
    ∃ places : List (Fin items.length), ∃ kept : List Value,
      (Value.array items).invoke "unique" args = .ok (.array kept) ∧
      kept = places.map items.get ∧ places.Pairwise (· < ·) ∧
      (∀ place, place ∈ places ↔
        ∀ earlier < place, (items.get earlier).equals (items.get place) = false) ∧
      (∀ place, (items.get place).hasNaN = true → place ∈ places) ∧
      (kept.Pairwise fun first second =>
        first.equals second = false ∧ second.equals first = false) ∧
      (∀ item ∈ items, item.hasNaN = false →
        ∃! place, place ∈ places ∧ (items.get place).equals item = true) ∧
      (Value.array kept).invoke "unique" args = .ok (.array kept) := by
  have hinvoke : ∀ others : List Value,
      (Value.array others).invoke "unique" args = .ok (.array (unique others)) :=
    fun others => invoke_array (by decide) others args
  refine ⟨firstPlaces items, unique items, hinvoke items, unique_eq_map_firstPlaces items,
    firstPlaces_increasing items, fun place => mem_firstPlaces_iff, fun place hnumber => ?_,
    unique_distinct items, fun item => existsUnique_firstPlace, ?_⟩
  · refine mem_firstPlaces_iff.2 fun earlier _ => Bool.eq_false_iff.2 fun hequal => ?_
    rw [hasNaN_eq_false_of_equals (equals_symm hequal)] at hnumber
    cases hnumber
  · rw [hinvoke, unique_of_distinct ((unique_distinct items).imp And.left)]

/-- The second zero is dropped, of whatever sign it is, and what is not a number is kept twice. -/
theorem unique_keeps_first_occurrences_zeros :
    let items : List Value :=
      [.number (.zero false), .number .nan, .array [.number (.zero true)], .number (.zero true),
        .number .nan]
    ∃ places : List (Fin items.length),
      (Value.array items).invoke "unique" [] = .ok (.array (places.map items.get)) ∧
      1 ∈ places ∧ 4 ∈ places ∧ 3 ∉ places ∧
      ∃! place, place ∈ places ∧ (items.get place).equals (.number (.zero true)) = true := by
  intro items
  obtain ⟨places, kept, hinvoke, rfl, -, hfirst, hnumbers, -, hone, -⟩ :=
    unique_keeps_first_occurrences items []
  refine ⟨places, hinvoke, hnumbers 1 rfl, hnumbers 4 rfl, fun hthird => ?_,
    hone _ (by simp [items]) rfl⟩
  have hdifferent := (hfirst 3).1 hthird 0 (by decide)
  exact absurd hdifferent (by decide)

end HostScript.Value

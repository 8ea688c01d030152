import HostScript.Proofs.Json.WrittenNumbers
import HostScript.Value.Text

/-!
# What the text of values keeps

The text of a value keeps neither the numbers that are not finite nor the sign of zero (`clean`),
and it keeps everything else: values with the same text are the same once they are clean
(`clean_eq_of_write`). What a text starts with tells the kinds of values apart, and where the text
of a value ends can be told from the text.
-/

namespace HostScript.Value

open Json.Reader (NumberEnds headAfterBlanks)

/-! ## Changes of numbers -/

mutual

/-- The value with each finite number changed, and null for the numbers that are not finite. -/
def mapFinite (f : Binary64 → Binary64) : Value → Value
  | .null => .null
  | .boolean value => .boolean value
  | .number value => if value.isFinite then .number (f value) else .null
  | .string value => .string value
  | .array items => .array (listMapFinite f items)
  | .object entries => .object (entriesMapFinite f entries)

/-- Some values with their numbers changed. -/
def listMapFinite (f : Binary64 → Binary64) : List Value → List Value
  | [] => []
  | item :: items => mapFinite f item :: listMapFinite f items

/-- Some entries with their numbers changed. -/
def entriesMapFinite (f : Binary64 → Binary64) : List (String × Value) → List (String × Value)
  | [] => []
  | (key, value) :: entries => (key, mapFinite f value) :: entriesMapFinite f entries

end

/-- The value with null for the numbers that are not finite, and without negative zeros. -/
def clean : Value → Value :=
  mapFinite Binary64.unsignZero

/-- The value that the text of a value is read as: null for the numbers that are not finite, and
what is read of each that is. -/
def received : Value → Value :=
  mapFinite Binary64.reread

mutual

/-- The numbers of a value at any depth. -/
def allNumbers : Value → List Binary64
  | .number value => [value]
  | .array items => listAllNumbers items
  | .object entries => entriesAllNumbers entries
  | _ => []

/-- The numbers of some values. -/
def listAllNumbers : List Value → List Binary64
  | [] => []
  | item :: items => item.allNumbers ++ listAllNumbers items

/-- The numbers of some entries. -/
def entriesAllNumbers : List (String × Value) → List Binary64
  | [] => []
  | (_, value) :: entries => value.allNumbers ++ entriesAllNumbers entries

end

section Congruence

variable {f g : Binary64 → Binary64}

mutual

/-- Functions that agree on the numbers of a value change it in the same way. -/
theorem mapFinite_congr : ∀ value : Value, (∀ number ∈ value.allNumbers, f number = g number) →
    value.mapFinite f = value.mapFinite g
  | .null, _ => rfl
  | .boolean _, _ => rfl
  | .number value, h => by rw [mapFinite, mapFinite, h value List.mem_cons_self]
  | .string _, _ => rfl
  | .array items, h => by rw [mapFinite, mapFinite, listMapFinite_congr items h]
  | .object entries, h => by rw [mapFinite, mapFinite, entriesMapFinite_congr entries h]

/-- Functions that agree on the numbers of some values change them in the same way. -/
theorem listMapFinite_congr : ∀ items : List Value,
    (∀ number ∈ listAllNumbers items, f number = g number) →
    listMapFinite f items = listMapFinite g items
  | [], _ => rfl
  | item :: items, h => by
      obtain ⟨hitem, hitems⟩ := List.forall_mem_append.1 h
      rw [listMapFinite, listMapFinite, mapFinite_congr item hitem,
        listMapFinite_congr items hitems]

/-- Functions that agree on the numbers of some entries change them in the same way. -/
theorem entriesMapFinite_congr : ∀ entries : List (String × Value),
    (∀ number ∈ entriesAllNumbers entries, f number = g number) →
    entriesMapFinite f entries = entriesMapFinite g entries
  | [], _ => rfl
  | (key, value) :: entries, h => by
      obtain ⟨hvalue, hentries⟩ := List.forall_mem_append.1 h
      rw [entriesMapFinite, entriesMapFinite, mapFinite_congr value hvalue,
        entriesMapFinite_congr entries hentries]

end

end Congruence

/-- A value whose numbers read back is read clean. -/
theorem received_eq_clean {value : Value} (h : ∀ number ∈ value.allNumbers, number.ReadsBack) :
    value.received = value.clean :=
  mapFinite_congr value h

/-! ## What texts start with -/

/-- What the text of a value starts with: a whole scalar or an opening bracket. -/
inductive Opens : Value → Json.Head → Prop where
  | null : Opens .null .null
  | unwritten (value) : ¬ value.isFinite = true → Opens (.number value) .null
  | boolean (value) : Opens (.boolean value) (.boolean value)
  | number (value read) : value.isFinite = true → Opens (.number value) (.number read)
  | string (value) : Opens (.string value) (.string value)
  | array (items) : Opens (.array items) .array
  | object (entries) : Opens (.object entries) .object

/-- What stands after that. -/
def remainder : Value → List Char → List Char
  | .array items, rest => writeItems true items rest
  | .object entries, rest => writeEntries true entries rest
  | _, rest => rest

variable {rest left : List Char}

/-- What the text of a value starts with is read. -/
theorem exists_opens (value : Value) : ∃ found, value.Opens found ∧ ∀ {rest}, NumberEnds rest →
    headAfterBlanks (value.write rest) = .ok (found, value.remainder rest) := by
  cases value with
  | null => exact ⟨_, .null, fun _ => rfl⟩
  | boolean value =>
      refine ⟨_, .boolean value, fun _ => ?_⟩
      cases value with
      | true => rfl
      | false => rfl
  | number value =>
      by_cases hfinite : value.isFinite = true
      · obtain ⟨read, -, hread⟩ := Json.Reader.exists_headAfterBlanks_text hfinite
        exact ⟨_, .number value read hfinite, hread⟩
      · refine ⟨_, .unwritten value hfinite, fun _ => ?_⟩
        cases value with
        | nan => rfl
        | infinite => rfl
        | finite => exact absurd rfl hfinite
  | string value =>
      exact ⟨_, .string value, fun {rest} _ => Json.Reader.headAfterBlanks_string value rest⟩
  | array items => exact ⟨_, .array items, fun _ => rfl⟩
  | object entries => exact ⟨_, .object entries, fun _ => rfl⟩

/-- Values with the same text start in the same way and go on with the same text. -/
theorem exists_opens_of_write {value other : Value} (hrest : NumberEnds rest)
    (hleft : NumberEnds left) (h : value.write rest = other.write left) :
    ∃ found, value.Opens found ∧ other.Opens found ∧
      value.remainder rest = other.remainder left := by
  obtain ⟨found, hopens, hread⟩ := exists_opens value
  obtain ⟨found', hopens', hread'⟩ := exists_opens other
  have hsame := hread hrest
  rw [h, hread' hleft] at hsame
  obtain ⟨rfl, hremainder⟩ := Prod.mk.inj (Except.ok.inj hsame)
  exact ⟨_, hopens, hopens', hremainder.symm⟩

/-! ## Values with the same text -/

/-- The text of a scalar tells the scalar and its end. -/
theorem clean_eq_of_scalar {value other : Value} {found : Json.Head} (hopens : value.Opens found)
    (hother : other.Opens found) (hscalar : found ≠ .array ∧ found ≠ .object)
    (hremainder : value.remainder rest = other.remainder left)
    (h : value.write rest = other.write left) : value.clean = other.clean ∧ rest = left := by
  cases hopens with
  | null =>
      cases hother with
      | null => exact ⟨rfl, hremainder⟩
      | unwritten number hinfinite => exact ⟨(if_neg hinfinite).symm, hremainder⟩
  | unwritten number hinfinite =>
      cases hother with
      | null => exact ⟨if_neg hinfinite, hremainder⟩
      | unwritten number' hinfinite' =>
          exact ⟨(if_neg hinfinite).trans (if_neg hinfinite').symm, hremainder⟩
  | boolean =>
      cases hother with
      | boolean => exact ⟨rfl, hremainder⟩
  | number number read hfinite =>
      cases hother with
      | number number' _ hfinite' =>
          obtain rfl : rest = left := hremainder
          have htext := Json.unsignZero_eq_of_text hfinite hfinite' (List.append_cancel_right h)
          refine ⟨?_, rfl⟩
          rw [clean, mapFinite, mapFinite, if_pos hfinite, if_pos hfinite', htext]
  | string =>
      cases hother with
      | string => exact ⟨rfl, hremainder⟩
  | array => exact absurd rfl hscalar.1
  | object => exact absurd rfl hscalar.2

/-- A comma or a bracket ends a number. -/
theorem numberEnds_writeItems (items : List Value) (rest : List Char) :
    NumberEnds (writeItems false items rest) := by
  cases items with
  | nil => exact Text.stops_cons.2 rfl
  | cons item items => exact Text.stops_cons.2 rfl

/-- A comma or a brace ends a number. -/
theorem numberEnds_writeEntries (entries : List (String × Value)) (rest : List Char) :
    NumberEnds (writeEntries false entries rest) := by
  cases entries with
  | nil => exact Text.stops_cons.2 rfl
  | cons entry entries => exact Text.stops_cons.2 rfl

/-- An item does not start with the bracket that closes a list. -/
theorem close_ne_item (first : Bool) (item : Value) (hrest : NumberEnds rest) :
    ']' :: left ≠ separator first ++ item.write rest := by
  cases first with
  | false => exact fun h => absurd (List.cons.inj h).1 (by decide)
  | true =>
      obtain ⟨found, -, hread⟩ := exists_opens item
      intro h
      have hitem := hread hrest
      rw [← List.nil_append (item.write rest)] at hitem
      have hclose := congrArg headAfterBlanks h
      exact nomatch hclose.trans hitem

/-- An entry does not start with the brace that closes an object. -/
theorem brace_ne_entry (first : Bool) {key : String} :
    '\x7d' :: left ≠ separator first ++ (Json.stringText key ++ rest) := by
  cases first with
  | false => exact fun h => absurd (List.cons.inj h).1 (by decide)
  | true => exact fun h => absurd (List.cons.inj h).1 (by decide)

/-- The key of an entry and what stands after it can be told from the text. -/
theorem key_eq_of_write {key other : String}
    (h : Json.stringText key ++ rest = Json.stringText other ++ left) :
    key = other ∧ rest = left := by
  have hread := Json.Reader.headAfterBlanks_string key rest
  rw [h, Json.Reader.headAfterBlanks_string other left] at hread
  obtain ⟨hkeys, hrests⟩ := Prod.mk.inj (Except.ok.inj hread)
  exact ⟨(Json.Head.string.inj hkeys).symm, hrests.symm⟩

mutual

/-- The text of a value tells the value, up to what text does not keep, and where it ends. -/
theorem clean_eq_of_write : ∀ (value other : Value) {rest left : List Char}, NumberEnds rest →
    NumberEnds left → value.write rest = other.write left →
    value.clean = other.clean ∧ rest = left
  | .array items, other, rest, left, hrest, hleft, h => by
      obtain ⟨found, hopens, hother, hremainder⟩ := exists_opens_of_write hrest hleft h
      cases hopens
      cases hother with
      | array others =>
          obtain ⟨hitems, hsame⟩ := listClean_eq_of_write true items others hremainder
          exact ⟨congrArg Value.array hitems, hsame⟩
  | .object entries, other, rest, left, hrest, hleft, h => by
      obtain ⟨found, hopens, hother, hremainder⟩ := exists_opens_of_write hrest hleft h
      cases hopens
      cases hother with
      | object others =>
          obtain ⟨hentries, hsame⟩ := entriesClean_eq_of_write true entries others hremainder
          exact ⟨congrArg Value.object hentries, hsame⟩
  | .null, other, rest, left, hrest, hleft, h
  | .boolean _, other, rest, left, hrest, hleft, h
  | .number _, other, rest, left, hrest, hleft, h
  | .string _, other, rest, left, hrest, hleft, h => by
      obtain ⟨found, hopens, hother, hremainder⟩ := exists_opens_of_write hrest hleft h
      refine clean_eq_of_scalar hopens hother ?_ hremainder h
      cases hopens <;> exact ⟨nofun, nofun⟩

/-- The text of an array tells its items and where it ends. -/
theorem listClean_eq_of_write (first : Bool) : ∀ (items others : List Value)
    {rest left : List Char}, writeItems first items rest = writeItems first others left →
    listMapFinite Binary64.unsignZero items = listMapFinite Binary64.unsignZero others ∧ rest = left
  | [], [], _, _, h => ⟨rfl, (List.cons.inj h).2⟩
  | [], other :: others, _, left, h =>
      absurd h (close_ne_item first other (numberEnds_writeItems others left))
  | item :: items, [], rest, _, h =>
      absurd h.symm (close_ne_item first item (numberEnds_writeItems items rest))
  | item :: items, other :: others, rest, left, h => by
      obtain ⟨hitem, hafter⟩ := clean_eq_of_write item other (numberEnds_writeItems items rest)
        (numberEnds_writeItems others left) (List.append_cancel_left h)
      obtain ⟨hitems, hsame⟩ := listClean_eq_of_write false items others hafter
      exact ⟨congrArg₂ List.cons hitem hitems, hsame⟩

/-- The text of an object tells its entries and where it ends. -/
theorem entriesClean_eq_of_write (first : Bool) : ∀ (entries others : List (String × Value))
    {rest left : List Char}, writeEntries first entries rest = writeEntries first others left →
    entriesMapFinite Binary64.unsignZero entries = entriesMapFinite Binary64.unsignZero others ∧
      rest = left
  | [], [], _, _, h => ⟨rfl, (List.cons.inj h).2⟩
  | [], (_, _) :: _, _, _, h => absurd h (brace_ne_entry first)
  | (_, _) :: _, [], _, _, h => absurd h.symm (brace_ne_entry first)
  | (key, value) :: entries, (key', other) :: others, rest, left, h => by
      obtain ⟨rfl, hvalues⟩ := key_eq_of_write (List.append_cancel_left h)
      obtain ⟨hvalue, hafter⟩ := clean_eq_of_write value other
        (numberEnds_writeEntries entries rest) (numberEnds_writeEntries others left)
        (List.cons.inj hvalues).2
      obtain ⟨hentries, hsame⟩ := entriesClean_eq_of_write false entries others hafter
      exact ⟨congrArg₂ List.cons (congrArg (Prod.mk key) hvalue) hentries, hsame⟩

end

/-- Values with the same text are the same once they are clean. -/
theorem clean_eq_of_text {value other : Value} (h : value.text = other.text) :
    value.clean = other.clean :=
  (clean_eq_of_write value other Text.stops_nil Text.stops_nil
    (String.ofList_injective h)).1

end HostScript.Value

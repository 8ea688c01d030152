import HostScript.Context
import HostScript.Proofs.Dictionary
import HostScript.Proofs.Json.Accepting
import HostScript.Proofs.Value.Writing

/-!
# The text of values

The text of a value is a JSON document, which is read as the value with the numbers that are read
for its numbers (`received`). If these read back, only numbers that are not finite and the sign of
zero are lost (`clean`). Writing the text of a value at once is the same as converting the value to
a JSON tree first. Read `parse_text` first.
-/

namespace HostScript.Value

/-! ## Depth and order -/

mutual

/-- How many arrays and objects are nested in each other. -/
def depth : Value → Nat
  | .array items => depthItems items + 1
  | .object entries => depthEntries entries + 1
  | _ => 0

/-- The depth of the deepest of some values. -/
def depthItems : List Value → Nat
  | [] => 0
  | item :: items => max item.depth (depthItems items)

/-- The depth of the deepest value of some entries. -/
def depthEntries : List (String × Value) → Nat
  | [] => 0
  | (_, value) :: entries => max value.depth (depthEntries entries)

end

/-- Entries keep their keys, and the finite numbers in their values change. -/
theorem entriesMapFinite_eq_map (f : Binary64 → Binary64) (entries : List (String × Value)) :
    entriesMapFinite f entries = entries.map fun entry => (entry.1, entry.2.mapFinite f) := by
  induction entries with
  | nil => rfl
  | cons entry entries ih => rw [entriesMapFinite, List.map_cons, ih]

/-- The keys stay as they are, and with them their order. -/
theorem sorted_entriesMapFinite (f : Binary64 → Binary64) {entries : List (String × Value)}
    (h : Entries.Sorted entries) : Entries.Sorted (entriesMapFinite f entries) := by
  rw [entriesMapFinite_eq_map]
  exact List.pairwise_map.2 h

/-! ## Trees -/

/-- Both zeros have the same tree. -/
theorem ofBinary64_unsignZero (value : Binary64) :
    Json.ofBinary64 value.unsignZero = Json.ofBinary64 value := by
  unfold Binary64.unsignZero
  split
  · next hzero =>
      have hnumber : ∀ negative, Json.Number.ofBinary64 (.zero negative) = .integer 0 := by
        intro negative
        rw [Json.Number.ofBinary64, Binary64.zero, Binary64.toInt?_zero rfl]
        exact if_pos (Nat.zero_le _)
      rw [Binary64.eq_zero_of_isNegativeZero hzero]
      show Json.number (.ofBinary64 (.zero false)) = .number (.ofBinary64 (.zero true))
      rw [hnumber, hnumber]
  · rfl

mutual

/-- A value that was converted to a tree and back is clean. -/
theorem ofJson_toJson : ∀ value : Value, value.WellFormed → ofJson value.toJson = value.clean
  | .null, _ => rfl
  | .boolean _, _ => rfl
  | .number value, _ => by
      rw [toJson, clean, mapFinite]
      by_cases hfinite : value.isFinite = true
      · rw [Json.ofBinary64_of_isFinite hfinite, if_pos hfinite, ofJson,
          Json.Reader.toBinary64_ofBinary64 hfinite]
      · rw [Json.ofBinary64_of_not_isFinite hfinite, if_neg hfinite, ofJson]
  | .string _, _ => rfl
  | .array items, h => by rw [toJson, clean, mapFinite, ofJson, listOfJson_toJson items h]
  | .object entries, h => by
      rw [toJson, clean, mapFinite, ofJson, entriesOfJson_toJson entries h.2,
        Entries.ofList_of_sorted (sorted_entriesMapFinite _ h.1)]

/-- Items that were converted to trees and back are clean. -/
theorem listOfJson_toJson : ∀ items : List Value, ListWellFormed items →
    listOfJson (listToJson items) = listMapFinite Binary64.unsignZero items
  | [], _ => rfl
  | item :: items, h => by
      rw [listToJson, listMapFinite, listOfJson, ofJson_toJson item h.1, clean,
        listOfJson_toJson items h.2]

/-- Entries that were converted to trees and back are clean. -/
theorem entriesOfJson_toJson : ∀ entries : List (String × Value), EntriesWellFormed entries →
    entriesOfJson (entriesToJson entries) = entriesMapFinite Binary64.unsignZero entries
  | [], _ => rfl
  | (key, value) :: entries, h => by
      rw [entriesToJson, entriesMapFinite, entriesOfJson, ofJson_toJson value h.1, clean,
        entriesOfJson_toJson entries h.2]

end

mutual

/-- What a tree does not keep does not change the tree. -/
theorem toJson_clean : ∀ value : Value, value.clean.toJson = value.toJson
  | .null => rfl
  | .boolean _ => rfl
  | .number value => by
      rw [clean, mapFinite, toJson]
      by_cases hfinite : value.isFinite = true
      · rw [if_pos hfinite, toJson, ofBinary64_unsignZero]
      · rw [if_neg hfinite, toJson, Json.ofBinary64_of_not_isFinite hfinite]
  | .string _ => rfl
  | .array items => by rw [clean, mapFinite, toJson, toJson, listToJson_clean items]
  | .object entries => by rw [clean, mapFinite, toJson, toJson, entriesToJson_clean entries]

/-- What trees do not keep does not change the trees of items. -/
theorem listToJson_clean : ∀ items : List Value,
    listToJson (listMapFinite Binary64.unsignZero items) = listToJson items
  | [] => rfl
  | item :: items => by
      have hitem := toJson_clean item
      rw [clean] at hitem
      rw [listMapFinite, listToJson, listToJson, hitem, listToJson_clean items]

/-- What trees do not keep does not change the trees of entries. -/
theorem entriesToJson_clean : ∀ entries : List (String × Value),
    entriesToJson (entriesMapFinite Binary64.unsignZero entries) = entriesToJson entries
  | [] => rfl
  | (key, value) :: entries => by
      have hvalue := toJson_clean value
      rw [clean] at hvalue
      rw [entriesMapFinite, entriesToJson, entriesToJson, hvalue, entriesToJson_clean entries]

end

/-! ## Text -/

/-- The text of a number is the text of its tree. -/
theorem text_ofBinary64 (value : Binary64) (level : Nat) (rest : List Char) :
    (Json.ofBinary64 value).write .compact level rest =
      (Json.Number.ofBinary64 value).text ++ rest := by
  cases value with
  | _ => rfl

mutual

/-- A value is written as its tree is. -/
theorem write_toJson : ∀ (value : Value) (level : Nat) (rest : List Char),
    value.toJson.write .compact level rest = value.write rest
  | .null, _, _ => rfl
  | .boolean _, _, _ => rfl
  | .number value, level, rest => text_ofBinary64 value level rest
  | .string _, _, _ => rfl
  | .array [], _, _ => rfl
  | .array (item :: items), level, rest => by
      rw [toJson, listToJson, Json.write, writeItems_toJson items level rest,
        write_toJson item (level + 1)]
      rfl
  | .object [], _, _ => rfl
  | .object ((key, value) :: entries), level, rest => by
      rw [toJson, entriesToJson, Json.write, writeEntries_toJson entries level rest,
        write_toJson value (level + 1)]
      simp [write, writeEntries, separator, Json.Layout.compact]

/-- Items are written like the items of their compact trees. -/
theorem writeItems_toJson : ∀ (items : List Value) (level : Nat) (rest : List Char),
    Json.writeItems .compact level (listToJson items) rest = writeItems false items rest
  | [], _, _ => rfl
  | item :: items, level, rest => by
      rw [listToJson, Json.writeItems, writeItems_toJson items level rest,
        write_toJson item (level + 1)]
      rfl

/-- Entries are written like the entries of their compact trees. -/
theorem writeEntries_toJson : ∀ (entries : List (String × Value)) (level : Nat)
    (rest : List Char),
    Json.writeEntries .compact level (entriesToJson entries) rest = writeEntries false entries rest
  | [], _, _ => rfl
  | (key, value) :: entries, level, rest => by
      rw [entriesToJson, Json.writeEntries, writeEntries_toJson entries level rest,
        write_toJson value (level + 1)]
      simp [writeEntries, separator, Json.Layout.compact]

end

/-- The text of a finite number is a number of the grammar of documents, as which it is read. -/
theorem exists_numeral_text {value : Binary64} (h : value.isFinite = true) : ∃ read : Json.Number,
    read.toBinary64 = value.reread ∧ Json.Numeral (Json.Number.ofBinary64 value).text read := by
  obtain ⟨read, hread, hhead⟩ := Json.Reader.exists_headAfterBlanks_text h
  refine ⟨read, hread, ?_⟩
  have hopens := Json.Reader.headAfterBlanks_sound (hhead Text.stops_nil)
  rw [List.append_nil] at hopens
  generalize (Json.Number.ofBinary64 value).text = text at hopens ⊢
  cases hopens with
  | scalar _ _ _ tree htree hvalue =>
      cases htree
      cases hvalue with
      | number token _ _ hnumeral => rwa [List.append_nil]

/-- The text of a string consists of its escaped characters. -/
theorem chars_stringText (value : String) (rest : List Char) : ∃ text,
    Json.stringText value ++ rest = '"' :: text ∧ Json.Chars text rest value.toList := by
  refine ⟨value.toList.flatMap Json.escapeChar ++ '"' :: rest, by simp [Json.stringText], ?_⟩
  exact Json.Reader.stringBody_sound (Json.Reader.stringBody_flatMap value.toList rest)

/-- A written string is a string value of the grammar. -/
theorem value_stringText (value : String) (rest : List Char) :
    Json.Value (Json.stringText value ++ rest) rest (.string value) := by
  obtain ⟨text, htext, hchars⟩ := chars_stringText value rest
  have hvalue := Json.Value.string text rest value.toList hchars
  rwa [String.ofList_toList, ← htext] at hvalue

/-- A written key, a colon and a value are an entry of the grammar. -/
theorem entry_stringText (key : String) {text rest : List Char} {tree : Json}
    (h : Json.Value text rest tree) :
    Json.Entry Json.Value (Json.stringText key ++ ':' :: text) rest (key, tree) := by
  obtain ⟨inner, hinner, hchars⟩ := chars_stringText key (':' :: text)
  have hentry :=
    Json.Entry.intro inner _ text text rest key.toList tree hchars (.refl _) (.refl _) h
  rwa [String.ofList_toList, ← hinner] at hentry

/-- A comma leads to an item that is not the first one. -/
theorem itemStart_separator (first : Bool) (start : List Char) :
    Json.ItemStart first (separator first ++ start) start := by
  cases first with
  | true => exact Grammar.Blanks.refl start
  | false => exact ⟨start, .refl _, .refl start⟩

mutual

/-- The text of a value is a value of the grammar of documents. It stands for a tree of the same
depth, which is converted to what the value is read as. -/
theorem exists_value_write : ∀ (value : Value) (rest : List Char), value.WellFormed →
    ∃ tree, Json.Value (value.write rest) rest tree ∧ ofJson tree = value.received ∧
      tree.depth = value.depth
  | .null, rest, _ => ⟨.null, .null rest, rfl, rfl⟩
  | .boolean true, rest, _ => ⟨.boolean true, .trueWord rest, rfl, rfl⟩
  | .boolean false, rest, _ => ⟨.boolean false, .falseWord rest, rfl, rfl⟩
  | .number value, rest, _ => by
      by_cases hfinite : value.isFinite = true
      · obtain ⟨read, hread, hnumeral⟩ := exists_numeral_text hfinite
        refine ⟨.number read, .number _ rest _ hnumeral, ?_, rfl⟩
        rw [ofJson, hread, received, mapFinite, if_pos hfinite]
      · refine ⟨.null, ?_, (if_neg hfinite).symm, rfl⟩
        cases value with
        | nan => exact .null rest
        | infinite => exact .null rest
        | finite negative rank => exact absurd rfl hfinite
  | .string value, rest, _ => ⟨.string value, value_stringText value rest, rfl, rfl⟩
  | .array items, rest, h => by
      obtain ⟨trees, hlisted, hitems, hdepth⟩ := exists_listed_writeItems true items rest h
      refine ⟨.array trees, .array _ rest _ hlisted, ?_, ?_⟩
      · rw [ofJson, hitems, received, mapFinite]
      · rw [Json.depth, hdepth, depth]
  | .object entries, rest, h => by
      obtain ⟨trees, hlisted, hentries, hdepth⟩ := exists_listed_writeEntries true entries rest h.2
      refine ⟨.object trees, .object _ rest _ hlisted, ?_, ?_⟩
      · rw [ofJson, hentries, Entries.ofList_of_sorted (sorted_entriesMapFinite _ h.1), received,
          mapFinite]
      · rw [Json.depth, hdepth, depth]

/-- The text of items is a list of the grammar of documents. -/
theorem exists_listed_writeItems (first : Bool) : ∀ (items : List Value) (rest : List Char),
    ListWellFormed items → ∃ trees,
      Json.Listed ']' Json.Value first (writeItems first items rest) rest trees ∧
      listOfJson trees = listMapFinite Binary64.reread items ∧
      Json.depthItems trees = depthItems items
  | [], _, _ => ⟨[], .done _ _ _ (.refl _), rfl, rfl⟩
  | item :: items, rest, h => by
      obtain ⟨trees, hlisted, hitems, hdepths⟩ := exists_listed_writeItems false items rest h.2
      obtain ⟨tree, htree, hitem, hdepth⟩ :=
        exists_value_write item (writeItems false items rest) h.1
      refine ⟨tree :: trees, .next _ _ _ _ _ _ _ (itemStart_separator first _) htree hlisted,
        ?_, ?_⟩
      · rw [listOfJson, hitem, hitems, listMapFinite, received]
      · rw [Json.depthItems, hdepth, hdepths, depthItems]

/-- The text of entries is a list of the grammar of documents. -/
theorem exists_listed_writeEntries (first : Bool) : ∀ (entries : List (String × Value))
    (rest : List Char), EntriesWellFormed entries → ∃ trees,
      Json.Listed '\x7d' (Json.Entry Json.Value) first (writeEntries first entries rest) rest
        trees ∧
      entriesOfJson trees = entriesMapFinite Binary64.reread entries ∧
      Json.depthEntries trees = depthEntries entries
  | [], _, _ => ⟨[], .done _ _ _ (.refl _), rfl, rfl⟩
  | (key, value) :: entries, rest, h => by
      obtain ⟨trees, hlisted, hentries, hdepths⟩ :=
        exists_listed_writeEntries false entries rest h.2
      obtain ⟨tree, htree, hvalue, hdepth⟩ :=
        exists_value_write value (writeEntries false entries rest) h.1
      refine ⟨(key, tree) :: trees, .next _ _ _ _ _ _ _ (itemStart_separator first _)
        (entry_stringText key htree) hlisted, ?_, ?_⟩
      · rw [entriesOfJson, hvalue, hentries, entriesMapFinite, received]
      · rw [Json.depthEntries, hdepth, hdepths, depthEntries]

end

/-- The text of a value is a document. -/
theorem exists_document_text {value : Value} (h : value.WellFormed) : ∃ tree,
    Json.Document value.text.toList tree ∧ ofJson tree = value.received ∧
      tree.depth = value.depth := by
  obtain ⟨tree, htree, hread, hdepth⟩ := exists_value_write value [] h
  refine ⟨tree, ⟨_, [], .refl _, ?_, .refl []⟩, hread, hdepth⟩
  rwa [text, String.toList_ofList]

/-- The two ways to write a value agree. -/
theorem compact_toJson (value : Value) : value.toJson.compact = value.text :=
  congrArg String.ofList (write_toJson value 0 [])

/-! ## Reading back -/

/-- Texts are read with at most 127 arrays and objects inside each other. -/
theorem parse_eq_ok_iff {value read : Value} (h : value.WellFormed) :
    parse value.text = .ok read ↔ value.depth ≤ 127 ∧ read = value.received := by
  obtain ⟨document, hdocument, hreceived, hdepth⟩ := exists_document_text h
  rw [← hreceived, ← hdepth]
  unfold parse
  constructor
  · intro hread
    cases htree : Json.parse Json.depthLimit value.text with
    | error error =>
        rw [htree] at hread
        cases hread
    | ok tree =>
        rw [htree] at hread
        cases hread
        obtain ⟨hother, hlimit⟩ := Json.parse_eq_ok_iff.1 htree
        obtain rfl := hother.unique hdocument
        exact ⟨hlimit, rfl⟩
  · rintro ⟨hlimit, rfl⟩
    have htree : Json.parse Json.depthLimit value.text = .ok document :=
      Json.parse_eq_ok_iff.2 ⟨hdocument, hlimit⟩
    rw [htree]
    rfl

/-- The text of a value is read if no more than 127 arrays and objects are nested in each other,
with the numbers that are read for its numbers; other texts are refused. If the numbers read back,
it is read as the clean value. Text keeps of a value exactly what is clean, and it is the text of
the tree of the value, which is converted back to the clean value. The text of a context is that of
its entries and that of the object with these entries. -/
theorem parse_text {value : Value} (h : value.WellFormed) :
    (value.depth ≤ 127 → parse value.text = .ok value.received) ∧
    (value.depth ≤ 127 → (∀ number ∈ value.allNumbers, number.ReadsBack) →
      parse value.text = .ok value.clean) ∧
    (127 < value.depth → ∃ error, parse value.text = .error error) ∧
    value.clean.text = value.text ∧
    (∀ other : Value, other.WellFormed → (other.text = value.text ↔ other.clean = value.clean)) ∧
    value.toJson.compact = value.text ∧
    ofJson value.toJson = value.clean ∧
    ∀ context : Context, Context.text context = Context.serialize context ∧
      Context.text context = (Value.object context.entries).text := by
  have hclean (other : Value) : other.clean.text = other.text := by
    rw [← compact_toJson, toJson_clean, compact_toJson]
  refine ⟨fun hdepth => ?_, fun hdepth hnumbers => ?_, fun hdepth => ?_, hclean value,
    fun other _ => ⟨clean_eq_of_text, fun hsame => ?_⟩, compact_toJson value, ofJson_toJson value h,
    fun context => ⟨rfl, rfl⟩⟩
  · exact (parse_eq_ok_iff h).2 ⟨hdepth, rfl⟩
  · exact (parse_eq_ok_iff h).2 ⟨hdepth, (received_eq_clean hnumbers).symm⟩
  · cases hread : parse value.text with
    | error error => exact ⟨error, rfl⟩
    | ok read => exact absurd ((parse_eq_ok_iff h).1 hread).1 (Nat.not_le.2 hdepth)
  · rw [← hclean other, hsame, hclean value]

/-- Null inside the given number of arrays. -/
def boxed : Nat → Value
  | 0 => .null
  | count + 1 => .array [boxed count]

/-- Nested arrays are well formed. -/
theorem wellFormed_boxed (count : Nat) : (boxed count).WellFormed := by
  induction count with
  | zero => trivial
  | succ count ih => exact ⟨ih, trivial⟩

/-- Nested arrays are as deep as they are many. -/
theorem depth_boxed (count : Nat) : (boxed count).depth = count := by
  induction count with
  | zero => rfl
  | succ count ih => rw [boxed, depth, depthItems, depthItems, ih, Nat.max_zero]

/-- Nested arrays hold no number that reading could change. -/
theorem received_boxed (count : Nat) : (boxed count).received = boxed count := by
  induction count with
  | zero => rfl
  | succ count ih =>
      rw [received] at ih
      rw [boxed, received, mapFinite, listMapFinite, listMapFinite, ih]

/-- An object is read back without the sign of zero and with null for what is not a number, and a
value can be nested too deeply by one level. -/
theorem parse_text_nested :
    let value : Value := .object [("a", .array [.number .nan, .number (.zero true)]),
      ("b", .string "\n\"")]
    let other : Value := .object [("a", .array [.number (.infinite true), .number (.zero false)]),
      ("b", .string "\n\"")]
    value.text = "\x7b\"a\":[null,0],\"b\":\"\\n\\\"\"\x7d" ∧ other.text = value.text ∧
    parse value.text = .ok (.object [("a", .array [.null, .number (.zero false)]),
      ("b", .string "\n\"")]) ∧
    parse (boxed 127).text = .ok (boxed 127) ∧
    ∃ error, parse (boxed 128).text = .error error := by
  intro value other
  have hsorted {first second : Value} : Entries.Sorted [("a", first), ("b", second)] :=
    List.pairwise_pair.2 (show "a" < "b" by decide)
  have hvalue : value.WellFormed := ⟨hsorted, ⟨trivial, trivial, trivial⟩, trivial, trivial⟩
  have hother : other.WellFormed := ⟨hsorted, ⟨trivial, trivial, trivial⟩, trivial, trivial⟩
  have hback : ∀ number ∈ value.allNumbers, number.ReadsBack := by decide +kernel
  have hclean {number : Binary64} (negative : Bool) (h : number.isFinite = false) :
      (Value.object [("a", .array [.number number, .number (.zero negative)]),
        ("b", .string "\n\"")]).clean =
      .object [("a", .array [.null, .number (.zero false)]), ("b", .string "\n\"")] := by
    have hzero : (Binary64.zero negative).isFinite = true := rfl
    have hunsigned : (Binary64.zero negative).unsignZero = .zero false :=
      Binary64.unsignZero_eq_zero rfl
    simp [clean, mapFinite, entriesMapFinite, listMapFinite, h, hzero, hunsigned]
  obtain ⟨-, hread, -, -, htext, -⟩ := parse_text hvalue
  rw [hclean true rfl] at hread htext
  refine ⟨by decide +kernel, (htext other hother).2 (hclean false rfl), hread (by decide) hback,
    ?_, ?_⟩
  · have hdeepest := (parse_text (wellFormed_boxed 127)).1 (Nat.le_of_eq (depth_boxed 127))
    rwa [received_boxed] at hdeepest
  · exact (parse_text (wellFormed_boxed 128)).2.2.1 (by rw [depth_boxed]; decide)

end HostScript.Value

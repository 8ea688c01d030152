import HostScript.Proofs.Json.Writing

/-!
# Brackets that are open at once

`openAtOnce` counts on a text how many brackets and braces are open at once, where those inside
strings do not count. The text of a tree has as many as the tree is deep, in either layout
(`openAtOnce_render`).
-/

namespace HostScript.Json

/-! ## Depth of trees -/

mutual

/-- How many arrays and objects are nested in each other. -/
def depth : Json → Nat
  | .array items => depthItems items + 1
  | .object entries => depthEntries entries + 1
  | _ => 0

/-- The depth of the deepest of some trees. -/
def depthItems : List Json → Nat
  | [] => 0
  | item :: items => max item.depth (depthItems items)

/-- The depth of the deepest tree of some entries. -/
def depthEntries : List (String × Json) → Nat
  | [] => 0
  | (_, item) :: entries => max item.depth (depthEntries entries)

end

/-- Trees fit into a bound if each of them does. -/
theorem depthItems_le {items : List Json} {bound : Nat} :
    depthItems items ≤ bound ↔ ∀ item ∈ items, item.depth ≤ bound := by
  induction items with
  | nil => simp [depthItems]
  | cons item items ih => rw [depthItems, Nat.max_le, ih, List.forall_mem_cons]

/-- An array fits into a budget if a level is left for it and its items fit into the rest. -/
theorem depth_array_le {items : List Json} {bound : Nat} :
    (Json.array items).depth ≤ bound ↔ 0 < bound ∧ ∀ item ∈ items, item.depth ≤ bound - 1 := by
  rw [depth, ← depthItems_le]
  omega

/-- An object with one entry fits into a budget if a level is left for it and the entry fits into
the rest. -/
theorem depth_object_le {key : String} {item : Json} {bound : Nat} :
    (Json.object [(key, item)]).depth ≤ bound ↔ 0 < bound ∧ item.depth ≤ bound - 1 := by
  rw [depth, depthEntries, depthEntries, Nat.max_zero]
  omega

/-! ## Brackets of texts -/

/-- Where a scan of a text stands: outside of strings, inside a string, or after a backslash in
one. -/
inductive Scan where
  | outside
  | inside
  | escaped
deriving DecidableEq, Repr

/-- The most brackets and braces that are open at once from here on, given how many are open. -/
def deepest : Scan → Nat → List Char → Nat
  | _, opened, [] => opened
  | .outside, opened, char :: text =>
    if char = '"' then deepest .inside opened text
    else if char = '[' ∨ char = '\x7b' then deepest .outside (opened + 1) text
    else if char = ']' ∨ char = '\x7d' then max opened (deepest .outside (opened - 1) text)
    else deepest .outside opened text
  | .inside, opened, char :: text =>
    if char = '"' then deepest .outside opened text
    else if char = '\\' then deepest .escaped opened text
    else deepest .inside opened text
  | .escaped, opened, _ :: text => deepest .inside opened text

/-- The most brackets and braces that are open at once in a text. -/
def openAtOnce (text : String) : Nat :=
  deepest .outside 0 text.toList

/-- Those that are open here count. -/
theorem le_deepest (scan : Scan) (opened : Nat) (text : List Char) :
    opened ≤ deepest scan opened text := by
  induction text generalizing scan opened with
  | nil => cases scan <;> exact Nat.le_refl _
  | cons char text ih =>
      cases scan with
      | outside =>
          rw [deepest]
          split
          · exact ih ..
          split
          · exact Nat.le_of_succ_le (ih ..)
          split
          · exact Nat.le_max_left ..
          · exact ih ..
      | inside =>
          rw [deepest]
          split
          · exact ih ..
          split
          · exact ih ..
          · exact ih ..
      | escaped => exact ih ..

/-- Characters that are neither quotes nor brackets. -/
def isPlain (char : Char) : Bool :=
  !(['"', '[', ']', '\x7b', '\x7d'].contains char)

/-- Plain characters outside of strings open and close nothing. -/
theorem deepest_plain {plain : List Char} (h : ∀ char ∈ plain, isPlain char = true) (opened : Nat)
    (rest : List Char) :
    deepest .outside opened (plain ++ rest) = deepest .outside opened rest := by
  induction plain with
  | nil => rfl
  | cons char plain ih =>
      have hchar := h char List.mem_cons_self
      simp only [isPlain, List.contains_cons, List.contains_nil, Bool.not_eq_true',
        Bool.or_eq_false_iff, beq_eq_false_iff_ne] at hchar
      obtain ⟨hquote, hopen, hclose, hopenBrace, hcloseBrace, -⟩ := hchar
      rw [List.cons_append, deepest, if_neg hquote, if_neg (by simp [hopen, hopenBrace]),
        if_neg (by simp [hclose, hcloseBrace])]
      exact ih fun other hother => h other (List.mem_cons_of_mem _ hother)

/-- A character of a string that is no quote and no backslash changes nothing. -/
theorem deepest_inside_cons {char : Char} (hquote : char ≠ '"') (hslash : char ≠ '\\')
    (opened : Nat) (rest : List Char) :
    deepest .inside opened (char :: rest) = deepest .inside opened rest := by
  rw [deepest, if_neg hquote, if_neg hslash]

/-- An escaped character stays inside its string. -/
theorem deepest_escapeChar (char : Char) (opened : Nat) (rest : List Char) :
    deepest .inside opened (escapeChar char ++ rest) = deepest .inside opened rest := by
  have hdigit : ∀ digit < 16, Nat.digitChar digit ≠ '"' ∧ Nat.digitChar digit ≠ '\\' := by decide
  unfold escapeChar
  split
  · rfl
  split
  · rfl
  split
  · rfl
  split
  · rfl
  split
  · rfl
  split
  · rfl
  split
  · rfl
  split
  · next hcontrol =>
      obtain ⟨hquote, hslash⟩ := hdigit (char.toNat / 16) (by omega)
      obtain ⟨hquote', hslash'⟩ := hdigit (char.toNat % 16) (by omega)
      show deepest .inside opened ('0' :: '0' :: Nat.digitChar (char.toNat / 16) ::
        Nat.digitChar (char.toNat % 16) :: rest) = _
      rw [deepest_inside_cons (by decide) (by decide), deepest_inside_cons (by decide) (by decide),
        deepest_inside_cons hquote hslash, deepest_inside_cons hquote' hslash']
  · next hquote hslash _ _ _ _ _ _ => exact deepest_inside_cons hquote hslash opened rest

/-- The text of a string opens and closes nothing. -/
theorem deepest_stringText (value : String) (opened : Nat) (rest : List Char) :
    deepest .outside opened (stringText value ++ rest) = deepest .outside opened rest := by
  have hchars : ∀ chars : List Char,
      deepest .inside opened (chars.flatMap escapeChar ++ '"' :: rest) =
        deepest .outside opened rest := by
    intro chars
    induction chars with
    | nil => rfl
    | cons char chars ih =>
        rw [List.flatMap_cons, List.append_assoc, deepest_escapeChar]
        exact ih
  have htext : stringText value ++ rest =
      '"' :: (value.toList.flatMap escapeChar ++ '"' :: rest) := by
    simp [stringText]
  rw [htext]
  exact hchars value.toList

/-- Digits are plain. -/
theorem isPlain_of_isDigit {char : Char} (h : char.isDigit = true) : isPlain char = true := by
  have hmem : char ∉ ['"', '[', ']', '\x7b', '\x7d'] := fun hmem =>
    Text.ne_of_class h (by decide) char hmem rfl
  simpa [isPlain] using hmem

/-- The characters of a decimal are plain. -/
theorem isPlain_of_mem_layout (decimal : Decimal) :
    ∀ char ∈ decimal.layout, isPlain char = true := by
  have hdigits : ∀ {number : Nat}, ∀ char ∈ Nat.toDigits 10 number, isPlain char = true :=
    fun char hchar => isPlain_of_isDigit (isDigit_of_mem_toDigits hchar)
  have hzeros : ∀ {count : Nat}, ∀ char ∈ List.replicate count '0', isPlain char = true :=
    fun char hchar => isPlain_of_isDigit (isDigit_of_mem_zeros char hchar)
  have htake : ∀ {number count : Nat}, ∀ char ∈ (Nat.toDigits 10 number).take count,
      isPlain char = true := fun char hchar => hdigits char (List.mem_of_mem_take hchar)
  have hdrop : ∀ {number count : Nat}, ∀ char ∈ (Nat.toDigits 10 number).drop count,
      isPlain char = true := fun char hchar => hdigits char (List.mem_of_mem_drop hchar)
  unfold Decimal.layout
  dsimp only
  split
  · split
    · exact List.forall_mem_append.2 ⟨htake, List.forall_mem_cons.2 ⟨rfl, hdrop⟩⟩
    · exact List.forall_mem_append.2 ⟨List.forall_mem_append.2 ⟨hdigits, hzeros⟩, by decide⟩
  · split
    · exact List.forall_mem_append.2 ⟨List.forall_mem_append.2 ⟨by decide, hzeros⟩, hdigits⟩
    · refine List.forall_mem_append.2 ⟨List.forall_mem_append.2 ⟨htake, ?_⟩,
        List.forall_mem_cons.2 ⟨rfl, List.forall_mem_cons.2 ⟨?_, hdigits⟩⟩⟩
      · split
        · exact fun _ h => absurd h List.not_mem_nil
        · exact List.forall_mem_cons.2 ⟨rfl, hdrop⟩
      · split
        · rfl
        · rfl

/-- The characters of a number are plain. -/
theorem isPlain_of_mem_number {number : Number} : ∀ char ∈ number.text, isPlain char = true := by
  have hdigits : ∀ {number : Nat}, ∀ char ∈ Nat.toDigits 10 number, isPlain char = true :=
    fun char hchar => isPlain_of_isDigit (isDigit_of_mem_toDigits hchar)
  cases number with
  | integer value =>
      cases value with
      | ofNat magnitude => exact hdigits
      | negSucc magnitude => exact List.forall_mem_cons.2 ⟨rfl, hdigits⟩
  | float value =>
      cases value with
      | nan => exact (by decide : ∀ char ∈ nullText, isPlain char = true)
      | infinite => exact (by decide : ∀ char ∈ nullText, isPlain char = true)
      | finite negative rank =>
          simp only [Number.text, Binary64.floatText?, Option.getD_some]
          split
          · exact List.forall_mem_cons.2 ⟨rfl, isPlain_of_mem_layout _⟩
          · exact isPlain_of_mem_layout _

/-- Blanks are plain. -/
theorem isPlain_of_isSeparator {char : Char} (h : Text.isSeparator char = true) :
    isPlain char = true := by
  have hall : ∀ char ∈ [' ', '\t', '\n', '\r'], isPlain char = true := by decide
  exact hall char ((Text.isSeparator_iff char).1 h)

section Written

variable {layout : Layout} (hlayout : layout.IsBlank)
include hlayout

/-- A line break opens no level. -/
theorem deepest_lineBreak (level opened : Nat) (rest : List Char) :
    deepest .outside opened (layout.lineBreak level ++ rest) = deepest .outside opened rest :=
  deepest_plain (fun char hchar => isPlain_of_isSeparator (hlayout.lineBreak level char hchar))
    opened rest

/-- A colon and the blank after it open no level. -/
theorem deepest_afterColon (opened : Nat) (rest : List Char) :
    deepest .outside opened (':' :: (layout.afterColon ++ rest)) = deepest .outside opened rest :=
  deepest_plain (fun char hchar => isPlain_of_isSeparator (hlayout.afterColon char hchar))
    opened rest

mutual

/-- A written tree opens as many brackets at once as it is deep. -/
theorem deepest_write : ∀ (level opened : Nat) (json : Json) (rest : List Char),
    deepest .outside opened (write layout level json rest) =
      max (opened + json.depth) (deepest .outside opened rest)
  | _, opened, .null, rest => (Nat.max_eq_right (le_deepest ..)).symm
  | _, opened, .boolean true, rest => (Nat.max_eq_right (le_deepest ..)).symm
  | _, opened, .boolean false, rest => (Nat.max_eq_right (le_deepest ..)).symm
  | _, opened, .number value, rest => by
      rw [write, deepest_plain isPlain_of_mem_number]
      exact (Nat.max_eq_right (le_deepest ..)).symm
  | _, opened, .string value, rest => by
      rw [write, deepest_stringText]
      exact (Nat.max_eq_right (le_deepest ..)).symm
  | _, opened, .array [], rest => rfl
  | level, opened, .array (item :: items), rest => by
      have hitem := deepest_write (level + 1) (opened + 1) item (writeItems layout level items rest)
      have hitems := deepest_writeItems level opened items rest
      rw [write, depth, depthItems]
      -- The bracket that was just opened stays open for all items.
      show deepest .outside (opened + 1) (layout.lineBreak (level + 1) ++ _) = _
      rw [deepest_lineBreak hlayout, hitem, hitems]
      omega
  | _, opened, .object [], rest => rfl
  | level, opened, .object ((key, item) :: entries), rest => by
      have hitem := deepest_write (level + 1) (opened + 1) item
        (writeEntries layout level entries rest)
      have hentries := deepest_writeEntries level opened entries rest
      rw [write, depth, depthEntries]
      simp only [List.append_assoc, List.cons_append]
      show deepest .outside (opened + 1) (layout.lineBreak (level + 1) ++ _) = _
      rw [deepest_lineBreak hlayout, deepest_stringText, deepest_afterColon hlayout, hitem,
        hentries]
      omega

/-- The items after the first one, with the closing bracket. -/
theorem deepest_writeItems : ∀ (level opened : Nat) (items : List Json) (rest : List Char),
    deepest .outside (opened + 1) (writeItems layout level items rest) =
      max (opened + 1 + depthItems items) (deepest .outside opened rest)
  | level, opened, [], rest => by
      rw [writeItems, deepest_lineBreak hlayout]
      rfl
  | level, opened, item :: items, rest => by
      have hitem := deepest_write (level + 1) (opened + 1) item (writeItems layout level items rest)
      have hitems := deepest_writeItems level opened items rest
      rw [writeItems, depthItems]
      show deepest .outside (opened + 1) (layout.lineBreak (level + 1) ++ _) = _
      rw [deepest_lineBreak hlayout, hitem, hitems]
      omega

/-- The entries after the first one, with the closing brace. -/
theorem deepest_writeEntries : ∀ (level opened : Nat) (entries : List (String × Json))
    (rest : List Char), deepest .outside (opened + 1) (writeEntries layout level entries rest) =
      max (opened + 1 + depthEntries entries) (deepest .outside opened rest)
  | level, opened, [], rest => by
      rw [writeEntries, deepest_lineBreak hlayout]
      rfl
  | level, opened, (key, item) :: entries, rest => by
      have hitem := deepest_write (level + 1) (opened + 1) item
        (writeEntries layout level entries rest)
      have hentries := deepest_writeEntries level opened entries rest
      rw [writeEntries, depthEntries]
      simp only [List.append_assoc, List.cons_append]
      show deepest .outside (opened + 1) (layout.lineBreak (level + 1) ++ _) = _
      rw [deepest_lineBreak hlayout, deepest_stringText, deepest_afterColon hlayout, hitem,
        hentries]
      omega

end

/-- The text of a tree has as many brackets open at once as the tree is deep. -/
theorem openAtOnce_render (json : Json) :
    openAtOnce (String.ofList (render layout json)) = json.depth := by
  rw [openAtOnce, String.toList_ofList, render, deepest_write hlayout]
  exact (Nat.max_eq_left (Nat.zero_le _)).trans (Nat.zero_add _)

end Written

-- Brackets inside strings do not count, also after an escaped quote.
example : openAtOnce "[\x7b\"a[\": [1, \"\\\"]\"]\x7d, []]" = 3 := by decide

end HostScript.Json

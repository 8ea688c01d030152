import Mathlib.Logic.Relation
import HostScript.Proofs.Source.Compiling
import HostScript.Proofs.Source.Portable

/-!
# Blanks between lexemes

Outside of strings it does not matter which blanks stand between two lexemes, nor how many, as long
as there are some, and blanks around the whole text do not matter at all. `Respaces` changes one run
of blanks in this way, and texts that come from each other by such changes compile to the same
programs (`compile_respaced`).

The proof compares the two texts from the same lexeme on: `Alike` says that they differ in their
blanks only, and every phrase at the start of the one is the same phrase at the start of the other
(`compositional_elastic`).
-/

namespace HostScript

namespace Grammar

open Text

/-! ## Changing blanks -/

/-- Nothing but blanks. -/
def AllBlank (text : List Char) : Prop :=
  ∀ char ∈ text, char ∈ [' ', '\t', '\n', '\r']

instance (text : List Char) : Decidable (AllBlank text) :=
  inferInstanceAs (Decidable (∀ char ∈ text, _))

/-- One run of blanks of a text is replaced by another one: at the start or at the end of the text,
where either of them may be empty, or inside the text, where neither is. A run inside of a string,
which has an odd number of quotes before it, stays as it is. -/
inductive Respaces : List Char → List Char → Prop where
  | start (run other after) : AllBlank run → AllBlank other →
      Respaces (run ++ after) (other ++ after)
  | finish (before run other) : before.count '"' % 2 = 0 → AllBlank run → AllBlank other →
      Respaces (before ++ run) (before ++ other)
  | inside (before run other after) : before.count '"' % 2 = 0 → run ≠ [] → other ≠ [] →
      AllBlank run → AllBlank other → Respaces (before ++ run ++ after) (before ++ other ++ after)

/-- A change of blanks can be taken back. -/
theorem Respaces.symm {text other : List Char} (h : Respaces text other) : Respaces other text := by
  cases h with
  | start run other after hrun hother => exact .start _ _ _ hother hrun
  | finish before run other hbefore hrun hother => exact .finish _ _ _ hbefore hother hrun
  | inside before run other after hbefore hne hotherNe hrun hother =>
      exact .inside _ _ _ _ hbefore hotherNe hne hother hrun

/-! ## Texts that differ in their blanks -/

/-- The same text but for its blanks, from a place on that is `quoted` if it lies inside of a
string. -/
inductive Alike : (quoted : Bool) → List Char → List Char → Prop where
  | finish (text other) : AllBlank text → AllBlank other → Alike false text other
  | unclosed : Alike true [] []
  | run (run otherRun text other) : run ≠ [] → otherRun ≠ [] → AllBlank run → AllBlank otherRun →
      Alike false text other → Alike false (run ++ text) (otherRun ++ other)
  | char (quoted char text other) : Alike (quoted ^^ (char == '"')) text other →
      Alike quoted (char :: text) (char :: other)

/-- In a text of blanks every character is one. -/
theorem isSeparator_of_mem_allBlank {text : List Char} (h : AllBlank text) {char : Char}
    (hchar : char ∈ text) : isSeparator char = true :=
  (isSeparator_iff char).2 (h char hchar)

/-- Blanks do not continue a name. -/
theorem AllBlank.stops {text : List Char} (h : AllBlank text) : Stops isNamePart text := by
  have hall : ∀ char ∈ [' ', '\t', '\n', '\r'], isNamePart char = false := by decide
  exact fun char hchar => hall char (h char (List.mem_of_mem_head? hchar))

/-- Whether a text ends inside of a string. -/
def endsQuoted (text : List Char) : Bool :=
  text.count '"' % 2 == 1

/-- A quote in front swaps inside and outside. -/
theorem endsQuoted_cons (char : Char) (text : List Char) :
    endsQuoted (char :: text) = ((char == '"') ^^ endsQuoted text) := by
  unfold endsQuoted
  by_cases h : char = '"'
  · subst h
    rw [List.count_cons_self]
    rcases Nat.mod_two_eq_zero_or_one (text.count '"') with heven | hodd
    · simp [heven, Nat.add_mod]
    · simp [hodd, Nat.add_mod]
  · rw [List.count_cons_of_ne h, beq_false_of_ne h, Bool.false_xor]

namespace Alike

variable {quoted : Bool} {text other : List Char}

/-- The same text may stand before texts that differ in their blanks. -/
theorem prepend (before : List Char) (h : Alike (quoted ^^ endsQuoted before) text other) :
    Alike quoted (before ++ text) (before ++ other) := by
  induction before generalizing quoted with
  | nil => simpa [endsQuoted] using h
  | cons char before ih =>
      rw [endsQuoted_cons, ← Bool.xor_assoc] at h
      exact .char _ _ _ _ (ih h)

/-- A text is alike itself. -/
theorem refl (quoted : Bool) (text : List Char) : Alike quoted text text := by
  have hnil : ∀ quoted, Alike quoted [] [] := by
    intro quoted
    cases quoted with
    | false => exact .finish _ _ (List.forall_mem_nil _) (List.forall_mem_nil _)
    | true => exact .unclosed
  simpa using prepend text (hnil (quoted ^^ endsQuoted text))

/-- Only blanks outside of strings differ. -/
theorem uncons {char : Char} (h : Alike quoted (char :: text) other)
    (hchar : quoted = true ∨ isSeparator char = false) :
    ∃ more, other = char :: more ∧ Alike (quoted ^^ (char == '"')) text more := by
  have hnot : quoted = false → ∀ blanks, AllBlank blanks → char ∉ blanks := by
    rintro rfl blanks hblanks hmem
    have hsame := hchar.resolve_left Bool.false_ne_true
    rw [isSeparator_of_mem_allBlank hblanks hmem] at hsame
    cases hsame
  generalize htext : char :: text = whole at h
  cases h with
  | finish _ _ hblanks =>
      subst htext
      exact absurd List.mem_cons_self (hnot rfl _ hblanks)
  | unclosed => cases htext
  | run run otherRun _ _ hne _ hblanks =>
      obtain ⟨first, others, rfl⟩ := List.exists_cons_of_ne_nil hne
      cases htext
      exact absurd List.mem_cons_self (hnot rfl _ hblanks)
  | char _ _ _ more hmore =>
      cases htext
      exact ⟨more, rfl, hmore⟩

/-- The characters of a lexeme are the same in both texts. -/
theorem unappend {taken : List Char} (h : Alike quoted (taken ++ text) other)
    (htaken : ∀ char ∈ taken, (quoted = true ∨ isSeparator char = false) ∧ char ≠ '"') :
    ∃ more, other = taken ++ more ∧ Alike quoted text more := by
  induction taken generalizing other with
  | nil => exact ⟨other, rfl, h⟩
  | cons char taken ih =>
      obtain ⟨hchar, hothers⟩ := List.forall_mem_cons.1 htaken
      obtain ⟨more, rfl, hmore⟩ := h.uncons hchar.1
      rw [beq_false_of_ne hchar.2, Bool.xor_false] at hmore
      obtain ⟨rest, rfl, hrest⟩ := ih hmore hothers
      exact ⟨rest, rfl, hrest⟩

/-- Where the one text ends, only blanks are left of the other. -/
theorem allBlank (h : Alike false [] other) : AllBlank other := by
  generalize htext : [] = text at h
  generalize hquoted : false = quoted at h
  cases h with
  | finish _ _ _ hother => exact hother
  | unclosed => cases hquoted
  | run _ _ _ _ hne => exact absurd (List.append_eq_nil_iff.1 htext.symm).1 hne
  | char => cases htext

/-- Where the one text does not continue a name, the other does not either. -/
theorem stops (h : Alike false text other) (htext : Stops isNamePart text) :
    Stops isNamePart other := by
  generalize hquoted : false = quoted at h
  cases h with
  | finish _ _ _ hother => exact hother.stops
  | unclosed => cases hquoted
  | run _ otherRun _ _ _ hne _ hblanks =>
      obtain ⟨first, others, rfl⟩ := List.exists_cons_of_ne_nil hne
      exact stops_cons.2 (stops_cons.1 hblanks.stops)
  | char => exact stops_cons.2 (stops_cons.1 htext)

/-- Blanks at the start of the one text are blanks at the start of the other. -/
theorem blanks {rest : List Char} (h : Alike false text other) (hblanks : Blanks text rest) :
    ∃ otherRest, Blanks other otherRest ∧ Alike false rest otherRest := by
  obtain ⟨taken, htaken, rfl⟩ := hblanks
  generalize hquoted : false = quoted at h
  generalize htext : taken ++ rest = text at h
  induction h generalizing taken with
  | finish text other htextBlank hother =>
      subst htext
      have hrest : AllBlank rest := fun char hchar =>
        htextBlank char (List.mem_append_right _ hchar)
      exact ⟨other, .refl other, .finish _ _ hrest hother⟩
  | unclosed => cases hquoted
  | run run otherRun text other hne hotherNe hrun hotherRun hmore ih =>
      -- Either the run was taken as a whole, or none of the other run is taken.
      rcases List.append_eq_append_iff.1 htext with ⟨left, hleft, rfl⟩ | ⟨left, rfl, rfl⟩
      · cases left with
        | nil => exact ⟨other, ⟨otherRun, hotherRun, rfl⟩, hmore⟩
        | cons first left =>
            have hleftBlank : AllBlank (first :: left) := fun char hchar =>
              hrun char (hleft ▸ List.mem_append_right _ hchar)
            exact ⟨otherRun ++ other, .refl _,
              .run _ _ _ _ (List.cons_ne_nil _ _) hotherNe hleftBlank hotherRun hmore⟩
      · obtain ⟨otherRest, hotherBlanks, hrest⟩ := ih left
          (fun char hchar => htaken char (List.mem_append_right _ hchar)) rfl rfl
        exact ⟨otherRest, Blanks.trans ⟨otherRun, hotherRun, rfl⟩ hotherBlanks, hrest⟩
  | char quoted char text other hmore ih =>
      cases taken with
      | nil =>
          subst htext hquoted
          exact ⟨char :: other, .refl _, .char _ _ _ _ hmore⟩
      | cons first taken =>
          cases htext
          obtain ⟨hfirst, hothers⟩ := List.forall_mem_cons.1 htaken
          have hquote : (char == '"') = false := by
            have hall : ∀ char ∈ [' ', '\t', '\n', '\r'], (char == '"') = false := by decide
            exact hall char hfirst
          subst hquoted
          rw [hquote] at ih
          obtain ⟨otherRest, hotherBlanks, hrest⟩ := ih taken hothers rfl rfl
          exact ⟨otherRest, Blanks.trans ⟨[char], by simpa using hfirst, rfl⟩ hotherBlanks, hrest⟩

end Alike

/-- Changed blanks inside or at the end of a text leave it alike, and blanks at the start may be
skipped. -/
theorem Respaces.alike {text other : List Char} (h : Respaces text other) :
    ∃ start otherStart, Blanks text start ∧ Blanks other otherStart ∧
      Alike false start otherStart := by
  have hoverall : ∀ {before text other : List Char}, before.count '"' % 2 = 0 →
      Alike false text other → Alike false (before ++ text) (before ++ other) := by
    intro before text other hbefore halike
    exact .prepend before (by simpa [endsQuoted, hbefore] using halike)
  cases h with
  | start run other after hrun hother =>
      exact ⟨after, after, ⟨run, hrun, rfl⟩, ⟨other, hother, rfl⟩, .refl false after⟩
  | finish before run other hbefore hrun hother =>
      exact ⟨_, _, .refl _, .refl _, hoverall hbefore (.finish _ _ hrun hother)⟩
  | inside before run other after hbefore hne hotherNe hrun hother =>
      refine ⟨_, _, .refl _, .refl _, ?_⟩
      rw [List.append_assoc, List.append_assoc]
      exact hoverall hbefore (.run _ _ _ _ hne hotherNe hrun hother (.refl false after))

/-! ## Phrases of texts that differ in their blanks -/

/-- Texts that are alike start with the same phrase and are alike after it. -/
def Elastic (R : Phrase) : Phrase := fun text rest =>
  ∀ other, Alike false text other → ∃ otherRest, R other otherRest ∧ Alike false rest otherRest

/-- The plain characters are neither blanks nor quotes. -/
theorem isPlain_iff {char : Char} :
    isPlain char = true ↔ isSeparator char = false ∧ char ≠ '"' := by
  simp [isPlain]

/-- Lexemes are the same in texts that are alike, and blanks are blanks. -/
theorem compositional_elastic : Compositional Elastic where
  mono h hle other halike := by
    obtain ⟨otherRest, hR, hrest⟩ := h other halike
    exact ⟨otherRest, hle _ _ hR, hrest⟩
  followed h hnext other halike := by
    obtain ⟨mid, hR, hmid⟩ := h other halike
    obtain ⟨otherRest, hS, hrest⟩ := hnext mid hmid
    exact ⟨otherRest, ⟨mid, hR, hS⟩, hrest⟩
  blanks hblanks other halike := halike.blanks hblanks
  plain rest htaken other halike :=
    halike.unappend fun char hchar => (isPlain_iff.1 (htaken char hchar)).imp_left .inr
  quoted rest hvalue other halike := by
    rw [List.append_assoc] at halike
    obtain ⟨inner, rfl, hinner⟩ := halike.uncons (.inr (by decide))
    obtain ⟨close, rfl, hclose⟩ := hinner.unappend fun char hchar =>
      ⟨.inl rfl, fun hquote => hvalue (hquote ▸ hchar)⟩
    obtain ⟨otherRest, rfl, hrest⟩ := hclose.uncons (.inl rfl)
    exact ⟨otherRest, by simp [Exactly], hrest⟩
  whole htaken hstops other halike := by
    obtain ⟨otherRest, rfl, hrest⟩ := halike.unappend fun char hchar =>
      (isPlain_iff.1 (isPlain_of_class (htaken char hchar) (by decide))).imp_left .inr
    exact ⟨otherRest, ⟨rfl, hrest.stops hstops⟩, hrest⟩

/-- Blanks at the start of a block that is followed by no blank may be left out. -/
theorem Block.skip_blanks {text start rest : List Char} {statements : List Statement}
    (h : Block text rest statements) (hblanks : Blanks text start)
    (hrest : Stops isSeparator rest) : Block start rest statements := by
  have hsame : start.dropWhile isSeparator = text.dropWhile isSeparator := by
    obtain ⟨blanks, hall, rfl⟩ := hblanks
    exact (List.dropWhile_append_of_pos fun char hchar =>
      isSeparator_of_mem_allBlank hall hchar).symm
  cases h with
  | nil _ _ hnone => exact .nil _ _ (hnone.of_dropWhile hrest hsame)
  | cons _ _ _ _ _ _ hfirstBlanks hfirst hothers =>
      exact .cons _ _ _ _ _ _ (hfirstBlanks.of_dropWhile hfirst.ends.stops hsame) hfirst hothers

/-- A change of blanks leaves a text the text of its program. -/
theorem Derives.respace {text other : List Char} {program : Program} (h : Derives text program)
    (hspaces : Respaces text other) : Derives other program := by
  obtain ⟨start, otherStart, hblanks, hotherBlanks, halike⟩ := hspaces.alike
  have hstart : Block start [] program.statements := Block.skip_blanks h hblanks stops_nil
  obtain ⟨otherRest, hblock, hend⟩ := compositional_elastic.block hstart otherStart halike
  -- What is left after the statements of the other text are blanks, which belong to the block.
  have hwhole : Block otherStart [] (program.statements ++ []) :=
    hblock.append (.nil _ _ ⟨otherRest, hend.allBlank, (List.append_nil _).symm⟩)
  rw [List.append_nil] at hwhole
  exact hwhole.of_blanks hotherBlanks

/-- Any number of changes of blanks leaves a text the text of the same program. -/
theorem derives_respaced {text other : List Char} (h : Relation.ReflTransGen Respaces text other)
    (program : Program) : Derives text program ↔ Derives other program := by
  induction h with
  | refl => rfl
  | tail _ hstep ih => exact ih.trans ⟨fun h => h.respace hstep, fun h => h.respace hstep.symm⟩

end Grammar

open Grammar

/-- A text compiles to a program exactly if each text does that comes from it by changes of the
blanks outside of its strings, where blanks stay blanks, and of those around the whole text. -/
theorem compile_respaced {source other : String}
    (h : Relation.ReflTransGen Respaces source.toList other.toList) (program : Program) :
    compile source = .ok program ↔ compile other = .ok program := by
  have hsame := derives_respaced h program
  exact ⟨fun hcompile => compile_of_derives (hsame.1 (derives_of_compile hcompile)),
    fun hcompile => compile_of_derives (hsame.2 (derives_of_compile hcompile))⟩

/-- The blanks inside of a string stay, and all others may be line breaks. -/
theorem compile_respaced_lines :
    Relation.ReflTransGen Respaces "f(\"x  y\") g()".toList "\nf(\"x  y\")\r\ng()\t".toList ∧
      ∃ program, compile "f(\"x  y\") g()" = .ok program ∧
        compile "\nf(\"x  y\")\r\ng()\t" = .ok program ∧
        program.equals ⟨[.call "f" [.string "x  y"], .call "g" []]⟩ = true := by
  have hstart : Respaces "f(\"x  y\") g()".toList "\nf(\"x  y\") g()".toList := by
    simpa using Respaces.start [] ['\n'] "f(\"x  y\") g()".toList (by decide) (by decide)
  have hinside : Respaces "\nf(\"x  y\") g()".toList "\nf(\"x  y\")\r\ng()".toList := by
    simpa using Respaces.inside "\nf(\"x  y\")".toList [' '] ['\r', '\n'] "g()".toList (by decide)
      (by decide) (by decide) (by decide) (by decide)
  have hfinish : Respaces "\nf(\"x  y\")\r\ng()".toList "\nf(\"x  y\")\r\ng()\t".toList := by
    simpa using Respaces.finish "\nf(\"x  y\")\r\ng()".toList [] ['\t'] (by decide) (by decide)
      (by decide)
  have hspaces := ((Relation.ReflTransGen.single hstart).tail hinside).tail hfinish
  have hcheck : (match compile "f(\"x  y\") g()" with
      | .error _ => false
      | .ok program => program.equals ⟨[.call "f" [.string "x  y"], .call "g" []]⟩) = true := by
    decide +kernel
  split at hcheck
  · cases hcheck
  next program hcompile =>
    exact ⟨hspaces, program, hcompile, (compile_respaced hspaces program).1 hcompile, hcheck⟩

end HostScript

import HostScript.Proofs.Source.Follow

/-!
# Phrases by composition

Phrases are lexemes put one after the other, and there are four sorts of lexemes: blanks, texts
without blanks and quotes, strings, and words and names, which look at what follows them. A property
of phrases that holds of these four and of one phrase after another holds of all phrases
(`Compositional.operation` to `Compositional.block`), so the induction over the grammar is done
here once.
-/

namespace HostScript.Grammar

open Text

/-- What may be said of a text and its rest: `text` starts with a phrase and goes on with `rest`. -/
abbrev Phrase := List Char → List Char → Prop

/-- One phrase after another. -/
def Then (first second : Phrase) : Phrase := fun text rest =>
  ∃ mid, first text mid ∧ second mid rest

/-- Some given characters. -/
def Exactly (taken : List Char) : Phrase := fun text rest =>
  text = taken ++ rest

/-- Some given characters that do not go on as a name. -/
def Whole (taken : List Char) : Phrase := fun text rest =>
  text = taken ++ rest ∧ Stops isNamePart rest

/-- Whether a character neither separates lexemes nor delimits a string. -/
def isPlain (char : Char) : Bool :=
  !isSeparator char && char != '"'

/-- A property of phrases that is kept when phrases are put together and holds of every lexeme. -/
structure Compositional (Q : Phrase → Phrase) : Prop where
  mono {R S : Phrase} {text rest : List Char} :
    Q R text rest → (∀ text rest, R text rest → S text rest) → Q S text rest
  followed {R S : Phrase} {text mid rest : List Char} :
    Q R text mid → Q S mid rest → Q (Then R S) text rest
  blanks {text rest : List Char} : Blanks text rest → Q Blanks text rest
  plain {taken : List Char} (rest : List Char) :
    (∀ char ∈ taken, isPlain char) → Q (Exactly taken) (taken ++ rest) rest
  quoted {value : List Char} (rest : List Char) :
    '"' ∉ value → Q (Exactly ('"' :: value ++ ['"'])) ('"' :: value ++ ['"'] ++ rest) rest
  whole {taken rest : List Char} : (∀ char ∈ taken, isNamePart char) → Stops isNamePart rest →
    Q (Whole taken) (taken ++ rest) rest

/-! ## Lexemes -/

/-- A class without blanks and quotes has plain characters only. -/
theorem isPlain_of_class {p : Char → Bool} {char : Char} (h : p char = true)
    (hothers : ∀ other ∈ [' ', '\t', '\n', '\r', '"'], p other = false) : isPlain char = true := by
  have hne := ne_of_class h hothers
  simp [isPlain, isSeparator, hne]

/-- The characters of a literal are digits, signs and points. -/
theorem Literal.plain {literal : List Char} {value : Binary64} (h : Literal literal value) :
    ∀ char ∈ literal, isPlain char := by
  have hdigit : ∀ {char : Char}, char.isDigit = true → isPlain char = true := fun h =>
    isPlain_of_class h (by decide)
  obtain ⟨sign, negative, digits, whole, fraction, hsign, hdigits, rfl, -⟩ := h
  intro char hchar
  rcases List.mem_append.1 hchar with hchar | hchar
  · cases hsign with
    | none => cases hchar
    | plus | minus =>
        cases List.mem_singleton.1 hchar
        decide
  · cases hdigits with
    | whole _ _ hwhole => exact hdigit (hwhole char hchar)
    | point _ _ _ hwhole hfraction =>
        rcases List.mem_append.1 hchar with hchar | hchar
        · exact hdigit (hwhole char hchar)
        · rcases List.mem_cons.1 hchar with rfl | hchar
          · decide
          · exact hdigit (hfraction char hchar)
    | leading _ _ hfraction =>
        rcases List.mem_cons.1 hchar with rfl | hchar
        · decide
        · exact hdigit (hfraction char hchar)

namespace Compositional

variable {Q : Phrase → Phrase} (hQ : Compositional Q)

include hQ

/-- One character that is neither a blank nor a quote. -/
theorem mark {char : Char} (rest : List Char) (h : isPlain char = true) :
    Q (Exactly [char]) (char :: rest) rest :=
  hQ.plain rest (List.forall_mem_singleton.2 h)

/-- The reserved words have the property. -/
theorem word {word : String} {text rest : List Char} (h : Word word text rest)
    (hmem : word ∈ reservedWords := by decide) : Q (Word word) text rest := by
  obtain ⟨rfl, hstops⟩ := h
  exact hQ.whole (isNamePart_of_mem_reserved hmem) hstops

/-- Names have the property. -/
theorem name {name : String} {text rest : List Char} (h : Name name text rest) :
    Q (Name name) text rest := by
  obtain ⟨hname, rfl, hstops⟩ := h
  exact hQ.mono (hQ.whole (Parser.isNamePart_of_mem_name hname) hstops) fun _ _ h => ⟨hname, h⟩

/-- The spellings of operators have the property. -/
theorem spelled {operator : Operator} {text rest : List Char} (h : Spelled operator text rest) :
    Q (Spelled operator) text rest := by
  cases operator with
  | and | or => exact hQ.word h
  | _ =>
      subst h
      exact hQ.plain rest (by decide)

/-- A phrase in front of a fixed character, which then belongs to it. -/
theorem closed {R : Phrase} {char : Char} {text rest : List Char} (h : Q R text (char :: rest))
    (hchar : isPlain char = true := by decide) :
    Q (fun text rest => R text (char :: rest)) text rest := by
  refine hQ.mono (hQ.followed h (hQ.mark rest hchar)) ?_
  rintro text rest ⟨_, hR, rfl⟩
  exact hR

/-- A fixed character in front of a phrase, which then belongs to it. -/
theorem opened {R : Phrase} {char : Char} {text rest : List Char} (h : Q R text rest)
    (hchar : isPlain char = true := by decide) :
    Q (fun text rest => ∃ inner, text = char :: inner ∧ R inner rest) (char :: text) rest := by
  refine hQ.mono (hQ.followed (hQ.mark text hchar) h) ?_
  rintro _ rest ⟨inner, rfl, hR⟩
  exact ⟨inner, rfl, hR⟩

/-! ## Expressions -/

mutual

/-- Operations have the property, by recursion over the derivation. -/
theorem operation : ∀ {level : Nat} {text rest : List Char} {expr : Expr},
    Operation level text rest expr → Q (Operation level · · expr) text rest
  | _, _, _, _, .tighter _ _ _ _ hlevel hnext =>
      hQ.mono (operation hnext) fun _ _ hnext => .tighter _ _ _ _ hlevel hnext
  | _, _, _, _, .binary _ _ _ _ _ _ _ _ _ _ hlevel hleft hbefore hspelled hafter hright => by
      refine hQ.mono (hQ.followed (operation hleft) (hQ.followed (hQ.blanks hbefore)
        (hQ.followed (hQ.spelled hspelled) (hQ.followed (hQ.blanks hafter)
        (operation hright))))) ?_
      rintro _ _ ⟨_, hleft, _, hbefore, _, hspelled, _, hafter, hright⟩
      exact .binary _ _ _ _ _ _ _ _ _ _ hlevel hleft hbefore hspelled hafter hright
  | _, _, _, _, .not _ _ _ _ _ hword hblanks hoperand => by
      refine hQ.mono (hQ.followed (hQ.word hword) (hQ.followed (hQ.blanks hblanks)
        (operation hoperand))) ?_
      rintro _ _ ⟨_, hword, _, hblanks, hoperand⟩
      exact .not _ _ _ _ _ hword hblanks hoperand
  | _, _, _, _, .term _ _ _ hterm => hQ.mono (term hterm) fun _ _ hterm => .term _ _ _ hterm

/-- Terms have the property. -/
theorem term : ∀ {text rest : List Char} {expr : Expr},
    Term text rest expr → Q (Term · · expr) text rest
  | _, _, _, .number _ rest _ hliteral => by
      refine hQ.mono (hQ.plain rest hliteral.plain) ?_
      rintro _ rest rfl
      exact .number _ _ _ hliteral
  | _, _, _, .trueWord _ _ hword =>
      hQ.mono (hQ.word hword) fun _ _ hword => .trueWord _ _ hword
  | _, _, _, .falseWord _ _ hword =>
      hQ.mono (hQ.word hword) fun _ _ hword => .falseWord _ _ hword
  | _, _, _, .call _ _ _ _ _ hname hargs => by
      refine hQ.mono (hQ.followed (hQ.closed (hQ.name hname))
        (elements (by decide) hargs)) ?_
      rintro _ _ ⟨_, hname, hargs⟩
      exact .call _ _ _ _ _ hname hargs
  | _, _, _, .chain _ _ _ hchain => hQ.mono (chain hchain) fun _ _ hchain => .chain _ _ _ hchain
  | _, _, _, .array _ _ _ helements => by
      refine hQ.mono (hQ.opened (elements (by decide) helements)) ?_
      rintro _ _ ⟨_, rfl, helements⟩
      exact .array _ _ _ helements
  | _, _, _, .string value rest hquote => by
      have htext : '"' :: value.toList ++ '"' :: rest =
          '"' :: value.toList ++ ['"'] ++ rest := by simp
      rw [htext]
      refine hQ.mono (hQ.quoted rest hquote) ?_
      rintro _ rest rfl
      rw [List.append_assoc]
      exact .string _ _ hquote
  | _, _, _, .parenthesized _ _ _ _ _ hbefore hinner hafter => by
      refine hQ.mono (hQ.opened (hQ.followed (hQ.blanks hbefore)
        (hQ.followed (operation hinner) (hQ.closed (hQ.blanks hafter))))) ?_
      rintro _ _ ⟨_, rfl, _, hbefore, _, hinner, hafter⟩
      exact .parenthesized _ _ _ _ _ hbefore hinner hafter

/-- Chains have the property. -/
theorem chain : ∀ {text rest : List Char} {expr : Expr},
    Chain text rest expr → Q (Chain · · expr) text rest
  | _, _, _, .var _ _ _ hname => hQ.mono (hQ.name hname) fun _ _ hname => .var _ _ _ hname
  | _, _, _, .property _ _ _ _ _ hbase hname => by
      refine hQ.mono (hQ.followed (hQ.closed (chain hbase)) (hQ.name hname)) ?_
      rintro _ _ ⟨_, hbase, hname⟩
      exact .property _ _ _ _ _ hbase hname
  | _, _, _, .method _ _ _ _ _ _ _ hbase hname hargs => by
      refine hQ.mono (hQ.followed (hQ.closed (chain hbase))
        (hQ.followed (hQ.closed (hQ.name hname)) (elements (by decide) hargs))) ?_
      rintro _ _ ⟨_, hbase, _, hname, hargs⟩
      exact .method _ _ _ _ _ _ _ hbase hname hargs

/-- Lists have the property up to their closing bracket. -/
theorem elements : ∀ {close : Char} {text rest : List Char} {exprs : List Expr},
    isPlain close = true → Elements close text rest exprs → Q (Elements close · · exprs) text rest
  | _, _, _, _, hclose, .none _ _ _ hblanks =>
      hQ.mono (hQ.closed (hQ.blanks hblanks) hclose) fun _ _ hblanks => .none _ _ _ hblanks
  | _, _, _, _, hclose, .some _ _ _ _ _ _ _ hblanks hfirst hothers => by
      refine hQ.mono (hQ.followed (hQ.blanks hblanks) (hQ.followed (operation hfirst)
        (moreElements hclose hothers))) ?_
      rintro _ _ ⟨_, hblanks, _, hfirst, hothers⟩
      exact .some _ _ _ _ _ _ _ hblanks hfirst hothers

/-- The elements after the first one have the property up to the closing bracket. -/
theorem moreElements : ∀ {close : Char} {text rest : List Char} {exprs : List Expr},
    isPlain close = true → MoreElements close text rest exprs →
      Q (MoreElements close · · exprs) text rest
  | _, _, _, _, hclose, .done _ _ _ hblanks =>
      hQ.mono (hQ.closed (hQ.blanks hblanks) hclose) fun _ _ hblanks => .done _ _ _ hblanks
  | _, _, _, _, hclose, .next _ _ _ _ _ _ _ _ hblanks hafter helement hothers => by
      refine hQ.mono (hQ.followed (hQ.closed (hQ.blanks hblanks))
        (hQ.followed (hQ.blanks hafter) (hQ.followed (operation helement)
        (moreElements hclose hothers)))) ?_
      rintro _ _ ⟨_, hblanks, _, hafter, _, helement, hothers⟩
      exact .next _ _ _ _ _ _ _ _ hblanks hafter helement hothers

end

/-! ## Statements -/

mutual

/-- Statements have the property, by recursion over the derivation. -/
theorem sentence : ∀ {text rest : List Char} {statement : Statement},
    Sentence text rest statement → Q (Sentence · · statement) text rest
  | _, _, _, .assign _ _ _ _ _ _ _ hname hbefore hafter hvalue => by
      refine hQ.mono (hQ.followed (hQ.name hname) (hQ.followed (hQ.closed
        (hQ.blanks hbefore)) (hQ.followed (hQ.blanks hafter) (hQ.operation hvalue)))) ?_
      rintro _ _ ⟨_, hname, _, hbefore, _, hafter, hvalue⟩
      exact .assign _ _ _ _ _ _ _ hname hbefore hafter hvalue
  | _, _, _, .call _ _ _ _ _ hname hargs => by
      refine hQ.mono (hQ.followed (hQ.closed (hQ.name hname))
        (hQ.elements (by decide) hargs)) ?_
      rintro _ _ ⟨_, hname, hargs⟩
      exact .call _ _ _ _ _ hname hargs
  | _, _, _, .method _ _ _ _ _ hchain =>
      hQ.mono (hQ.chain hchain) fun _ _ hchain => .method _ _ _ _ _ hchain
  | _, _, _, .branch _ _ _ hbranch =>
      hQ.mono (branch hbranch) fun _ _ hbranch => .branch _ _ _ hbranch
  | _, _, _, .forEach _ _ _ _ _ _ _ _ _ _ _ _ _ _ _ _ _ hfor hatEach heach hatName hname hatIn hin
      hatTerm hterm hatDo hdo hbody hend => by
      refine hQ.mono (hQ.followed (hQ.word hfor) (hQ.followed (hQ.blanks hatEach)
        (hQ.followed (hQ.word heach) (hQ.followed (hQ.blanks hatName)
        (hQ.followed (hQ.name hname) (hQ.followed (hQ.blanks hatIn)
        (hQ.followed (hQ.word hin) (hQ.followed (hQ.blanks hatTerm)
        (hQ.followed (hQ.term hterm) (hQ.followed (hQ.blanks hatDo)
        (hQ.followed (hQ.word hdo) (hQ.followed (block hbody)
        (hQ.word hend))))))))))))) ?_
      rintro _ _ ⟨_, hfor, _, hatEach, _, heach, _, hatName, _, hname, _, hatIn, _, hin, _,
        hatTerm, _, hterm, _, hatDo, _, hdo, _, hbody, hend⟩
      exact .forEach _ _ _ _ _ _ _ _ _ _ _ _ _ _ _ _ _ hfor hatEach heach hatName hname hatIn hin
        hatTerm hterm hatDo hdo hbody hend

/-- Branches have the property. -/
theorem branch : ∀ {text rest : List Char} {statement : Statement},
    Branch text rest statement → Q (Branch · · statement) text rest
  | _, _, _, .intro _ _ _ _ _ _ _ _ _ _ _ hif hatTest htest hatThen hthen hconsequent hother => by
      refine hQ.mono (hQ.followed (hQ.word hif) (hQ.followed (hQ.blanks hatTest)
        (hQ.followed (hQ.operation htest) (hQ.followed (hQ.blanks hatThen)
        (hQ.followed (hQ.word hthen) (hQ.followed (block hconsequent)
        (otherwise hother))))))) ?_
      rintro _ _ ⟨_, hif, _, hatTest, _, htest, _, hatThen, _, hthen, _, hconsequent, hother⟩
      exact .intro _ _ _ _ _ _ _ _ _ _ _ hif hatTest htest hatThen hthen hconsequent hother

/-- What follows the first block of a branch has the property. -/
theorem otherwise : ∀ {text rest : List Char} {alternative : List Statement},
    Otherwise text rest alternative → Q (Otherwise · · alternative) text rest
  | _, _, _, .none _ _ hend =>
      hQ.mono (hQ.word hend) fun _ _ hend => .none _ _ hend
  | _, _, _, .nested _ _ _ _ _ helse hatIf hbranch => by
      refine hQ.mono (hQ.followed (hQ.word helse) (hQ.followed (hQ.blanks hatIf)
        (branch hbranch))) ?_
      rintro _ _ ⟨_, helse, _, hatIf, hbranch⟩
      exact .nested _ _ _ _ _ helse hatIf hbranch
  | _, _, _, .block _ _ _ _ _ helse hblock hstart hend => by
      refine hQ.mono (hQ.followed (hQ.word helse) (hQ.followed (block hblock)
        (hQ.word hend))) ?_
      rintro _ _ ⟨_, helse, _, hblock, hend⟩
      exact .block _ _ _ _ _ helse hblock hstart hend

/-- Blocks have the property. -/
theorem block : ∀ {text rest : List Char} {statements : List Statement},
    Block text rest statements → Q (Block · · statements) text rest
  | _, _, _, .nil _ _ hblanks => hQ.mono (hQ.blanks hblanks) fun _ _ hblanks => .nil _ _ hblanks
  | _, _, _, .cons _ _ _ _ _ _ hblanks hfirst hothers => by
      refine hQ.mono (hQ.followed (hQ.blanks hblanks) (hQ.followed (sentence hfirst)
        (block hothers))) ?_
      rintro _ _ ⟨_, hblanks, _, hfirst, hothers⟩
      exact .cons _ _ _ _ _ _ hblanks hfirst hothers

end

end Compositional

end HostScript.Grammar

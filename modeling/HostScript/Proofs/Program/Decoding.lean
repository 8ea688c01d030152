import Mathlib
import HostScript.Proofs.Json.Accepting
import HostScript.Proofs.Program.Coding

/-!
# Reading exactly the trees of programs

The readers of the wire form work on the text and stop at the first problem. They accept exactly the
text of documents whose trees stand for a program (`Program.decode_eq_ok_iff`).
-/

namespace HostScript

open Json Json.Reader

open Grammar (Blanks)

open List (Forall₂)

namespace Wire

variable {α β γ : Type} {depth : Nat} {text start rest : List Char}

/-! ## Operands -/

/-- The reader takes the items that are left of a list, and its closing bracket. -/
def Completes (reader : Reader α) (first : Bool) (depth : Nat) (C : α → List Json → Prop) : Prop :=
  ∀ {text rest value}, reader text = .ok (value, rest) ↔
    ∃ trees, Listed ']' Value first text rest trees ∧ (∀ tree ∈ trees, tree.depth ≤ depth) ∧
      C value trees

/-- The reader of items takes what is left of a list if it accepts each item. -/
theorem items_completes {item : Reader α} {C : α → Json → Prop}
    (h : Accepts item (Codes C depth)) : Completes (items item) true depth (Forall₂ C) := by
  intro text rest values
  rw [items_iff h, listed_codes_iff]

/-- After the last operand the list is closed. -/
theorem close_completes (first : Bool) (result : α) :
    Completes (do close ']'; return result) first depth
      fun value trees => trees = [] ∧ result = value := by
  intro text rest value
  constructor
  · intro h
    obtain ⟨_, mid, hclose, hpure⟩ := bind_success h
    obtain ⟨rfl, rfl⟩ := pure_eq_ok.1 hpure
    exact ⟨[], .done _ _ _ ((close_iff rfl).1 hclose), by simp, rfl, rfl⟩
  · rintro ⟨_, hlisted, -, rfl, rfl⟩
    cases hlisted with
    | done first text rest hblanks => exact bind_ok ((close_iff rfl).2 hblanks)

/-- An operand is read before those after it. -/
theorem operand_completes {reader : Reader α} {f : α → Reader β} {C : α → Json → Prop}
    {D : α → β → List Json → Prop} (h : Accepts reader (Codes C depth))
    (hothers : ∀ value, Completes (f value) false depth (D value)) (count index : Nat) :
    Completes (operand count index reader >>= f) (index == 0) depth fun result trees =>
      ∃ value tree others, trees = tree :: others ∧ C value tree ∧ D value result others := by
  have hmore := hasItem_announces (R := Value) Value.starts
  intro text rest result
  constructor
  · intro hread
    obtain ⟨value, finish, hoperand, hrest⟩ := bind_success hread
    obtain ⟨found, mid, hfound, hvalue⟩ := bind_success hoperand
    cases found with
    | false => cases hvalue
    | true =>
        obtain ⟨start, hblanks, tree, htree, hdepth, hC⟩ := h.sound hvalue
        obtain ⟨others, hlisted, hall, hD⟩ := (hothers value).1 hrest
        exact ⟨tree :: others, .next _ _ _ _ _ _ _ ((hmore.next_sound hfound).of_blanks hblanks)
          htree hlisted, List.forall_mem_cons.2 ⟨hdepth, hall⟩, value, tree, others, rfl, hC, hD⟩
  · rintro ⟨_, hlisted, hall, value, tree, others, rfl, hC, hD⟩
    obtain ⟨hdepth, hall⟩ := List.forall_mem_cons.1 hall
    cases hlisted with
    | next first text start finish rest tree others hstart htree hlisted =>
        have hvalue : reader start = .ok (value, finish) :=
          h.complete (.refl start) ⟨tree, htree, hdepth, hC⟩ (hlisted.numberEnds (by decide))
        have hoperand : operand count index reader text = .ok (value, finish) := by
          unfold operand
          rw [bind_ok (hmore.next_complete hstart htree)]
          exact hvalue
        rw [bind_ok hoperand]
        exact (hothers value).2 ⟨others, hlisted, hall, hD⟩

/-- A list is read after its opening bracket, which spends a level. -/
theorem array_accepts {wanted : Wanted} {body : Nat → Reader α} {C : α → List Json → Prop}
    (h : ∀ less < depth, Completes (body less) true less C) :
    Accepts (do openArray wanted; nested depth body)
      (Codes (fun value tree => ∃ trees, tree = .array trees ∧ C value trees) depth) where
  sound {text rest value} hread := by
    obtain ⟨_, inner, hopen, hbody⟩ := bind_success hread
    cases depth with
    | zero => cases hbody
    | succ less =>
        obtain ⟨trees, hlisted, hall, hC⟩ := (h less (Nat.lt_succ_self less)).1 hbody
        exact ⟨_, openArray_iff.1 hopen, .array trees, .array _ _ _ hlisted,
          depth_array_le.2 ⟨Nat.succ_pos less, hall⟩, trees, rfl, hC⟩
  complete {text start rest value} hblanks hcodes _ := by
    obtain ⟨_, hvalue, hdepth, trees, rfl, hC⟩ := hcodes
    obtain ⟨inner, rfl, hlisted⟩ := value_array_iff.1 hvalue
    obtain ⟨hpos, hall⟩ := depth_array_le.1 hdepth
    obtain ⟨less, rfl⟩ := Nat.exists_eq_add_one_of_ne_zero (Nat.ne_of_gt hpos)
    rw [bind_ok (openArray_iff.2 hblanks)]
    exact (h less (Nat.lt_succ_self less)).2 ⟨trees, hlisted, hall, hC⟩

section Lists

/-- The reader accepts the trees of a meaning that are less deep than the bound. -/
def AcceptsBelow (reader : Nat → Reader α) (C : α → Json → Prop) (depth : Nat) : Prop :=
  ∀ less < depth, Accepts (reader less) (Codes C less)

variable {first : Nat → Reader α} {second : Nat → Reader β} {third : Nat → Reader γ}
  {A : α → Json → Prop} {B : β → Json → Prop} {C : γ → Json → Prop}
  (hfirst : AcceptsBelow first A depth) (hsecond : AcceptsBelow second B depth)
  (hthird : AcceptsBelow third C depth)
include hfirst

/-- A list of one operand is accepted. -/
theorem single_accepts :
    Accepts (single depth first)
      (Codes (fun value tree => ∃ a, tree = .array [a] ∧ A value a) depth) := by
  refine (array_accepts fun less hless =>
    operand_completes (hfirst less hless) (close_completes false) 1 0).congr fun value tree => ?_
  constructor
  · rintro ⟨a, rfl, hA⟩
    exact ⟨[a], rfl, value, a, [], rfl, hA, rfl, rfl⟩
  · rintro ⟨_, rfl, _, a, _, rfl, hA, rfl, rfl⟩
    exact ⟨a, rfl, hA⟩

/-- A list of any number of operands is accepted. -/
theorem sequence_accepts :
    Accepts (sequence first depth)
      (Codes (fun values tree => ∃ trees, tree = .array trees ∧ Forall₂ A values trees) depth) :=
  array_accepts fun less hless => items_completes (hfirst less hless)

/-- A list of any number of operands is accepted at all depths below the bound. -/
theorem sequence_acceptsBelow :
    AcceptsBelow (sequence first)
      (fun values tree => ∃ trees, tree = .array trees ∧ Forall₂ A values trees) depth :=
  fun _ hless => sequence_accepts fun fewer hfewer => hfirst fewer (hfewer.trans hless)

include hsecond

/-- A list of two operands is accepted. -/
theorem pair_accepts :
    Accepts (pair depth first second)
      (Codes (fun value tree => ∃ a b, tree = .array [a, b] ∧ A value.1 a ∧ B value.2 b)
        depth) := by
  refine (array_accepts fun less hless => operand_completes (hfirst less hless) (fun first =>
    operand_completes (hsecond less hless) (fun second => close_completes false (first, second))
      2 1) 2 0).congr fun value tree => ?_
  constructor
  · rintro ⟨a, b, rfl, hA, hB⟩
    exact ⟨[a, b], rfl, _, a, [b], rfl, hA, _, b, [], rfl, hB, rfl, rfl⟩
  · rintro ⟨_, rfl, _, a, _, rfl, hA, _, b, _, rfl, hB, rfl, rfl⟩
    exact ⟨a, b, rfl, hA, hB⟩

include hthird

/-- A list of three operands is accepted. -/
theorem triple_accepts :
    Accepts (triple depth first second third)
      (Codes (fun value tree => ∃ a b c, tree = .array [a, b, c] ∧ A value.1 a ∧ B value.2.1 b ∧
        C value.2.2 c) depth) := by
  refine (array_accepts fun less hless => operand_completes (hfirst less hless) (fun first =>
    operand_completes (hsecond less hless) (fun second => operand_completes (hthird less hless)
      (fun third => close_completes false (first, second, third)) 3 2) 3 1) 3 0).congr
    fun value tree => ?_
  constructor
  · rintro ⟨a, b, c, rfl, hA, hB, hC⟩
    exact ⟨[a, b, c], rfl, _, a, [b, c], rfl, hA, _, b, [c], rfl, hB, _, c, [], rfl, hC, rfl, rfl⟩
  · rintro ⟨_, rfl, _, a, _, rfl, hA, _, b, _, rfl, hB, _, c, _, rfl, hC, rfl, rfl⟩
    exact ⟨a, b, c, rfl, hA, hB, hC⟩

end Lists

/-! ## Nodes -/

/-- The reader takes the colon after a key and the item of the key. -/
structure Supplies (reader : Reader α) (C : α → Json → Prop) (depth : Nat) : Prop where
  sound : ∀ {text rest value}, reader text = .ok (value, rest) →
    ∃ after start, Blanks text (':' :: after) ∧ Blanks after start ∧
      Codes C depth start rest value
  complete : ∀ {text after start rest value}, Blanks text (':' :: after) → Blanks after start →
    Codes C depth start rest value → NumberEnds rest → reader text = .ok (value, rest)

/-- What is read after a colon is passed on if it passes a check. -/
theorem check_supplies {inner : Reader α} {f : α → Reader β} {C : α → Json → Prop}
    {P : α → β → Prop} (h : Accepts inner (Codes C depth))
    (hf : ∀ value result text rest, f value text = .ok (result, rest) ↔
      P value result ∧ text = rest) :
    Supplies (do colon; f (← inner))
      (fun result tree => ∃ value, C value tree ∧ P value result) depth where
  sound {text rest result} hread := by
    obtain ⟨_, after, hcolon, hinner⟩ := bind_success hread
    obtain ⟨value, mid, hvalue, hresult⟩ := bind_success hinner
    obtain ⟨hpasses, rfl⟩ := (hf _ _ _ _).1 hresult
    obtain ⟨start, hblanks, tree, htree, hdepth, hC⟩ := h.sound hvalue
    exact ⟨after, start, colon_iff.1 hcolon, hblanks, tree, htree, hdepth, value, hC, hpasses⟩
  complete {text after start rest result} hcolon hblanks hcodes hrest := by
    obtain ⟨tree, htree, hdepth, value, hC, hpasses⟩ := hcodes
    rw [bind_ok (colon_iff.2 hcolon),
      bind_ok (h.complete hblanks ⟨tree, htree, hdepth, hC⟩ hrest)]
    exact (hf _ _ _ _).2 ⟨hpasses, rfl⟩

/-- What is read after a colon is wrapped. -/
theorem return_supplies {inner : Reader α} {f : α → β} {C : α → Json → Prop}
    (h : Accepts inner (Codes C depth)) :
    Supplies (do colon; return f (← inner))
      (fun result tree => ∃ value, C value tree ∧ f value = result) depth :=
  check_supplies h fun _ _ _ _ => pure_eq_ok

/-- Reads the only entry of an object, and its closing brace. -/
def field (kind : String) (body : String → Reader α) : Reader α := do
  if ← hasKey true then
    let tag ← string
    let result ← body tag
    if ← hasKey false then
      let _ ← string
      throw (.shape (.extraKey kind))
    close '\x7d'
    return result
  else throw (.shape (.missingTag kind))

/-- A node is an object with one field, and the tag chooses what its operands are. -/
theorem node_eq (kind : String) (depth : Nat) (body : String → Nat → Reader α) :
    node kind depth body = (do
      openObject (.node kind)
      nested depth fun less => field kind fun tag => body tag less) :=
  rfl

section Fields

variable {kind : String} {body : String → Reader α} {C : String → α → Json → Prop} {value : α}
  (h : ∀ tag, Supplies (body tag) (C tag) depth)
include h

/-- What is read as the only entry of an object is one. -/
theorem field_sound (hread : field kind body text = .ok (value, rest)) :
    ∃ tag operand, Listed '\x7d' (Entry Value) true text rest [(tag, operand)] ∧
      operand.depth ≤ depth ∧ C tag value operand := by
  have hmore := hasKey_announces (R := Value)
  obtain ⟨found, mid, hfound, hrest⟩ := bind_success hread
  cases found with
  | false => cases hrest
  | true =>
      obtain ⟨tag, afterKey, htag, hrest⟩ := bind_success hrest
      obtain ⟨result, finish, hbody, hrest⟩ := bind_success hrest
      obtain ⟨another, left, hanother, hrest⟩ := bind_success hrest
      cases another with
      | true =>
          -- A second key is read, and refused.
          obtain ⟨_, _, _, hthrow⟩ := bind_success hrest
          cases hthrow
      | false =>
          obtain ⟨_, after, hclose, hpure⟩ := bind_success hrest
          cases hpure
          obtain ⟨left, rfl, hend⟩ := hmore.done_sound hanother
          have hbrace : close '\x7d' ('\x7d' :: left) = .ok ((), left) :=
            close_blanks noBlanks rfl
          cases hbrace.symm.trans hclose
          obtain ⟨keyStart, hkeyBlanks, _, hkey, -, rfl⟩ := (string_accepts 0).sound htag
          obtain ⟨afterColon, start, hcolon, hblanks, tree, htree, hdepth, hC⟩ :=
            (h tag).sound hbody
          cases hkey with
          | string keyText afterKey chars hchars =>
              have hentry : Entry Value ('"' :: keyText) finish (String.ofList chars, tree) :=
                .intro _ _ _ _ _ _ _ hchars hcolon hblanks htree
              exact ⟨_, tree, .next _ _ _ _ _ _ _
                ((hmore.next_sound hfound).of_blanks hkeyBlanks) hentry (.done _ _ _ hend),
                hdepth, hC⟩

/-- The only entry of an object is read. -/
theorem field_complete {tag : String} {operand : Json}
    (hlisted : Listed '\x7d' (Entry Value) true text rest [(tag, operand)])
    (hdepth : operand.depth ≤ depth) (hC : C tag value operand) :
    field kind body text = .ok (value, rest) := by
  have hmore := hasKey_announces (R := Value)
  cases hlisted with
  | next first text keyStart finish rest entry entries hstart hentry hend =>
      have hfound := hmore.next_complete hstart hentry
      have hends := hend.numberEnds (by decide)
      cases hend with
      | done first finish rest hblanks =>
          have hanother : hasKey false finish = .ok (false, '\x7d' :: rest) :=
            hmore.done_complete hblanks
          cases hentry with
          | intro keyText afterKey after start finish chars operand hchars hcolon hitem htree =>
              have hkey : string ('"' :: keyText) = .ok (String.ofList chars, afterKey) :=
                (string_accepts 0).complete (.refl _)
                  ⟨_, .string _ _ _ hchars, Nat.le_refl 0, rfl⟩
                  (numberEnds_mark hcolon (by decide))
              have hbody : body (String.ofList chars) afterKey = .ok (value, finish) :=
                (h _).complete hcolon hitem ⟨operand, htree, hdepth, hC⟩ hends
              unfold field
              rw [bind_ok hfound]
              show (string >>= _) _ = _
              rw [bind_ok hkey, bind_ok hbody, bind_ok hanother]
              exact bind_ok (close_blanks noBlanks rfl)

end Fields

/-- A node is read after its opening brace, which spends a level. -/
theorem node_accepts {kind : String} {body : String → Nat → Reader α} {C : α → Json → Prop}
    (hnode : ∀ value tree, C value tree → ∃ tag operand, tree = .object [(tag, operand)])
    (h : ∀ less < depth, ∀ tag, Supplies (body tag less)
      (fun value operand => C value (.object [(tag, operand)])) less) :
    Accepts (node kind depth body) (Codes C depth) where
  sound {text rest value} hread := by
    rw [node_eq] at hread
    obtain ⟨_, inner, hopen, hnested⟩ := bind_success hread
    cases depth with
    | zero => cases hnested
    | succ less =>
        obtain ⟨tag, operand, hlisted, hdepth, hC⟩ :=
          field_sound (h less (Nat.lt_succ_self less)) hnested
        exact ⟨_, openObject_iff.1 hopen, _, .object _ _ _ hlisted,
          depth_object_le.2 ⟨Nat.succ_pos less, hdepth⟩, hC⟩
  complete {text start rest value} hblanks hcodes _ := by
    obtain ⟨tree, hvalue, hdepth, hC⟩ := hcodes
    obtain ⟨tag, operand, rfl⟩ := hnode value tree hC
    obtain ⟨inner, rfl, hlisted⟩ := value_object_iff.1 hvalue
    obtain ⟨hpos, hdepth⟩ := depth_object_le.1 hdepth
    obtain ⟨less, rfl⟩ := Nat.exists_eq_add_one_of_ne_zero (Nat.ne_of_gt hpos)
    rw [node_eq, bind_ok (openObject_iff.2 hblanks)]
    exact field_complete (h less (Nat.lt_succ_self less)) hlisted hdepth hC

/-! ## Expressions -/

/-- Another meaning may be read from the same text. -/
theorem Supplies.sound_imp {reader : Reader α} {C D : α → Json → Prop} {value : α}
    (h : Supplies reader C depth) (himp : ∀ value tree, C value tree → D value tree)
    (hread : reader text = .ok (value, rest)) :
    ∃ after start, Blanks text (':' :: after) ∧ Blanks after start ∧
      Codes D depth start rest value := by
  obtain ⟨after, start, hcolon, hblanks, tree, htree, hdepth, hC⟩ := h.sound hread
  exact ⟨after, start, hcolon, hblanks, tree, htree, hdepth, himp value tree hC⟩

/-- The operands of an expression are read after its tag. -/
theorem expressionBody_supplies {inner : Nat → Reader Expr}
    (hinner : AcceptsBelow inner Expr.Coded depth) (tag : String) :
    Supplies (expressionBody inner tag depth)
      (fun expr operand => expr.Coded (.object [(tag, operand)])) depth := by
  have hliteral : AcceptsBelow (fun _ => number) _ depth := fun less _ => number_accepts less
  have htruth : AcceptsBelow (fun _ => boolean) _ depth := fun less _ => boolean_accepts less
  have hname : AcceptsBelow (fun _ => string) _ depth := fun less _ => string_accepts less
  have hargs := sequence_acceptsBelow hinner
  -- What the reader of each tag accepts, for both directions.
  have hnumber := return_supplies (f := Expr.number) (single_accepts hliteral)
  have hstring := return_supplies (f := Expr.string) (single_accepts hname)
  have hboolean := return_supplies (f := Expr.boolean) (single_accepts htruth)
  have harray := return_supplies (f := Expr.array) (sequence_accepts hinner)
  have hvar := return_supplies (f := Expr.var) (single_accepts hname)
  have hproperty := return_supplies (f := fun value => Expr.property value.1 value.2)
    (pair_accepts hinner hname)
  have hmethod := return_supplies (f := fun value => Expr.method value.1 value.2.1 value.2.2)
    (triple_accepts hinner hname hargs)
  have hcall := return_supplies (f := fun value => Expr.call value.1 value.2)
    (pair_accepts hname hargs)
  have hnot := return_supplies (f := Expr.not) (single_accepts hinner)
  have hbinary operator := return_supplies
    (f := fun value => Expr.binary operator value.1 value.2) (pair_accepts hinner hinner)
  constructor
  -- A success gives a tree of the expression, tag by tag.
  · intro text rest expr h
    unfold expressionBody at h
    split at h
    · refine hnumber.sound_imp ?_ h
      rintro _ _ ⟨_, ⟨_, rfl, number, rfl, rfl⟩, rfl⟩
      exact .number number
    · refine hstring.sound_imp ?_ h
      rintro _ _ ⟨value, ⟨_, rfl, rfl⟩, rfl⟩
      exact .string value
    · refine hboolean.sound_imp ?_ h
      rintro _ _ ⟨value, ⟨_, rfl, rfl⟩, rfl⟩
      exact .boolean value
    · refine harray.sound_imp ?_ h
      rintro _ _ ⟨_, ⟨_, rfl, helements⟩, rfl⟩
      exact .array _ _ helements
    · refine hvar.sound_imp ?_ h
      rintro _ _ ⟨name, ⟨_, rfl, rfl⟩, rfl⟩
      exact .var name
    · refine hproperty.sound_imp ?_ h
      rintro _ _ ⟨_, ⟨_, _, rfl, hbase, rfl⟩, rfl⟩
      exact .property _ _ _ hbase
    · refine hmethod.sound_imp ?_ h
      rintro _ _ ⟨⟨_, _, _⟩, ⟨_, _, _, rfl, hbase, rfl, _, rfl, hargs⟩, rfl⟩
      exact .method _ _ _ _ _ hbase hargs
    · refine hcall.sound_imp ?_ h
      rintro _ _ ⟨_, ⟨_, _, rfl, rfl, _, rfl, hargs⟩, rfl⟩
      exact .call _ _ _ hargs
    · refine hnot.sound_imp ?_ h
      rintro _ _ ⟨_, ⟨_, rfl, hoperand⟩, rfl⟩
      exact .not _ _ hoperand
    · cases hsymbol : Operator.ofSymbol? tag with
      | none =>
          rw [hsymbol] at h
          cases h
      | some operator =>
          rw [hsymbol] at h
          refine (hbinary operator).sound_imp ?_ h
          rintro _ _ ⟨_, ⟨_, _, rfl, hleft, hright⟩, rfl⟩
          exact symbol_of_ofSymbol? hsymbol ▸ .binary _ _ _ _ _ hleft hright
  -- A tree of an expression has its tag, so the reader of that tag is the one that runs.
  · intro text after start rest expr hcolon hblanks hcodes hends
    obtain ⟨operand, htree, hdepth, hcoded⟩ := hcodes
    generalize hnode : Json.object [(tag, operand)] = node at hcoded
    cases hcoded with obtain ⟨rfl, rfl⟩ := tagged_eq_iff.1 hnode
    | number number =>
        exact hnumber.complete hcolon hblanks
          ⟨_, htree, hdepth, _, ⟨_, rfl, number, rfl, rfl⟩, rfl⟩ hends
    | string value =>
        exact hstring.complete hcolon hblanks ⟨_, htree, hdepth, _, ⟨_, rfl, rfl⟩, rfl⟩ hends
    | boolean value =>
        exact hboolean.complete hcolon hblanks ⟨_, htree, hdepth, _, ⟨_, rfl, rfl⟩, rfl⟩ hends
    | array elements trees helements =>
        exact harray.complete hcolon hblanks ⟨_, htree, hdepth, _, ⟨_, rfl, helements⟩, rfl⟩ hends
    | var name =>
        exact hvar.complete hcolon hblanks ⟨_, htree, hdepth, _, ⟨_, rfl, rfl⟩, rfl⟩ hends
    | property base name baseTree hbase =>
        exact hproperty.complete hcolon hblanks
          ⟨_, htree, hdepth, (base, name), ⟨_, _, rfl, hbase, rfl⟩, rfl⟩ hends
    | method base name args baseTree trees hbase hcodes =>
        exact hmethod.complete hcolon hblanks ⟨_, htree, hdepth, (base, name, args),
          ⟨_, _, _, rfl, hbase, rfl, _, rfl, hcodes⟩, rfl⟩ hends
    | call name args trees hcodes =>
        exact hcall.complete hcolon hblanks
          ⟨_, htree, hdepth, (name, args), ⟨_, _, rfl, rfl, _, rfl, hcodes⟩, rfl⟩ hends
    | binary operator left right leftTree rightTree hleft hright =>
        have hread := (hbinary operator).complete hcolon hblanks
          ⟨_, htree, hdepth, (left, right), ⟨_, _, rfl, hleft, hright⟩, rfl⟩ hends
        cases operator <;> exact hread
    | not operand tree hoperand =>
        exact hnot.complete hcolon hblanks ⟨_, htree, hdepth, _, ⟨_, rfl, hoperand⟩, rfl⟩ hends

/-- Expressions are accepted below the bound on their depth, by induction on the bound. -/
theorem expressionWithin_acceptsBelow (bound : Nat) :
    AcceptsBelow (expressionWithin bound) Expr.Coded bound := by
  induction bound with
  | zero => exact fun less hless => absurd hless (Nat.not_lt_zero less)
  | succ bound ih =>
      intro depth hdepth
      refine node_accepts (fun _ _ => Expr.Coded.exists_entry) fun less hless tag => ?_
      exact expressionBody_supplies (fun fewer hfewer => ih fewer (by omega)) tag

/-- An expression is read exactly from its trees. -/
theorem expression_acceptsBelow (depth : Nat) : AcceptsBelow expression Expr.Coded depth :=
  fun less _ => expressionWithin_acceptsBelow (less + 1) less (Nat.lt_succ_self less)

/-! ## Statements -/

/-- Makes an assignment of a pair whose first part is a variable. -/
def assignTo : Expr × Expr → Reader Statement
  | (target, value) =>
    match target with
    | .var name => return .assign name value
    | other => throw (.shape (.wrongTarget other.tag))

/-- The target of an assignment has to be a variable. -/
theorem assignTo_eq_ok_iff (operands : Expr × Expr) (result : Statement)
    (text rest : List Char) : assignTo operands text = .ok (result, rest) ↔
      (∃ name, operands.1 = .var name ∧ .assign name operands.2 = result) ∧ text = rest := by
  obtain ⟨target, value⟩ := operands
  cases target <;> simp [assignTo]

/-- The operands of a statement are read after its tag. -/
theorem statementBody_supplies {inner : Nat → Reader Statement}
    (hinner : AcceptsBelow inner Statement.Coded depth) (tag : String) :
    Supplies (statementBody inner tag depth)
      (fun statement operand => statement.Coded (.object [(tag, operand)])) depth := by
  have hname : AcceptsBelow (fun _ => string) _ depth := fun less _ => string_accepts less
  have hexpr := expression_acceptsBelow depth
  have hargs := sequence_acceptsBelow hexpr
  have hblock := sequence_acceptsBelow hinner
  -- What the reader of each tag accepts; only an assignment checks what it has read.
  have hassign := check_supplies (f := assignTo) (pair_accepts hexpr hexpr) assignTo_eq_ok_iff
  have hcall := return_supplies (f := fun value => Statement.call value.1 value.2)
    (pair_accepts hname hargs)
  have hmethod := return_supplies (f := fun value => Statement.method value.1 value.2.1 value.2.2)
    (triple_accepts hexpr hname hargs)
  have hbranch := return_supplies (f := fun value => Statement.branch value.1 value.2.1 value.2.2)
    (triple_accepts hexpr hblock hblock)
  have hforEach := return_supplies
    (f := fun value => Statement.forEach value.1 value.2.1 value.2.2)
    (triple_accepts hname hexpr hblock)
  constructor
  · intro text rest statement h
    unfold statementBody at h
    split at h
    · refine hassign.sound_imp ?_ h
      rintro _ _ ⟨⟨_, value⟩, ⟨_, _, rfl, htarget, hvalue⟩, name, rfl, rfl⟩
      cases htarget
      exact .assign _ _ _ hvalue
    · refine hcall.sound_imp ?_ h
      rintro _ _ ⟨_, ⟨_, _, rfl, rfl, _, rfl, hargs⟩, rfl⟩
      exact .call _ _ _ hargs
    · refine hmethod.sound_imp ?_ h
      rintro _ _ ⟨⟨_, _, _⟩, ⟨_, _, _, rfl, hbase, rfl, _, rfl, hargs⟩, rfl⟩
      exact .method _ _ _ _ _ hbase hargs
    · refine hbranch.sound_imp ?_ h
      rintro _ _ ⟨⟨_, _, _⟩, ⟨_, _, _, rfl, htest, ⟨_, rfl, hyes⟩, _, rfl, hno⟩, rfl⟩
      exact .branch _ _ _ _ _ _ htest hyes hno
    · refine hforEach.sound_imp ?_ h
      rintro _ _ ⟨⟨_, _, _⟩, ⟨_, _, _, rfl, rfl, hiterable, _, rfl, hbody⟩, rfl⟩
      exact .forEach _ _ _ _ _ hiterable hbody
    · cases h
  · intro text after start rest statement hcolon hblanks hcodes hends
    obtain ⟨operand, htree, hdepth, hcoded⟩ := hcodes
    generalize hnode : Json.object [(tag, operand)] = node at hcoded
    cases hcoded with obtain ⟨rfl, rfl⟩ := tagged_eq_iff.1 hnode
    | assign name value tree hvalue =>
        exact hassign.complete hcolon hblanks ⟨_, htree, hdepth, (.var name, value),
          ⟨_, _, rfl, .var name, hvalue⟩, name, rfl, rfl⟩ hends
    | call name args trees hcodes =>
        exact hcall.complete hcolon hblanks
          ⟨_, htree, hdepth, (name, args), ⟨_, _, rfl, rfl, _, rfl, hcodes⟩, rfl⟩ hends
    | method base name args baseTree trees hbase hcodes =>
        exact hmethod.complete hcolon hblanks ⟨_, htree, hdepth, (base, name, args),
          ⟨_, _, _, rfl, hbase, rfl, _, rfl, hcodes⟩, rfl⟩ hends
    | branch test consequent alternative testTree yes no htest hyes hno =>
        exact hbranch.complete hcolon hblanks ⟨_, htree, hdepth, (test, consequent, alternative),
          ⟨_, _, _, rfl, htest, ⟨_, rfl, hyes⟩, _, rfl, hno⟩, rfl⟩ hends
    | forEach binding iterable body iterableTree trees hiterable hbody =>
        exact hforEach.complete hcolon hblanks ⟨_, htree, hdepth, (binding, iterable, body),
          ⟨_, _, _, rfl, rfl, hiterable, _, rfl, hbody⟩, rfl⟩ hends

/-- Statements are accepted below the bound on their depth, by induction on the bound. -/
theorem statementWithin_acceptsBelow (bound : Nat) :
    AcceptsBelow (statementWithin bound) Statement.Coded bound := by
  induction bound with
  | zero => exact fun less hless => absurd hless (Nat.not_lt_zero less)
  | succ bound ih =>
      intro depth hdepth
      refine node_accepts (fun _ _ => Statement.Coded.exists_entry) fun less hless tag => ?_
      exact statementBody_supplies (fun fewer hfewer => ih fewer (by omega)) tag

/-- A statement is read exactly from its trees. -/
theorem statement_acceptsBelow (depth : Nat) : AcceptsBelow statement Statement.Coded depth :=
  fun less _ => statementWithin_acceptsBelow (less + 1) less (Nat.lt_succ_self less)

/-- A program is read exactly from its trees. -/
theorem program_accepts : Accepts (program depth) (Codes Program.Coded depth) := by
  have hblock := sequence_accepts (statement_acceptsBelow depth)
  constructor
  · intro text rest program h
    obtain ⟨statements, mid, hread, hpure⟩ := bind_success h
    cases hpure
    exact hblock.sound hread
  · intro text start rest program hblanks hcodes hrest
    exact bind_ok (hblock.complete hblanks hcodes hrest)

end Wire

namespace Program

/-- A program is read from exactly the documents that have at most 127 brackets and braces open at
once and whose tree stands for the program. This is what reading the tree first and judging it
afterwards would give. A document is refused exactly if it is too deep, is no list, or has a
defective node at some place. -/
theorem decode_eq_ok_iff (text : String) :
    (∀ program, decode text = .ok program ↔
      ∃ tree, Document text.toList tree ∧ openAtOnce text ≤ 127 ∧ program.Coded tree) ∧
    (∀ program, decode text = .ok program ↔
      ∃ tree, Json.parse 127 text = .ok tree ∧ program.Coded tree) ∧
    (∀ tree, Document text.toList tree →
      ((∃ error, decode text = .error error) ↔ 127 < openAtOnce text ∨
        (∀ nodes, tree ≠ .array nodes) ∨
        ∃ place node, Wire.Stands tree place node ∧ Wire.Defective place node)) := by
  have hread program : decode text = .ok program ↔
      ∃ tree, Document text.toList tree ∧ openAtOnce text ≤ 127 ∧ program.Coded tree := by
    refine (document_eq_ok_iff Wire.program_accepts).trans (exists_congr fun tree =>
      and_congr_right fun hdocument => ?_)
    rw [hdocument.openAtOnce, depthLimit]
  refine ⟨hread, fun program => ?_, fun tree hdocument => ?_⟩
  · rw [hread]
    refine exists_congr fun tree => ?_
    rw [parse_eq_ok_iff, and_assoc]
    refine and_congr_right fun hdocument => ?_
    rw [hdocument.openAtOnce]
  · have hok : (∃ program, decode text = .ok program) ↔ openAtOnce text ≤ 127 ∧
        (∃ nodes, tree = .array nodes) ∧
        ∀ place node, Wire.Stands tree place node → ¬ Wire.Defective place node := by
      rw [← exists_coded_iff]
      constructor
      · rintro ⟨program, hdecode⟩
        obtain ⟨other, hother, hopen, hcoded⟩ := (hread program).1 hdecode
        obtain rfl := hdocument.unique hother
        exact ⟨hopen, program, hcoded⟩
      · rintro ⟨hopen, program, hcoded⟩
        exact ⟨program, (hread program).2 ⟨tree, hdocument, hopen, hcoded⟩⟩
    have herror : (∃ error, decode text = .error error) ↔
        ¬ ∃ program, decode text = .ok program := by
      cases decode text with
      | error error => simp
      | ok program => simp
    rw [herror, hok]
    simp only [not_and_or, not_le, not_exists, not_forall, not_not, exists_prop, ne_eq]

/-- A call is read from its text with blanks, and a variable alone is no statement. -/
theorem decode_eq_ok_iff_call :
    decode "[ \x7b \"func\" : [\"f\", []] \x7d ]" = .ok ⟨[.call "f" []]⟩ ∧
      ∃ error, decode "[\x7b\"var\":[\"x\"]\x7d]" = .error error := by
  have hcall : Json.parse 4 "[ \x7b \"func\" : [\"f\", []] \x7d ]" =
      .ok (.array [.tagged "func" [.string "f", .array []]]) := by
    cbv
  have hvariable : Json.parse 3 "[\x7b\"var\":[\"x\"]\x7d]" =
      .ok (.array [.tagged "var" [.string "x"]]) := by
    cbv
  constructor
  · obtain ⟨hdocument, hdepth⟩ := parse_eq_ok_iff.1 hcall
    have hwithin := parse_eq_ok_iff.2 ⟨hdocument, hdepth.trans (by decide : 4 ≤ 127)⟩
    exact ((decode_eq_ok_iff _).2.1 _).2 ⟨_, hwithin, _, rfl, .cons (.call _ _ _ .nil) .nil⟩
  · refine ((decode_eq_ok_iff _).2.2 _ (parse_eq_ok_iff.1 hvariable).1).2 (.inr (.inr ?_))
    exact ⟨.statement, _, .top _ _ rfl List.mem_cons_self, .unknownTag _ _ fun _ => rfl⟩

end Program

end HostScript

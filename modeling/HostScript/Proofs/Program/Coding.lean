import Mathlib.Data.List.Forall2
import HostScript.Program.Wire
import HostScript.Proofs.Json.Depth

/-!
# Trees of programs

Which JSON trees stand for a program. Every node is an object with one key, the tag of the node,
whose value is the list of its operands, and the target of an assignment is a variable. A number may
be written in any way that has its value. A list of trees stands for a program exactly if no node at
any place of it is defective (`Program.exists_coded_iff`).
-/

namespace HostScript

open List (Forall₂)

/-- A tree stands for an expression. -/
inductive Expr.Coded : Expr → Json → Prop where
  | number (number : Json.Number) :
      Coded (.number number.toBinary64) (.tagged "number" [.number number])
  | string (value) : Coded (.string value) (.tagged "string" [.string value])
  | boolean (value) : Coded (.boolean value) (.tagged "boolean" [.boolean value])
  | array (elements trees) : Forall₂ Coded elements trees →
      Coded (.array elements) (.tagged "array" trees)
  | var (name) : Coded (.var name) (.tagged "var" [.string name])
  | property (base name baseTree) : Coded base baseTree →
      Coded (.property base name) (.tagged "prop" [baseTree, .string name])
  | method (base name args baseTree trees) : Coded base baseTree → Forall₂ Coded args trees →
      Coded (.method base name args) (.tagged "call" [baseTree, .string name, .array trees])
  | call (name args trees) : Forall₂ Coded args trees →
      Coded (.call name args) (.tagged "func" [.string name, .array trees])
  | binary (operator left right leftTree rightTree) : Coded left leftTree →
      Coded right rightTree →
      Coded (.binary operator left right) (.tagged operator.symbol [leftTree, rightTree])
  | not (operand tree) : Coded operand tree → Coded (.not operand) (.tagged "not" [tree])

/-- A tree stands for a statement. -/
inductive Statement.Coded : Statement → Json → Prop where
  | assign (name value tree) : value.Coded tree →
      Coded (.assign name value) (.tagged "=" [.tagged "var" [.string name], tree])
  | call (name args trees) : Forall₂ Expr.Coded args trees →
      Coded (.call name args) (.tagged "func" [.string name, .array trees])
  | method (base name args baseTree trees) : base.Coded baseTree →
      Forall₂ Expr.Coded args trees →
      Coded (.method base name args) (.tagged "call" [baseTree, .string name, .array trees])
  | branch (test consequent alternative testTree yes no) : test.Coded testTree →
      Forall₂ Coded consequent yes → Forall₂ Coded alternative no →
      Coded (.branch test consequent alternative) (.tagged "if" [testTree, .array yes, .array no])
  | forEach (binding iterable body iterableTree trees) : iterable.Coded iterableTree →
      Forall₂ Coded body trees →
      Coded (.forEach binding iterable body)
        (.tagged "foreach" [.string binding, iterableTree, .array trees])

/-- A tree stands for a program: it is a list of the trees of its statements. -/
def Program.Coded (program : Program) (tree : Json) : Prop :=
  ∃ trees, tree = .array trees ∧ Forall₂ Statement.Coded program.statements trees

/-- An expression is written as an object with one entry. -/
theorem Expr.Coded.exists_entry {expr : Expr} {tree : Json} (h : expr.Coded tree) :
    ∃ tag operand, tree = .object [(tag, operand)] := by
  cases h <;> exact ⟨_, _, rfl⟩

/-- A statement is written as an object with one entry. -/
theorem Statement.Coded.exists_entry {statement : Statement} {tree : Json}
    (h : statement.Coded tree) : ∃ tag operand, tree = .object [(tag, operand)] := by
  cases h <;> exact ⟨_, _, rfl⟩

namespace Wire

/-- An object with one entry is a tagged list if its tag and its operands are. -/
theorem tagged_eq_iff {tag other : String} {operand : Json} {operands : List Json} :
    Json.object [(tag, operand)] = .tagged other operands ↔
      tag = other ∧ operand = .array operands := by
  simp [Json.tagged]

/-! ## Nodes at their places -/

/-- Where a node stands. -/
inductive Place where
  | expression
  | statement
deriving DecidableEq, Repr

/-- What an operand must be: a node, a list of nodes, the node of a variable, or a scalar. -/
inductive Kind where
  | node (place : Place)
  | nodes (place : Place)
  | variable
  | string
  | boolean
  | number
deriving DecidableEq, Repr

/-- The operands that a tag takes at a place. The elements of an array may be as many as there
are. -/
def operandKinds (place : Place) (tag : String) (count : Nat) : Option (List Kind) :=
  match place, tag with
  | .expression, "number" => some [.number]
  | .expression, "string" => some [.string]
  | .expression, "boolean" => some [.boolean]
  | .expression, "array" => some (.replicate count (.node .expression))
  | .expression, "var" => some [.string]
  | .expression, "prop" => some [.node .expression, .string]
  | .expression, "not" => some [.node .expression]
  | .statement, "=" => some [.variable, .node .expression]
  | .statement, "if" => some [.node .expression, .nodes .statement, .nodes .statement]
  | .statement, "foreach" => some [.string, .node .expression, .nodes .statement]
  | _, "call" => some [.node .expression, .string, .nodes .expression]
  | _, "func" => some [.string, .nodes .expression]
  | .expression, tag => (Operator.ofSymbol? tag).map fun _ => [.node .expression, .node .expression]
  | .statement, _ => none

/-- A node stands at a place of a tree: it is an item of the list at the top, an operand of another
node, or an item of a list that is one. -/
inductive Stands (tree : Json) : Place → Json → Prop where
  | top (nodes node) : tree = .array nodes → node ∈ nodes → Stands tree .statement node
  | operand (outer tag operands kinds place node) : Stands tree outer (.tagged tag operands) →
      operandKinds outer tag operands.length = some kinds →
      (.node place, node) ∈ kinds.zip operands → Stands tree place node
  | item (outer tag operands kinds place nodes node) : Stands tree outer (.tagged tag operands) →
      operandKinds outer tag operands.length = some kinds →
      (.nodes place, .array nodes) ∈ kinds.zip operands → node ∈ nodes → Stands tree place node

/-- A tree looks like an operand of the kind. The nodes in it are judged at their own places. -/
def Kind.Fits : Kind → Json → Prop
  | .node _, tree => ∃ entries, tree = .object entries
  | .nodes _, tree => ∃ trees, tree = .array trees
  | .variable, tree => ∃ name, tree = .tagged "var" [.string name]
  | .string, tree => ∃ value, tree = .string value
  | .boolean, tree => ∃ value, tree = .boolean value
  | .number, tree => ∃ number, tree = .number number

/-- What can be wrong with a node. A second key may repeat the first. -/
inductive Defective (place : Place) : Json → Prop where
  | noObject (tree) : (∀ entries, tree ≠ .object entries) → Defective place tree
  | noKey : Defective place (.object [])
  | secondKey (first second others) : Defective place (.object (first :: second :: others))
  | unknownTag (tag operand) : (∀ count, operandKinds place tag count = none) →
      Defective place (.object [(tag, operand)])
  | noList (tag operand) : (∀ operands, operand ≠ .array operands) →
      Defective place (.object [(tag, operand)])
  | wrongCount (tag operands kinds) : operandKinds place tag operands.length = some kinds →
      operands.length ≠ kinds.length → Defective place (.tagged tag operands)
  | wrongOperand (tag operands kinds kind operand) :
      operandKinds place tag operands.length = some kinds →
      (kind, operand) ∈ kinds.zip operands → ¬ kind.Fits operand →
      Defective place (.tagged tag operands)

/-- A tree stands for something that may stand at the place. -/
def Place.Coded : Place → Json → Prop
  | .expression, tree => ∃ expr : Expr, expr.Coded tree
  | .statement, tree => ∃ statement : Statement, statement.Coded tree

/-- A tree is an operand of the kind, down to its leaves. -/
def Kind.Coded : Kind → Json → Prop
  | .node place, tree => place.Coded tree
  | .nodes place, tree => ∃ trees, tree = .array trees ∧ ∀ node ∈ trees, place.Coded node
  | kind, tree => kind.Fits tree

/-- What stands in any place is written as an object with one entry. -/
theorem Place.Coded.exists_entry {place : Place} {tree : Json} (h : place.Coded tree) :
    ∃ tag operand, tree = .object [(tag, operand)] := by
  cases place with
  | expression =>
      obtain ⟨expr, hexpr⟩ := h
      exact hexpr.exists_entry
  | statement =>
      obtain ⟨statement, hstatement⟩ := h
      exact hstatement.exists_entry

/-- A tree that stands for an operand of some kind fits that kind. -/
theorem Kind.Coded.fits {kind : Kind} {tree : Json} (h : kind.Coded tree) : kind.Fits tree := by
  cases kind with
  | node place =>
      obtain ⟨tag, operand, rfl⟩ := Place.Coded.exists_entry h
      exact ⟨_, rfl⟩
  | nodes place =>
      obtain ⟨trees, rfl, -⟩ := h
      exact ⟨trees, rfl⟩
  | _ => exact h

/-- Each of several trees stands for one of several expressions or statements. -/
theorem coded_of_forall₂ {α : Type} {C : α → Json → Prop} {values : List α} {trees : List Json}
    (h : Forall₂ C values trees) : ∀ tree ∈ trees, ∃ value, C value tree := by
  induction h with
  | nil => exact fun _ hmem => absurd hmem List.not_mem_nil
  | cons hfirst _ ih => exact List.forall_mem_cons.2 ⟨⟨_, hfirst⟩, ih⟩

/-- Trees that each stand for something stand for a list. -/
theorem exists_forall₂ {α : Type} {C : α → Json → Prop} {trees : List Json}
    (h : ∀ tree ∈ trees, ∃ value, C value tree) : ∃ values, Forall₂ C values trees := by
  induction trees with
  | nil => exact ⟨[], .nil⟩
  | cons tree trees ih =>
      obtain ⟨⟨value, hvalue⟩, hothers⟩ := List.forall_mem_cons.1 h
      obtain ⟨values, hvalues⟩ := ih hothers
      exact ⟨value :: values, .cons hvalue hvalues⟩

/-- The operator that is found for a tag has the tag as its symbol. -/
theorem symbol_of_ofSymbol? {tag : String} {operator : Operator}
    (h : Operator.ofSymbol? tag = some operator) : operator.symbol = tag := by
  simpa using List.find?_some h

/-- An operator takes two expressions, however many operands there are. -/
theorem operandKinds_symbol (operator : Operator) (count : Nat) :
    operandKinds .expression operator.symbol count =
      some [.node .expression, .node .expression] := by
  cases operator <;> rfl

/-- The elements of an array are as many nodes as there are. -/
theorem coded_replicate_iff {trees : List Json} :
    Forall₂ Kind.Coded (.replicate trees.length (.node .expression)) trees ↔
      ∀ tree ∈ trees, ∃ expr : Expr, expr.Coded tree := by
  induction trees with
  | nil => simp
  | cons tree trees ih =>
      rw [List.length_cons, List.replicate_succ, List.forall₂_cons, ih, List.forall_mem_cons]
      rfl

/-- The operands of a node are those that its tag takes. -/
theorem Place.Coded.operands {place : Place} {tag : String} {operand : Json}
    (h : place.Coded (.object [(tag, operand)])) :
    ∃ operands kinds, operand = .array operands ∧
      operandKinds place tag operands.length = some kinds ∧ Forall₂ Kind.Coded kinds operands := by
  cases place with
  | expression =>
      obtain ⟨expr, hexpr⟩ := h
      generalize hnode : Json.object [(tag, operand)] = node at hexpr
      cases hexpr with obtain ⟨rfl, rfl⟩ := tagged_eq_iff.1 hnode
      | number number => exact ⟨_, _, rfl, rfl, .cons ⟨number, rfl⟩ .nil⟩
      | string value => exact ⟨_, _, rfl, rfl, .cons ⟨value, rfl⟩ .nil⟩
      | boolean value => exact ⟨_, _, rfl, rfl, .cons ⟨value, rfl⟩ .nil⟩
      | array elements trees helements =>
          exact ⟨_, _, rfl, rfl, coded_replicate_iff.2 (coded_of_forall₂ helements)⟩
      | var name => exact ⟨_, _, rfl, rfl, .cons ⟨name, rfl⟩ .nil⟩
      | property base name baseTree hbase =>
          exact ⟨_, _, rfl, rfl, .cons ⟨base, hbase⟩ (.cons ⟨name, rfl⟩ .nil)⟩
      | method base name args baseTree trees hbase hargs =>
          exact ⟨_, _, rfl, rfl, .cons ⟨base, hbase⟩ (.cons ⟨name, rfl⟩
            (.cons ⟨trees, rfl, coded_of_forall₂ hargs⟩ .nil))⟩
      | call name args trees hargs =>
          exact ⟨_, _, rfl, rfl, .cons ⟨name, rfl⟩
            (.cons ⟨trees, rfl, coded_of_forall₂ hargs⟩ .nil)⟩
      | binary operator left right leftTree rightTree hleft hright =>
          exact ⟨_, _, rfl, operandKinds_symbol operator _,
            .cons ⟨left, hleft⟩ (.cons ⟨right, hright⟩ .nil)⟩
      | not operand tree hoperand => exact ⟨_, _, rfl, rfl, .cons ⟨operand, hoperand⟩ .nil⟩
  | statement =>
      obtain ⟨statement, hstatement⟩ := h
      generalize hnode : Json.object [(tag, operand)] = node at hstatement
      cases hstatement with obtain ⟨rfl, rfl⟩ := tagged_eq_iff.1 hnode
      | assign name value tree hvalue =>
          exact ⟨_, _, rfl, rfl, .cons ⟨name, rfl⟩ (.cons ⟨value, hvalue⟩ .nil)⟩
      | call name args trees hargs =>
          exact ⟨_, _, rfl, rfl, .cons ⟨name, rfl⟩
            (.cons ⟨trees, rfl, coded_of_forall₂ hargs⟩ .nil)⟩
      | method base name args baseTree trees hbase hargs =>
          exact ⟨_, _, rfl, rfl, .cons ⟨base, hbase⟩ (.cons ⟨name, rfl⟩
            (.cons ⟨trees, rfl, coded_of_forall₂ hargs⟩ .nil))⟩
      | branch test consequent alternative testTree yes no htest hyes hno =>
          exact ⟨_, _, rfl, rfl, .cons ⟨test, htest⟩ (.cons ⟨yes, rfl, coded_of_forall₂ hyes⟩
            (.cons ⟨no, rfl, coded_of_forall₂ hno⟩ .nil))⟩
      | forEach binding iterable body iterableTree trees hiterable hbody =>
          exact ⟨_, _, rfl, rfl, .cons ⟨binding, rfl⟩ (.cons ⟨iterable, hiterable⟩
            (.cons ⟨trees, rfl, coded_of_forall₂ hbody⟩ .nil))⟩

/-- The operands of a node that stands for something are of the kinds that its tag takes. -/
theorem Place.Coded.operands_of_kinds {place : Place} {tag : String} {operands : List Json}
    {kinds : List Kind} (h : place.Coded (.tagged tag operands))
    (hkinds : operandKinds place tag operands.length = some kinds) :
    Forall₂ Kind.Coded kinds operands := by
  obtain ⟨others, otherKinds, heq, hotherKinds, hall⟩ := Place.Coded.operands h
  obtain rfl := Json.array.inj heq
  obtain rfl := Option.some.inj (hkinds.symm.trans hotherKinds)
  exact hall

/-- Every node of the tree of a program stands for something that may stand at its place. -/
theorem Stands.coded {tree node : Json} {place : Place} (h : Stands tree place node)
    {program : Program} (hprogram : program.Coded tree) : place.Coded node := by
  induction h with
  | top nodes node htree hmem =>
      obtain ⟨trees, htrees, hall⟩ := hprogram
      obtain rfl := Json.array.inj (htree.symm.trans htrees)
      exact coded_of_forall₂ hall node hmem
  | operand outer tag operands kinds place node _ hkinds hmem ih =>
      exact (List.forall₂_iff_zip.1 (ih.operands_of_kinds hkinds)).2 hmem
  | item outer tag operands kinds place nodes node _ hkinds hmem hnode ih =>
      obtain ⟨trees, htrees, hall⟩ := (List.forall₂_iff_zip.1 (ih.operands_of_kinds hkinds)).2 hmem
      obtain rfl := Json.array.inj htrees
      exact hall node hnode

/-- A defective node stands for nothing at its place. -/
theorem Defective.not_coded {place : Place} {tree : Json} (h : Defective place tree) :
    ¬ place.Coded tree := by
  intro hcoded
  obtain ⟨tag, operand, htree⟩ := hcoded.exists_entry
  cases h with
  | noObject tree hnot => exact hnot _ htree
  | noKey => cases htree
  | secondKey => cases htree
  | unknownTag tag operand hnone =>
      obtain ⟨operands, kinds, -, hkinds, -⟩ := Place.Coded.operands hcoded
      rw [hnone] at hkinds
      cases hkinds
  | noList tag operand hnot =>
      obtain ⟨operands, kinds, rfl, -⟩ := Place.Coded.operands hcoded
      exact hnot operands rfl
  | wrongCount tag operands kinds hkinds hcount =>
      exact hcount (hcoded.operands_of_kinds hkinds).length_eq.symm
  | wrongOperand tag operands kinds kind operand hkinds hmem hnot =>
      exact hnot ((List.forall₂_iff_zip.1 (hcoded.operands_of_kinds hkinds)).2 hmem).fits

/-- A node with the operands that its tag takes stands for something. -/
theorem Place.coded_of_operands {place : Place} {tag : String} {operands : List Json}
    {kinds : List Kind} (hkinds : operandKinds place tag operands.length = some kinds)
    (h : Forall₂ Kind.Coded kinds operands) : place.Coded (.tagged tag operands) := by
  unfold operandKinds at hkinds
  split at hkinds
  · cases hkinds
    rcases h with _ | ⟨⟨number, rfl⟩, _ | _⟩
    exact ⟨_, .number number⟩
  · cases hkinds
    rcases h with _ | ⟨⟨value, rfl⟩, _ | _⟩
    exact ⟨_, .string value⟩
  · cases hkinds
    rcases h with _ | ⟨⟨value, rfl⟩, _ | _⟩
    exact ⟨_, .boolean value⟩
  · cases hkinds
    obtain ⟨elements, helements⟩ := exists_forall₂ (coded_replicate_iff.1 h)
    exact ⟨_, .array _ _ helements⟩
  · cases hkinds
    rcases h with _ | ⟨⟨name, rfl⟩, _ | _⟩
    exact ⟨_, .var name⟩
  · cases hkinds
    rcases h with _ | ⟨⟨base, hbase⟩, _ | ⟨⟨name, rfl⟩, _ | _⟩⟩
    exact ⟨_, .property _ _ _ hbase⟩
  · cases hkinds
    rcases h with _ | ⟨⟨operand, hoperand⟩, _ | _⟩
    exact ⟨_, .not _ _ hoperand⟩
  · cases hkinds
    rcases h with _ | ⟨⟨name, rfl⟩, _ | ⟨⟨value, hvalue⟩, _ | _⟩⟩
    exact ⟨_, .assign _ _ _ hvalue⟩
  · cases hkinds
    rcases h with _ | ⟨⟨test, htest⟩, _ | ⟨⟨_, rfl, hyes⟩, _ | ⟨⟨_, rfl, hno⟩, _ | _⟩⟩⟩
    obtain ⟨consequent, hconsequent⟩ := exists_forall₂ hyes
    obtain ⟨alternative, halternative⟩ := exists_forall₂ hno
    exact ⟨_, .branch _ _ _ _ _ _ htest hconsequent halternative⟩
  · cases hkinds
    rcases h with _ | ⟨⟨binding, rfl⟩, _ | ⟨⟨iterable, hiterable⟩, _ | ⟨⟨_, rfl, hbody⟩, _ | _⟩⟩⟩
    obtain ⟨body, hbody⟩ := exists_forall₂ hbody
    exact ⟨_, .forEach _ _ _ _ _ hiterable hbody⟩
  · cases hkinds
    rcases h with _ | ⟨⟨base, hbase⟩, _ | ⟨⟨name, rfl⟩, _ | ⟨⟨_, rfl, hargs⟩, _ | _⟩⟩⟩
    obtain ⟨args, hargs⟩ := exists_forall₂ hargs
    cases place with
    | expression => exact ⟨_, .method _ _ _ _ _ hbase hargs⟩
    | statement => exact ⟨_, .method _ _ _ _ _ hbase hargs⟩
  · cases hkinds
    rcases h with _ | ⟨⟨name, rfl⟩, _ | ⟨⟨_, rfl, hargs⟩, _ | _⟩⟩
    obtain ⟨args, hargs⟩ := exists_forall₂ hargs
    cases place with
    | expression => exact ⟨_, .call _ _ _ hargs⟩
    | statement => exact ⟨_, .call _ _ _ hargs⟩
  · obtain ⟨operator, hsymbol, rfl⟩ := Option.map_eq_some_iff.1 hkinds
    rcases h with _ | ⟨⟨left, hleft⟩, _ | ⟨⟨right, hright⟩, _ | _⟩⟩
    exact symbol_of_ofSymbol? hsymbol ▸ ⟨_, .binary operator _ _ _ _ hleft hright⟩
  · cases hkinds

/-- Whether a tag is known does not depend on the number of operands. -/
theorem operandKinds_none {place : Place} {tag : String} {count : Nat}
    (h : operandKinds place tag count = none) (other : Nat) :
    operandKinds place tag other = none := by
  unfold operandKinds at h ⊢
  split at h <;> simp_all

/-- A node without a defect is an object with one known tag and the operands of that tag. -/
theorem exists_operands_of_not_defective {place : Place} {node : Json}
    (h : ¬ Defective place node) :
    ∃ tag operands kinds, node = .tagged tag operands ∧
      operandKinds place tag operands.length = some kinds ∧ Forall₂ Kind.Fits kinds operands := by
  obtain ⟨entries, rfl⟩ : ∃ entries, node = .object entries := by
    by_contra hnot
    exact h (.noObject node fun entries heq => hnot ⟨entries, heq⟩)
  obtain ⟨tag, operand, rfl⟩ : ∃ tag operand, entries = [(tag, operand)] := by
    match entries with
    | [] => exact absurd .noKey h
    | [(tag, operand)] => exact ⟨tag, operand, rfl⟩
    | first :: second :: others => exact absurd (.secondKey first second others) h
  obtain ⟨operands, rfl⟩ : ∃ operands, operand = .array operands := by
    by_contra hnot
    exact h (.noList tag operand fun operands heq => hnot ⟨operands, heq⟩)
  cases hkinds : operandKinds place tag operands.length with
  | none => exact absurd (.unknownTag tag _ (operandKinds_none hkinds)) h
  | some kinds =>
      refine ⟨tag, operands, kinds, rfl, hkinds, List.forall₂_iff_zip.2 ⟨?_, ?_⟩⟩
      · by_contra hlength
        exact h (.wrongCount tag operands kinds hkinds (Ne.symm hlength))
      · intro kind operand hmem
        by_contra hnot
        exact h (.wrongOperand tag operands kinds kind operand hkinds hmem hnot)

/-- If no node of a tree is defective, each stands for something that may stand at its place. -/
theorem Stands.coded_of_not_defective {tree node : Json} {place : Place}
    (h : Stands tree place node)
    (hsound : ∀ place node, Stands tree place node → ¬ Defective place node) :
    place.Coded node := by
  -- The nodes that are operands of a node are less deep than the node.
  suffices hall : ∀ bound place node, node.depth ≤ bound → Stands tree place node →
      place.Coded node from hall node.depth place node (Nat.le_refl _) h
  intro bound
  induction bound with
  | zero =>
      intro place node hdepth hstands
      obtain ⟨tag, operands, kinds, rfl, -⟩ :=
        exists_operands_of_not_defective (hsound place node hstands)
      simp [Json.tagged, Json.depth] at hdepth
  | succ bound ih =>
      intro place node hdepth hstands
      obtain ⟨tag, operands, kinds, rfl, hkinds, hfits⟩ :=
        exists_operands_of_not_defective (hsound place node hstands)
      have hoperands : ∀ operand ∈ operands, operand.depth < bound := by
        obtain ⟨-, hlist⟩ := Json.depth_object_le.1 hdepth
        obtain ⟨hpos, hitems⟩ := Json.depth_array_le.1 hlist
        intro operand hmem
        have := hitems operand hmem
        omega
      refine Place.coded_of_operands hkinds (List.forall₂_iff_zip.2 ⟨hfits.length_eq, ?_⟩)
      intro kind operand hmem
      have hfit := (List.forall₂_iff_zip.1 hfits).2 hmem
      have hless := hoperands operand (List.of_mem_zip hmem).2
      cases kind with
      | node place =>
          exact ih place operand (Nat.le_of_lt hless) (.operand _ _ _ _ _ _ hstands hkinds hmem)
      | nodes place =>
          obtain ⟨nodes, rfl⟩ := hfit
          refine ⟨nodes, rfl, fun inner hinner => ?_⟩
          have hinnerDepth := (Json.depth_array_le.1 (Nat.le_of_lt hless)).2 inner hinner
          exact ih place inner (by omega) (.item _ _ _ _ _ _ _ hstands hkinds hmem hinner)
      | _ => exact hfit

end Wire

/-- A tree stands for a program if it is a list and none of its nodes is defective. -/
theorem Program.exists_coded_iff {tree : Json} :
    (∃ program : Program, program.Coded tree) ↔ (∃ nodes, tree = .array nodes) ∧
      ∀ place node, Wire.Stands tree place node → ¬ Wire.Defective place node := by
  constructor
  · rintro ⟨program, hprogram⟩
    refine ⟨?_, fun place node hstands hdefective =>
      hdefective.not_coded (hstands.coded hprogram)⟩
    obtain ⟨trees, htree, -⟩ := hprogram
    exact ⟨trees, htree⟩
  · rintro ⟨⟨nodes, rfl⟩, hsound⟩
    have hnodes : ∀ node ∈ nodes, ∃ statement : Statement, statement.Coded node :=
      fun node hnode => (Wire.Stands.top nodes node rfl hnode).coded_of_not_defective hsound
    obtain ⟨statements, hstatements⟩ := Wire.exists_forall₂ hnodes
    exact ⟨⟨statements⟩, nodes, rfl, hstatements⟩

end HostScript

import CallLint.Proofs.Fix.FreshNames

/-!
# Blocks and the names they bind

Functions, lambdas, classes and comprehensions open a block, in which names may stand for something else than in the module. Which
block a node belongs to depends on the way to it: defaults, decorators and base classes stand outside the block of a definition, and
so does what the first clause of a comprehension goes through; the target of a named expression belongs to the block around all
comprehensions. Inside a class, private names are read and bound with the name of the class in front (`mangle`).
-/

namespace CallLint.Text

/-- A private name starts with two underscores and does not end with two. -/
def isPrivate (n : Text) : Bool := (ofString "__").isPrefixOf n && !(ofString "__").isSuffixOf n

/-- A name as it is known inside a class: a private one has the name of the class in front, without the underscores that start it. A
class named by underscores alone changes nothing. -/
def mangle (cls? : Option Text) (n : Text) : Text :=
  match cls? with
  | none => n
  | some c =>
    let stem := c.dropWhile (· == .scalar '_')
    if n.isPrivate && !stem.isEmpty then ofString "_" ++ stem ++ n else n

end CallLint.Text

namespace CallLint.Tree

/-- A step from a node to a child, by the field that holds the child and its number there. -/
structure Step where
  node : Tree
  field : Field
  index : Nat

/-- The children of a node with the steps to them. -/
def branches (t : Tree) : List (Step × Tree) :=
  match t.cls? with
  | some c => c.fields.flatMap fun f => (nodesIn (t.fieldD f)).zipIdx.map fun (u, i) => (⟨t, f, i⟩, u)
  | none => []

/-- The steps along an address, as far as there are nodes. -/
def way (t : Tree) : List Nat → List Step
  | [] => []
  | i :: a =>
    match t.branches[i]? with
    | some (s, c) => s :: c.way a
    | none => []

namespace Step

/-- Whether a step goes into a comprehension. -/
def intoComprehension (s : Step) : Bool :=
  match s.node.cls? with
  | some .listComp | some .setComp | some .dictComp | some .generatorExp => true
  | _ => false

/-- Whether a step goes into the body of a class. -/
def intoClass (s : Step) : Bool := s.node.isA .classDef && s.field == .body

/-- Whether a step that goes on with others enters the block of its node. -/
def opens (s : Step) (rest : List Step) : Bool :=
  match s.node.cls? with
  | some .functionDef | some .asyncFunctionDef | some .classDef | some .lambda => s.field == .body
  | _ => s.intoComprehension && !(s.field == .generators && s.index == 0 && rest.head?.any (·.field == .iter))

end Step

/-- The steps of a way that enter blocks. -/
def opened : List Step → List Step
  | [] => []
  | s :: rest => if s.opens rest then s :: opened rest else opened rest

/-- Whether a way ends at the target of a named expression. -/
def endsNamed (way : List Step) : Bool := way.getLast?.any fun s => s.node.isA .namedExpr && s.field == .target

/-- Whether a node belongs to the block of the node where the way to it starts: as a parameter, or in the block and in no other block
inside, where the targets of named expressions are in no comprehension. -/
def belongs (u : Tree) : List Step → Bool
  | [] => false
  | s :: rest =>
    if u.isA .arg then s.field == .args && rest.length == 1
    else s.opens rest &&
      if endsNamed (s :: rest) then !s.intoComprehension && (opened rest).all Step.intoComprehension else (opened rest).isEmpty

/-- The name of the class whose body a way enters last. -/
def classOf? (way : List Step) : Option Text :=
  (way.reverse.find? Step.intoClass).bind fun s => (s.node.fieldD .name).text?

/-- What stands at `b ++ c` is in the block of the node at `b`. -/
def Encloses (t : Tree) (b c : List Nat) : Prop :=
  ∃ p s rest, t.at? b = some p ∧ p.way c = s :: rest ∧ s.opens rest = true

/-- A node that belongs to the block of the node at `b` and binds there the name `n`, which it spells `m`. -/
def BindsAs (t : Tree) (b : List Nat) (n : Text) (u : Tree) (m : Text) : Prop :=
  ∃ p d, t.at? b = some p ∧ p.at? d = some u ∧ belongs u (p.way d) = true ∧ u.Binds m ∧
    Text.mangle (classOf? (t.way (b ++ d))) m = n

/-- Whether a node says that names belong to another block. -/
def isDeclaration (u : Tree) : Bool := u.isA .globalStmt || u.isA .nonlocalStmt

/-- The block of the node at `b` has a name of its own, by a binding of some kind. -/
def BoundIn (t : Tree) (b : List Nat) (n : Text) (kind : Tree → Text → Prop) : Prop :=
  (∃ u m, t.BindsAs b n u m ∧ u.isDeclaration = false ∧ kind u m) ∧ ∀ u m, t.BindsAs b n u m → u.isDeclaration = false

/-- Some block around the node at an address has a name of its own, by a binding of some kind. -/
def BoundAround (t : Tree) (a : List Nat) (n : Text) (kind : Tree → Text → Prop) : Prop :=
  ∃ b c, a = b ++ c ∧ t.Encloses b c ∧ t.BoundIn b n kind

/-- Where the node at an address stands, a name is not changed for a class. -/
def Unmangled (t : Tree) (a : List Nat) (n : Text) : Prop := (t.way a).any Step.intoClass = true → n.isPrivate = false

/-- Reading a name where the node at an address stands reaches the variable of the module. -/
structure ReachesModule (t : Tree) (a : List Nat) (n : Text) : Prop where
  free : ¬ t.BoundAround a n fun _ _ => True
  unmangled : t.Unmangled a n

/-! ### Steps and addresses -/

theorem branches_children (t : Tree) : t.branches.map (·.2) = t.children := by
  unfold branches children
  cases t.cls? with
  | none => rfl
  | some c => simp [List.map_flatMap, Function.comp_def]

theorem branches_getElem? {t c : Tree} {i : Nat} (h : t.children[i]? = some c) : ∃ s, t.branches[i]? = some (s, c) ∧ s.node = t := by
  rw [← branches_children, List.getElem?_map] at h
  obtain ⟨⟨s, u⟩, found, rfl⟩ := Option.map_eq_some_iff.1 h
  refine ⟨s, found, ?_⟩
  have mem := List.mem_of_getElem? found
  unfold branches at mem
  split at mem
  · simp only [List.mem_flatMap, List.mem_map] at mem
    obtain ⟨f, -, p, -, eq⟩ := mem
    cases eq
    rfl
  · cases mem

/-- The way along an address has a step from each node on it. -/
theorem way_cons {t c : Tree} {i : Nat} (a : List Nat) (h : t.children[i]? = some c) :
    ∃ s, t.way (i :: a) = s :: c.way a ∧ s.node = t := by
  obtain ⟨s, found, node⟩ := branches_getElem? h
  exact ⟨s, by rw [way, found], node⟩

/-- The steps of a way start at nodes of the tree. -/
theorem at?_of_mem_way {t : Tree} {a : List Nat} {s : Step} (h : s ∈ t.way a) : ∃ b, t.at? b = some s.node := by
  induction a generalizing t with
  | nil => cases h
  | cons i a ih =>
    cases child : t.children[i]? with
    | none =>
      have absent : t.branches[i]? = none := by
        rw [List.getElem?_eq_none_iff, ← List.length_map (f := (·.2)), branches_children]
        exact List.getElem?_eq_none_iff.1 child
      rw [way, absent] at h
      cases h
    | some c =>
      obtain ⟨first, eq, node⟩ := way_cons a child
      rw [eq] at h
      rcases List.mem_cons.1 h with rfl | h
      · exact ⟨[], congrArg some node.symm⟩
      · obtain ⟨b, at_b⟩ := ih h
        exact ⟨i :: b, at?_cons_eq_some.2 ⟨c, child, at_b⟩⟩

/-- A tree without classes changes no name. -/
theorem mangle_of_no_class {t : Tree} (noClass : t.Everywhere fun u => u.isA .classDef = false) (a : List Nat) (m : Text) :
    Text.mangle (classOf? (t.way a)) m = m := by
  have none : (t.way a).reverse.find? Step.intoClass = none := by
    refine List.find?_eq_none.2 fun s hs => ?_
    obtain ⟨b, at_b⟩ := at?_of_mem_way (List.mem_reverse.1 hs)
    simp [Step.intoClass, noClass b _ at_b]
  rw [classOf?, none]
  rfl

/-- A target of a statement of a module belongs to no block of theirs. -/
theorem not_belongs_target {t p u : Tree} {b d : List Nat} {i : Nat} {statement : Tree} (isModule : t.isA .module = true)
    (child : t.children[i]? = some statement) (isAssign : statement.isA .assign = true)
    (target : statement.children[0]? = some u) (isName : u.isA .name = true) (address : b ++ d = [i, 0])
    (at_p : t.at? b = some p) : belongs u (p.way d) = false := by
  have notArg : u.isA .arg = false := by
    simp [isA, isA_iff.1 isName]
  have closed : ∀ {s : Step} {rest : List Step}, s.node.isA .module = true ∨ s.node.isA .assign = true →
      belongs u (s :: rest) = false := by
    rintro s rest (h | h) <;> simp [belongs, notArg, Step.opens, Step.intoComprehension, isA_iff.1 h]
  rcases List.append_eq_cons_iff.1 address with ⟨rfl, rfl⟩ | ⟨b, rfl, behind⟩
  · cases at_p
    obtain ⟨s, eq, node⟩ := way_cons [0] child
    rw [eq]
    exact closed (.inl (by rw [node]; exact isModule))
  obtain ⟨c, hc, at_p⟩ := at?_cons_eq_some.1 at_p
  obtain rfl := Option.some.inj (child.symm.trans hc)
  rcases List.append_eq_cons_iff.1 behind.symm with ⟨rfl, rfl⟩ | ⟨b, rfl, none⟩
  · cases at_p
    obtain ⟨s, eq, node⟩ := way_cons [] target
    rw [eq]
    exact closed (.inr (by rw [node]; exact isAssign))
  · obtain ⟨rfl, rfl⟩ := List.append_eq_nil_iff.1 none.symm
    rfl

end CallLint.Tree

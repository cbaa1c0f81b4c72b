import CallLint.Proofs.Analysis.Findings
import CallLint.Proofs.Fix.Unwritable

/-!
# The rule and the fix mean the same call

A finding tells where a member access stands, and from that place the fix finds its call again, the first one breadth first
(`findCall_first`). If no two member accesses that are called stand at the same place, it is the call that the rule has flagged
(`findCall_eq_of_flags`). The changed call is no longer flagged. It differs from the call in its arguments only, and no call stands at
or below an argument that became a name, so that what is flagged below is as it was (`extract_removes_own_finding`).
-/

namespace CallLint.Tree

/-- A call of a member whose access stands at an extent. -/
def CallsMemberAt (call : Tree) (s : Extent) : Prop :=
  call.isA .call = true ∧ ∃ receiver, call.field? .func = some receiver ∧ receiver.isA .member = true ∧ receiver.HasExtent s

/-- A call of a member whose access stands at a location. -/
def CalledAt (call : Tree) (location : Location) : Prop := ∃ s, call.CallsMemberAt s ∧ s.location.same location = true

/-- Member accesses that are called in different places of a tree have different extents. -/
def DistinctCallees (t : Tree) : Prop :=
  ∀ a b call call' s, t.at? a = some call → t.at? b = some call' → call.CallsMemberAt s → call'.CallsMemberAt s → a = b

theorem Flags.callsMemberAt {call : Tree} {s : Extent} (h : call.Flags s) : call.CallsMemberAt s := by
  obtain ⟨receiver, passes, extent⟩ := h
  exact ⟨passes.isCall, receiver, passes.callee, passes.isMember, extent⟩

/-- Where the member access that is called stands, if the node is such a call. -/
def calleeLocation? (t : Tree) : Option Location :=
  if t.isA .call then t.receiver?.toOption.join.bind (·.location.toOption.join) else none

theorem CallsMemberAt.calleeLocation?_eq {t : Tree} {s : Extent} (h : t.CallsMemberAt s) :
    t.calleeLocation? = some s.location := by
  obtain ⟨isCall, receiver, callee, isMember, extent⟩ := h
  have receiver_eq : t.receiver? = .ok (some receiver) := by simp [receiver?, fieldD_eq callee, shape_member isMember]
  rw [calleeLocation?, if_pos isCall, receiver_eq]
  simp only [Except.toOption, Option.join_some, Option.bind_some, extent.location_eq]

/-- Extents with the same location are the same. -/
theorem Extent.location_same {s s' : Extent} : s.location.same s'.location = true ↔ s = s' := by
  have whole : ∀ m n : Int, (Coord.whole m).same (.whole n) = (m == n) := by
    intro m n
    simp [Coord.same, Coord.toTree, same, int?]
  obtain ⟨line, column, endLine, endColumn⟩ := s
  obtain ⟨line', column', endLine', endColumn'⟩ := s'
  simp [Location.same, location, Location.ofInts, whole, and_assoc]

theorem Occurrence.eq_of_place {t : Tree} {o p : Occurrence} (ho : o.In t) (hp : p.In t) (same : o.place = p.place) : o = p := by
  obtain ⟨address, node⟩ := o
  obtain ⟨address', node'⟩ := p
  obtain rfl : address = address' := List.reverse_injective same
  obtain rfl : node = node' := Option.some.inj (ho.symm.trans hp)
  rfl

/-- Whether the member accesses that are called stand in different places is seen from the occurrences. -/
theorem distinctCallees_of_occurrences {t : Tree} {os : List Occurrence} (walk : t.occurrences = .ok os)
    (h : ∀ o ∈ os, ∀ p ∈ os, ∀ l ∈ o.node.calleeLocation?, ∀ m ∈ p.node.calleeLocation?, l.same m = true → o.address = p.address) :
    t.DistinctCallees := by
  intro a b call call' s at_a at_b calls calls'
  have mem : ∀ {a u}, t.at? a = some u → (⟨a.reverse, u⟩ : Occurrence) ∈ os := fun {a u} hu =>
    (mem_occurrences walk).2 (by simpa [Occurrence.In, Occurrence.place] using hu)
  have same := h _ (mem at_a) _ (mem at_b) _ calls.calleeLocation?_eq _ calls'.calleeLocation?_eq (Extent.location_same.2 rfl)
  exact List.reverse_injective same

theorem BreadthFirst.asymm {a b : List Nat} (h : BreadthFirst a b) : ¬ BreadthFirst b a := by
  rcases h with shorter | ⟨same, before⟩
  · rintro (longer | ⟨same, -⟩) <;> omega
  · rintro (longer | ⟨-, after⟩)
    · omega
    · exact List.lt_asymm before after

/-- The callee of a well-formed call: it is a member access at some extent, or there is none. -/
theorem receiver?_cases {call : Tree} (wf : call.WellFormed) (isCall : call.isA .call = true) :
    (∃ receiver s, call.receiver? = .ok (some receiver) ∧ receiver.location = .ok (some s.location) ∧
      ∀ s', call.CallsMemberAt s' ↔ s' = s) ∨
    call.receiver? = .ok none ∧ ∀ s, ¬ call.CallsMemberAt s := by
  obtain ⟨func, func_eq, -, child⟩ := wf.root.one isCall (f := .func) (g := .expr) (by decide)
  have conforms := (wf.child child).root
  obtain ⟨shape, hs⟩ := conforms.measured.shape_eq_ok
  by_cases member : shape = .memberAccess
  · left
    have isMember := (isA_of_shape hs).2 member
    obtain ⟨s, extent⟩ := conforms.position isMember rfl
    refine ⟨func, s, by simp [receiver?, fieldD_eq func_eq, hs, member], extent.location_eq, fun s' => ⟨?_, ?_⟩⟩
    · rintro ⟨-, receiver, receiver_eq, -, extent'⟩
      cases func_eq.symm.trans receiver_eq
      exact extent'.unique extent
    · rintro rfl
      exact ⟨isCall, func, func_eq, isMember, extent⟩
  · right
    refine ⟨by simp [receiver?, fieldD_eq func_eq, hs, member], ?_⟩
    rintro s ⟨-, receiver, receiver_eq, isMember, -⟩
    cases func_eq.symm.trans receiver_eq
    exact member (Except.ok.inj (hs.symm.trans (shape_member isMember)))

end CallLint.Tree

namespace CallLint.Fix

open CallLint.Tree (Fault Occurrence BreadthFirst Extent WellFormed Everywhere Named CallsMemberAt DistinctCallees bind_eq_ok isA_iff
  ok_bind)

/-! ### Finding the call again -/

/-- One step of the search: it ends at a call of a member at the location, and goes on at anything else. -/
theorem findCallIn_cons (location : Location) {p : Occurrence} (os : List Occurrence) (wf : p.node.WellFormed) :
    p.node.CalledAt location ∧ findCallIn location (p :: os) = .ok (some p) ∨
      ¬ p.node.CalledAt location ∧ findCallIn location (p :: os) = findCallIn location os := by
  obtain ⟨shape, hs⟩ := wf.root.measured.shape_eq_ok
  by_cases call : shape = .call
  · have isCall := (Tree.isA_of_shape hs).1 call
    rcases Tree.receiver?_cases wf isCall with ⟨receiver, s, receiver_eq, location_eq, extent⟩ | ⟨receiver_eq, none⟩
    · simp only [findCallIn, hs, call, receiver_eq, location_eq, ok_bind, bne_self_eq_false, Bool.false_eq_true, ↓reduceIte]
      by_cases same : s.location.same location = true
      · rw [if_pos same]
        exact Or.inl ⟨⟨s, (extent s).2 rfl, same⟩, rfl⟩
      · rw [if_neg same]
        refine Or.inr ⟨?_, rfl⟩
        rintro ⟨s', calls, same'⟩
        exact same ((extent s').1 calls ▸ same')
    · simp only [findCallIn, hs, call, receiver_eq, ok_bind, bne_self_eq_false, Bool.false_eq_true, ↓reduceIte]
      refine Or.inr ⟨?_, trivial⟩
      rintro ⟨s, calls, -⟩
      exact none s calls
  · have other : (shape != .call) = true := by simpa using call
    simp only [findCallIn, hs, ok_bind, other, ↓reduceIte]
    refine Or.inr ⟨?_, trivial⟩
    rintro ⟨s, calls, -⟩
    exact call (Except.ok.inj (hs.symm.trans (Tree.shape_call calls.1)))

/-- Among some occurrences the call of the member at an extent is found, if there is one only. -/
theorem findCallIn_of_unique {os : List Occurrence} {o : Occurrence} {s : Extent} (wf : ∀ p ∈ os, p.node.WellFormed)
    (mem : o ∈ os) (here : o.node.CallsMemberAt s) (only : ∀ p ∈ os, p.node.CallsMemberAt s → p = o) :
    findCallIn s.location os = .ok (some o) := by
  induction os with
  | nil => cases mem
  | cons p os ih =>
    rcases findCallIn_cons s.location os (wf p List.mem_cons_self) with ⟨⟨s', calls, same⟩, eq⟩ | ⟨other, eq⟩
    · obtain rfl := Extent.location_same.1 same
      rw [eq, only p List.mem_cons_self calls]
    · have later : o ∈ os := by
        refine (List.mem_cons.1 mem).resolve_left ?_
        rintro rfl
        exact other ⟨s, here, Extent.location_same.2 rfl⟩
      rw [eq]
      exact ih (fun q hq => wf q (List.mem_cons_of_mem p hq)) later fun q hq => only q (List.mem_cons_of_mem p hq)

/-- The place of a flagged call leads back to it. -/
theorem findCall_eq_of_flags {tree : Tree} (wf : tree.WellFormed) (distinct : tree.DistinctCallees) {o : Occurrence} {s : Extent}
    (at_o : o.In tree) (flags : o.node.Flags s) : findCall tree s.location = .ok (some o) := by
  obtain ⟨os, hos, each⟩ := wf.occurrences_eq_ok wf.root.isNode
  have mem : ∀ {p : Occurrence}, p ∈ os ↔ p.In tree := Tree.mem_occurrences hos
  simp only [findCall, hos, ok_bind]
  refine findCallIn_of_unique each (mem.2 at_o) flags.callsMemberAt fun p hp calls => ?_
  exact Occurrence.eq_of_place (mem.1 hp) at_o (distinct _ _ _ _ s (mem.1 hp) at_o calls flags.callsMemberAt)

/-- The first call of a tree, breadth first, of a member at a location. -/
structure FirstCall (tree : Tree) (location : Location) (o : Occurrence) : Prop where
  at_o : o.In tree
  called : o.node.CalledAt location
  first : ∀ p : Occurrence, p.In tree → p.node.CalledAt location → p = o ∨ BreadthFirst o.place p.place

theorem FirstCall.unique {tree : Tree} {location : Location} {o p : Occurrence} (h : FirstCall tree location o)
    (h' : FirstCall tree location p) : p = o := by
  rcases h.first p h'.at_o h'.called with same | before
  · exact same
  · exact (h'.first o h.at_o h.called).elim Eq.symm fun behind => absurd before behind.asymm

theorem findCallIn_first (location : Location) {os : List Occurrence} (wf : ∀ o ∈ os, o.node.WellFormed)
    (ordered : os.Pairwise fun o p => BreadthFirst o.place p.place) :
    findCallIn location os = .ok none ∧ (∀ o ∈ os, ¬ o.node.CalledAt location) ∨
      ∃ o ∈ os, findCallIn location os = .ok (some o) ∧ o.node.CalledAt location ∧
        ∀ p ∈ os, p.node.CalledAt location → p = o ∨ BreadthFirst o.place p.place := by
  induction ordered with
  | nil => exact .inl ⟨rfl, nofun⟩
  | @cons o os before _ ih =>
    rcases findCallIn_cons location os (wf o List.mem_cons_self) with ⟨called, eq⟩ | ⟨other, eq⟩
    · refine .inr ⟨o, List.mem_cons_self, eq, called, fun p mem _ => ?_⟩
      exact (List.mem_cons.1 mem).imp id (before p)
    · rw [eq]
      rcases ih fun p hp => wf p (List.mem_cons_of_mem o hp) with ⟨none, no⟩ | ⟨p, mem, found, called, first⟩
      · exact .inl ⟨none, List.forall_mem_cons.2 ⟨other, no⟩⟩
      · refine .inr ⟨p, List.mem_cons_of_mem o mem, found, called, List.forall_mem_cons.2 ⟨fun called => absurd called other, first⟩⟩

/-- The call that is found is the first one, and there is none only if no call is at the location. -/
theorem findCall_first {tree : Tree} (wf : tree.WellFormed) (location : Location) :
    findCall tree location = .ok none ∧ (∀ o : Occurrence, o.In tree → ¬ o.node.CalledAt location) ∨
      ∃ o, findCall tree location = .ok (some o) ∧ FirstCall tree location o := by
  obtain ⟨os, hos, mem, ordered⟩ := Tree.occurrences_breadthFirst wf.root.isNode
  simp only [findCall, hos, ok_bind]
  rcases findCallIn_first location (fun o ho => wf.descend ((mem o).1 ho)) ordered with
    ⟨none, no⟩ | ⟨o, ho, found, called, first⟩
  · exact .inl ⟨none, fun o ho => no o ((mem o).2 ho)⟩
  · exact .inr ⟨o, found, (mem o).1 ho, called, fun p hp => first p ((mem p).2 hp)⟩

/-! ### Calls below a changed call -/

/-- Trees with the same calls at the same addresses. -/
def SameCalls (t t' : Tree) : Prop := ∀ a u, u.isA .call = true → (t.at? a = some u ↔ t'.at? a = some u)

/-- Trees with the same calls at the same addresses below the root. -/
def SameCallsBelow (t t' : Tree) : Prop :=
  ∀ i a u, u.isA .call = true → (t.at? (i :: a) = some u ↔ t'.at? (i :: a) = some u)

theorem sameCallsBelow_of_children {t t' : Tree} (h : List.Forall₂ SameCalls t.children t'.children) : SameCallsBelow t t' := by
  intro i a u isCall
  simp only [Tree.at?]
  generalize t.children = cs at h
  generalize t'.children = ds at h
  induction h generalizing i with
  | nil => simp
  | cons head _ ih =>
    cases i with
    | zero => exact head a u isCall
    | succ i => exact ih i

theorem SameCallsBelow.sameCalls {t t' : Tree} (h : SameCallsBelow t t') (notCall : t.isA .call = false)
    (notCall' : t'.isA .call = false) : SameCalls t t' := by
  intro a u isCall
  cases a with
  | nil =>
    simp only [Tree.at?_nil, Option.some.injEq]
    constructor
    · rintro rfl
      cases notCall.symm.trans isCall
    · rintro rfl
      cases notCall'.symm.trans isCall
  | cons i a => exact h i a u isCall

theorem isA_false {t : Tree} {c d : Tree.NodeClass} (h : t.isA c = true) (ne : c ≠ d) : t.isA d = false := by
  rw [← Bool.not_eq_true]
  exact fun h' => ne (Tree.isA_unique h h')

/-- Below a constant there is nothing. -/
theorem children_of_constant {e : Tree} (wf : e.Conforms) (constant : e.isA .constant = true) : e.children = [] := by
  obtain ⟨v, hv, plain, notNode⟩ := wf.field constant (f := .value) (k := .plain) (by decide)
  obtain ⟨k, hk, text⟩ := wf.field constant (f := .kind) (k := .optionalText) (by decide)
  have value : Tree.nodesIn v = [] := by
    cases v with
    | list ts => cases plain
    | _ => simp [Tree.nodesIn, notNode]
  have kind : Tree.nodesIn k = [] := by
    rcases text with rfl | ⟨s, rfl⟩ <;> rfl
  rw [Tree.children_eq constant [.value, .kind] rfl]
  simp [Tree.fieldD_eq hv, Tree.fieldD_eq hk, value, kind]

/-- Below a name that is read there is its context alone. -/
theorem children_of_reads {e : Tree} {n : Text} (h : e.Reads n) : ∃ c, e.children = [c] ∧ c.isA .load = true := by
  obtain ⟨isName, ⟨c, context, load⟩, id⟩ := h
  refine ⟨c, ?_, load⟩
  have noNode : Tree.nodesIn (.text n) = [] := rfl
  rw [Tree.children_eq isName [.id, .ctx] rfl]
  simp [Tree.fieldD_eq id, noNode, Tree.fieldD_eq context, Tree.nodesIn_of_isNode (Tree.isNode_of_isA load)]

/-- What stands in place of an argument has the same calls. -/
theorem KeepsArgument.sameCalls {tree call e e' : Tree} {constants : Constants} (h : KeepsArgument tree call constants e e')
    (wf : e.Conforms) : SameCalls e e' := by
  cases h with
  | unchanged => exact fun _ _ _ => Iff.rfl
  | renamed literal reads _ =>
    obtain ⟨c, children, load⟩ := children_of_reads reads
    have context : SameCalls c c := fun _ _ _ => Iff.rfl
    have leaf : c.children = [] := Tree.children_eq load [] rfl
    have below : SameCallsBelow e e' := by
      intro i a u isCall
      have notCall : c.at? a ≠ some u := by
        cases a with
        | nil =>
          rintro ⟨⟩
          cases Tree.isA_unique load isCall
        | cons j a => simp [Tree.at?, leaf]
      cases i <;> simp [Tree.at?, children_of_constant wf literal.isConstant, children, notCall]
    exact below.sameCalls (isA_false literal.isConstant (by decide)) (isA_false reads.isName (by decide))

/-- A name that is read is a node, as every argument is. -/
theorem KeepsArgument.isNode {tree call e e' : Tree} {constants : Constants} (h : KeepsArgument tree call constants e e')
    (node : e.isNode = true) : e'.isNode = true := by
  cases h with
  | unchanged => exact node
  | renamed _ reads _ => exact Tree.isNode_of_isA reads.isName

/-- Below a keyword argument there is its value alone. -/
theorem children_of_keyword {k name e : Tree} (isKeyword : k.isA .keyword = true) (arg : k.field? .arg = some name)
    (plain : name = .null ∨ ∃ s, name = .text s) (value : k.field? .value = some e) (node : e.isNode = true) : k.children = [e] := by
  have noNode : Tree.nodesIn name = [] := by
    rcases plain with rfl | ⟨s, rfl⟩ <;> rfl
  rw [Tree.children_eq isKeyword [.arg, .value] rfl]
  simp [Tree.fieldD_eq arg, Tree.fieldD_eq value, noNode, Tree.nodesIn_of_isNode node]

/-- Below a well-formed call there are its callee, its arguments and its keyword arguments. -/
theorem children_of_call {t func : Tree} {as ks : List Tree} (wf : t.Conforms) (isCall : t.isA .call = true)
    (func_eq : t.field? .func = some func) (args_eq : t.field? .args = some (.list as))
    (keywords_eq : t.field? .keywords = some (.list ks)) : t.children = func :: (as ++ ks) := by
  obtain ⟨_, same, category, -⟩ := wf.one isCall (f := .func) (g := .expr) (by decide)
  cases func_eq.symm.trans same
  obtain ⟨_, same, eachArg⟩ := wf.many isCall (f := .args) (g := .expr) (by decide)
  cases args_eq.symm.trans same
  obtain ⟨_, same, eachKeyword⟩ := wf.many isCall (f := .keywords) (g := .keyword) (by decide)
  cases keywords_eq.symm.trans same
  have args : Tree.nodesIn (.list as) = as := List.filter_eq_self.2 fun a ha => (eachArg a ha).1.isNode
  have keywords : Tree.nodesIn (.list ks) = ks := List.filter_eq_self.2 fun k hk => (eachKeyword k hk).1.isNode
  rw [Tree.children_eq isCall [.func, .args, .keywords] rfl]
  simp [Tree.fieldD_eq func_eq, Tree.fieldD_eq args_eq, Tree.fieldD_eq keywords_eq,
    Tree.nodesIn_of_isNode category.isNode, args, keywords]

/-- A changed call has the same calls below it. -/
theorem KeepsArguments.sameCallsBelow {tree call changed : Tree} {constants : Constants}
    (h : KeepsArguments tree constants call changed) (wf : call.WellFormed) (wf' : changed.WellFormed)
    (isCall : call.isA .call = true) (isCall' : changed.isA .call = true) : SameCallsBelow call changed := by
  obtain ⟨as, bs, args_eq, args_eq', positional⟩ := h.positional
  obtain ⟨ks, ls, keywords_eq, keywords_eq', keyword⟩ := h.keyword
  obtain ⟨func, func_eq, -⟩ := wf.root.one isCall (f := .func) (g := .expr) (by decide)
  have func_eq' := (h.otherFields .func (by decide) (by decide)).trans func_eq
  have children := children_of_call wf.root isCall func_eq args_eq keywords_eq
  have below : ∀ u ∈ func :: (as ++ ks), u.WellFormed := fun u hu => wf.child (children ▸ hu)
  simp only [List.forall_mem_cons, List.forall_mem_append] at below
  have args : List.Forall₂ SameCalls as bs := by
    refine ((List.forall₂_and_left _ _).2 ⟨below.2.1, positional⟩).imp ?_
    rintro a b ⟨aWf, keeps⟩
    exact keeps.sameCalls aWf.root
  have keywords : List.Forall₂ SameCalls ks ls := by
    obtain ⟨_, same, eachKeyword⟩ := wf.root.many isCall (f := .keywords) (g := .keyword) (by decide)
    cases keywords_eq.symm.trans same
    have each : ∀ k ∈ ks, k.HasCategory .keyword ∧ k.WellFormed := fun k hk => ⟨(eachKeyword k hk).1, below.2.2 k hk⟩
    refine ((List.forall₂_and_left _ _).2 ⟨each, keyword⟩).imp ?_
    rintro k l ⟨⟨category, kWf⟩, sameClass, others, e, e', value_eq, value_eq', keeps⟩
    have isKeyword := Tree.isA_keyword category
    have isKeyword' : l.isA .keyword = true := by
      rw [isA_iff, sameClass]
      exact isA_iff.1 isKeyword
    obtain ⟨name, arg_eq, plain⟩ := kWf.root.optionalIdentifier isKeyword (f := .arg) (by decide)
    obtain ⟨_, same, category', child⟩ := kWf.root.one isKeyword (f := .value) (g := .expr) (by decide)
    cases value_eq.symm.trans same
    have inner : SameCallsBelow k l := by
      refine sameCallsBelow_of_children ?_
      rw [children_of_keyword isKeyword arg_eq plain value_eq category'.isNode,
        children_of_keyword isKeyword' ((others .arg (by decide)).trans arg_eq) plain value_eq' (keeps.isNode category'.isNode)]
      exact .cons (keeps.sameCalls (kWf.child child).root) .nil
    exact inner.sameCalls (isA_false isKeyword (by decide)) (isA_false isKeyword' (by decide))
  refine sameCallsBelow_of_children ?_
  rw [children, children_of_call wf'.root isCall' func_eq' args_eq' keywords_eq']
  exact .cons (fun _ _ _ => Iff.rfl) (List.rel_append args keywords)

theorem exists_of_forall₂_right {R : Tree → Tree → Prop} {as bs : List Tree} (h : List.Forall₂ R as bs) {b : Tree} (mem : b ∈ bs) :
    ∃ a, R a b := by
  induction h with
  | nil => cases mem
  | cons head _ ih =>
    rcases List.mem_cons.1 mem with rfl | later
    · exact ⟨_, head⟩
    · exact ih later

/-- A changed call passes no literal text. -/
theorem KeepsArguments.not_flags {tree call changed : Tree} {constants : Constants}
    (h : KeepsArguments tree constants call changed) (s : Extent) : ¬ changed.Flags s := by
  have named : ∀ {e e'}, KeepsArgument tree call constants e e' → ∀ v, ¬ e'.HoldsText v := by
    intro e e' keeps v text
    cases keeps with
    | unchanged notText => exact notText v text
    | renamed _ reads _ => cases Tree.isA_unique reads.isName text.isConstant
  rintro ⟨receiver, ⟨-, -, -, e', v, passes, text⟩, -⟩
  cases passes with
  | positional args_eq mem =>
    obtain ⟨as, bs, -, args_eq', positional⟩ := h.positional
    cases args_eq.symm.trans args_eq'
    obtain ⟨e, keeps⟩ := exists_of_forall₂_right positional mem
    exact named keeps v text
  | keyword keywords_eq mem value_eq =>
    obtain ⟨ks, ls, -, keywords_eq', keyword⟩ := h.keyword
    cases keywords_eq.symm.trans keywords_eq'
    obtain ⟨k, -, -, e, _, -, value_eq', keeps⟩ := exists_of_forall₂_right keyword mem
    cases value_eq.symm.trans value_eq'
    exact named keeps v text

end CallLint.Fix

namespace CallLint.Rule

open CallLint.Tree (Fault Occurrence BreadthFirst Measured Everywhere)

/-! ### What is flagged in a call -/

/-- What a rule finds in a tree, with the nodes that it flags, breadth first. -/
def flagged (r : Rule) (t : Tree) : Except Fault (List (Occurrence × Finding)) := do
  let os ← t.occurrences
  let found ← os.mapM fun o => return (← r.evaluate o.node).map (o, ·)
  return found.filterMap id

theorem evaluate_eq_some {r : Rule} {t : Tree} (h : t.Everywhere Measured) {f : Finding} :
    r.evaluate t = .ok (some f) ↔ ∃ s, t.Flags s ∧ f = r.descriptor.finding s.location := by
  constructor
  · intro found
    by_cases flags : ∃ s, t.Flags s
    · obtain ⟨s, flags⟩ := flags
      cases found.symm.trans (r.evaluate_of_flags h flags)
      exact ⟨s, flags, rfl⟩
    · cases found.symm.trans (r.evaluate_of_not_flags h fun s hs => flags ⟨s, hs⟩)
  · rintro ⟨s, flags, rfl⟩
    exact r.evaluate_of_flags h flags

/-- No node of a measured tree makes a rule fail. -/
theorem evaluate_eq_ok (r : Rule) {t : Tree} (h : t.Everywhere Measured) : ∃ found, r.evaluate t = .ok found := by
  by_cases flags : ∃ s, t.Flags s
  · obtain ⟨s, flags⟩ := flags
    exact ⟨_, r.evaluate_of_flags h flags⟩
  · exact ⟨_, r.evaluate_of_not_flags h fun s hs => flags ⟨s, hs⟩⟩

/-- Evaluating a rule at every occurrence gives what it finds at each. -/
theorem mapM_evaluate (r : Rule) {os : List Occurrence} (h : ∀ o ∈ os, o.node.Everywhere Measured) :
    ∃ found : Occurrence → Option Finding, (∀ o ∈ os, r.evaluate o.node = .ok (found o)) ∧
      (os.mapM fun o => (return (← r.evaluate o.node).map (o, ·) : Except Fault _)) =
        .ok (os.map fun o => (found o).map (o, ·)) := by
  refine ⟨fun o => (r.evaluate o.node).toOption.join, ?_, ?_⟩
  · intro o ho
    obtain ⟨found, eq⟩ := r.evaluate_eq_ok (h o ho)
    simp only [eq]
    rfl
  · induction os with
    | nil => rfl
    | cons o os ih =>
      obtain ⟨found, eq⟩ := r.evaluate_eq_ok (h o List.mem_cons_self)
      simp only [List.mapM_cons, eq, Tree.ok_bind, ih fun p hp => h p (List.mem_cons_of_mem o hp), List.map_cons]
      rfl

theorem flagged_eq (r : Rule) {t : Tree} (node : t.isNode = true) (h : t.Everywhere Measured) :
    ∃ flags, r.flagged t = .ok flags ∧ (∀ o f, (o, f) ∈ flags ↔ o.In t ∧ r.evaluate o.node = .ok (some f)) ∧
      flags.Pairwise fun c d => BreadthFirst c.1.place d.1.place := by
  obtain ⟨os, walk, mem, ordered⟩ := Tree.occurrences_breadthFirst node
  obtain ⟨found, each, run⟩ := r.mapM_evaluate fun o ho => h.descend ((mem o).1 ho)
  refine ⟨os.filterMap fun o => (found o).map (o, ·), ?_, ?_, ?_⟩
  · simp only [flagged, walk, Tree.ok_bind, run, List.filterMap_map]
    rfl
  · intro o f
    rw [List.mem_filterMap]
    constructor
    · rintro ⟨p, hp, at_p⟩
      obtain ⟨g, found_eq, same⟩ := Option.map_eq_some_iff.1 at_p
      cases same
      exact ⟨(mem o).1 hp, found_eq ▸ each o hp⟩
    · rintro ⟨at_o, eq⟩
      have ho := (mem o).2 at_o
      refine ⟨o, ho, ?_⟩
      rw [Except.ok.inj ((each o ho).symm.trans eq)]
      rfl
  · refine ordered.filterMap _ ?_
    rintro o p before _ at_o _ at_p
    obtain ⟨_, -, rfl⟩ := Option.map_eq_some_iff.1 at_o
    obtain ⟨_, -, rfl⟩ := Option.map_eq_some_iff.1 at_p
    exact before

/-- Breadth-first lists with the same members are the same. -/
theorem eq_of_breadthFirst {cs ds : List (Occurrence × Finding)} (hc : cs.Pairwise fun c d => BreadthFirst c.1.place d.1.place)
    (hd : ds.Pairwise fun c d => BreadthFirst c.1.place d.1.place) (mem : ∀ c, c ∈ cs ↔ c ∈ ds) : cs = ds := by
  have ne : ∀ {c d : Occurrence × Finding}, BreadthFirst c.1.place d.1.place → c ≠ d := by
    rintro c _ before rfl
    exact BreadthFirst.irrefl c.1.place before
  have perm : cs.Perm ds := (List.perm_ext_iff_of_nodup (hc.imp ne) (hd.imp ne)).2 mem
  exact perm.eq_of_pairwise (fun c d _ _ before after => absurd before after.asymm) hc hd

/-- If a call is flagged and a changed call is not, and the same calls are below both, then all that is flagged in the call is itself
and what is flagged in the changed call, in that order. -/
theorem flagged_eq_cons (r : Rule) {call changed : Tree} (wf : call.WellFormed) (wf' : changed.WellFormed)
    (same : Fix.SameCallsBelow call changed) {g : Finding} (here : r.evaluate call = .ok (some g))
    (gone : r.evaluate changed = .ok none) :
    ∃ others, r.flagged call = .ok ((⟨[], call⟩, g) :: others) ∧ r.flagged changed = .ok others := by
  obtain ⟨found, eq, mem, ordered⟩ := r.flagged_eq wf.root.isNode wf.measured
  obtain ⟨others, eq', mem', ordered'⟩ := r.flagged_eq wf'.root.isNode wf'.measured
  refine ⟨others, ?_, eq'⟩
  have below : ∀ o f, (o, f) ∈ others → o.place ≠ [] := by
    intro o f h root
    obtain ⟨at_o, flags⟩ := (mem' o f).1 h
    rw [Occurrence.In, root] at at_o
    cases at_o
    cases gone.symm.trans flags
  have isCall : ∀ {t : Tree} {f : Finding}, t.Everywhere Measured → r.evaluate t = .ok (some f) → t.isA .call = true := by
    intro t f measured flags
    obtain ⟨s, flags, -⟩ := (evaluate_eq_some measured).1 flags
    exact flags.callsMemberAt.1
  -- Both lists are in breadth-first order, so it is enough that they have the same members.
  have all : found = (⟨[], call⟩, g) :: others := by
    refine eq_of_breadthFirst ordered (List.pairwise_cons.2 ⟨?_, ordered'⟩) ?_
    · rintro ⟨o, f⟩ h
      exact Or.inl (List.length_pos_iff.2 (below o f h))
    · rintro ⟨o, f⟩
      have atRoot : Occurrence.In ⟨[], call⟩ call := rfl
      rw [List.mem_cons, mem, mem', Prod.mk.injEq]
      constructor
      · rintro ⟨at_o, flags⟩
        cases place : o.place with
        | nil =>
          obtain rfl := Occurrence.eq_of_place at_o atRoot place
          cases here.symm.trans flags
          exact Or.inl ⟨rfl, rfl⟩
        | cons i a =>
          rw [Occurrence.In, place] at at_o ⊢
          exact Or.inr ⟨(same i a o.node (isCall (wf.measured.descend at_o) flags)).1 at_o, flags⟩
      · rintro (⟨rfl, rfl⟩ | ⟨at_o, flags⟩)
        · exact ⟨atRoot, here⟩
        · obtain ⟨i, a, place⟩ := List.exists_cons_of_ne_nil (below o f ((mem' o f).2 ⟨at_o, flags⟩))
          rw [Occurrence.In, place] at at_o ⊢
          exact ⟨(same i a o.node (isCall (wf'.measured.descend at_o) flags)).2 at_o, flags⟩
  rw [eq, all]

end CallLint.Rule

namespace CallLint.Fix

open CallLint.Tree (Extent Occurrence Named WellFormed Everywhere DistinctCallees)

/-- The rule and the fix mean the same call, and a fix removes its own finding alone. In a well-formed module where the member accesses
that are called stand in different places, every finding is that of one flagged call, and its place leads back to that call. The
changed call of a proposal is not flagged, and all else that is flagged in the call is flagged in the changed call, at the same
addresses, with the same findings and in the same order. -/
theorem extract_removes_own_finding {tree : Tree} (rules : List Rule) (path : String) (wf : tree.WellFormed)
    (isModule : tree.isA .module = true) (named : tree.Everywhere Named) (distinct : tree.DistinctCallees) :
    ∃ findings, Analyzer.analyzeTree ⟨rules, .decline⟩ tree path = .ok findings ∧ ∀ f ∈ findings,
      ∃ r ∈ rules, ∃ o g, o.In tree ∧ r.evaluate o.node = .ok (some g) ∧ f = g.inPath path ∧
        (∀ r' p g', p.In tree → Rule.evaluate r' p.node = .ok (some g') → g'.location = f.location → p = o) ∧
        findCall tree f.location = .ok (some o) ∧
        ∀ proposal, extract f tree = .ok (some proposal) →
          ∃ scope changed others, Derives f tree proposal o scope changed ∧ r.evaluate changed = .ok none ∧
            r.flagged o.node = .ok ((⟨[], o.node⟩, g) :: others) ∧ r.flagged changed = .ok others := by
  obtain ⟨calls, flagged, run⟩ := Analyzer.analyzeTree_decline rules path wf.root.isNode wf.measured
  refine ⟨_, run, fun f mem => ?_⟩
  rw [(Sorting.sort_perm _ _).mem_iff, List.mem_flatMap] at mem
  obtain ⟨⟨place, s⟩, hc, mem⟩ := mem
  obtain ⟨r, hr, rfl⟩ := List.mem_map.1 mem
  obtain ⟨call, at_call, flags⟩ := (flagged.mem place s).1 hc
  have at_o : Occurrence.In ⟨place.reverse, call⟩ tree := by simpa [Occurrence.In, Occurrence.place] using at_call
  have callWf : call.WellFormed := wf.descend at_call
  have evaluated := r.evaluate_of_flags callWf.measured flags
  have back := findCall_eq_of_flags wf distinct at_o flags
  refine ⟨r, hr, ⟨place.reverse, call⟩, _, at_o, evaluated, (Descriptor.finding_inPath r path s).symm, ?_, back, ?_⟩
  · intro r' p g' at_p found same
    have nodeWf : p.node.WellFormed := wf.descend at_p
    obtain ⟨s', flags', rfl⟩ := (Rule.evaluate_eq_some nodeWf.measured).1 found
    have location_eq : s'.location = s.location := same
    obtain rfl : s' = s := Extent.location_same.1 (location_eq ▸ Extent.location_same.2 rfl)
    exact Occurrence.eq_of_place at_p at_o (distinct _ _ _ _ s' at_p at_o flags'.callsMemberAt flags.callsMemberAt)
  · intro proposal proposed
    obtain ⟨o, scope, changed, derives⟩ := extract_eq_some proposed
    cases derives.call_eq.symm.trans back
    obtain ⟨wf', isCall'⟩ := extractCall_wellFormed wf isModule derives.scope_eq callWf flags.callsMemberAt.1 derives.changed_eq
    have keeps := extractCall_keepsArguments wf isModule derives.scope_eq callWf flags.callsMemberAt.1 named derives.changed_eq
    have gone := r.evaluate_of_not_flags wf'.measured keeps.not_flags
    obtain ⟨others, before, after⟩ :=
      r.flagged_eq_cons callWf wf' (keeps.sameCallsBelow callWf wf' flags.callsMemberAt.1 isCall') evaluated gone
    exact ⟨scope, changed, others, derives, gone, before, after⟩

/-- A call of a member of what a call gives, with a call among its arguments. -/
def nestedCalls : List Char := "a.b('x').c(d.e('y'), 'z')\n".toList

/-- The places of its callees are different, and three calls are flagged in the one with a proposal. -/
theorem nestedCalls_extract :
    ∃ tree findings f proposal o, Source.readTree .module nestedCalls = .ok tree ∧ tree.isA .module = true ∧
      tree.Everywhere Named ∧ tree.DistinctCallees ∧
      Analyzer.analyzeTree ⟨Rule.defaults, .decline⟩ tree "a.py" = .ok findings ∧ f ∈ findings ∧
      extract f tree = .ok (some proposal) ∧ findCall tree f.location = .ok (some o) ∧
      ∀ r ∈ Rule.defaults, ∃ flags, r.flagged o.node = .ok flags ∧ flags.length = 3 := by
  have run : ((Source.readTree .module nestedCalls).toOption.any fun tree => tree.occurrences.toOption.any fun os =>
      (Analyzer.analyzeTree ⟨Rule.defaults, .decline⟩ tree "a.py").toOption.any fun findings => findings.any fun f =>
        (extract f tree).toOption.any fun proposal? => (findCall tree f.location).toOption.any fun call? =>
          proposal?.any fun _ => call?.any fun o => tree.isA .module &&
            (os.all fun o => !o.node.isA .name || !(o.node.fieldD .id).same (.text [])) &&
            (os.all fun o => os.all fun p => o.node.calleeLocation?.all fun l => p.node.calleeLocation?.all fun m =>
              !l.same m || o.address == p.address) &&
            Rule.defaults.all fun r => (r.flagged o.node).toOption.any fun flags => flags.length == 3) = true := by
    decide +kernel
  obtain ⟨tree, read, run⟩ := Tree.any_toOption.1 run
  obtain ⟨os, walk, run⟩ := Tree.any_toOption.1 run
  obtain ⟨findings, analyzed, run⟩ := Tree.any_toOption.1 run
  obtain ⟨f, hf, run⟩ := List.any_eq_true.1 run
  obtain ⟨proposal?, proposed, run⟩ := Tree.any_toOption.1 run
  obtain ⟨call?, found, run⟩ := Tree.any_toOption.1 run
  simp only [Option.any_eq_true, Bool.and_eq_true, List.all_eq_true] at run
  obtain ⟨proposal, rfl, o, rfl, ⟨⟨isModule, names⟩, callees⟩, sizes⟩ := run
  refine ⟨tree, findings, f, proposal, o, read, isModule, ?_, ?_, analyzed, hf, proposed, found, fun r hr => ?_⟩
  · rintro a u hu isName _ id rfl
    have mem : (⟨a.reverse, u⟩ : Occurrence) ∈ os :=
      (Tree.mem_occurrences walk).2 (by simpa [Occurrence.In, Occurrence.place] using hu)
    have checked := names _ mem
    rw [isName, Tree.fieldD_eq id, Tree.same_text.2 rfl] at checked
    cases checked
  · refine Tree.distinctCallees_of_occurrences walk fun o ho p hp l hl m hm same => ?_
    have checked := callees o ho p hp
    rw [hl, hm] at checked
    simpa [same] using checked
  · obtain ⟨flags, eq, size⟩ := Tree.any_toOption.1 ((Option.any_eq_true _ _).2 (sizes r hr))
    exact ⟨flags, eq, by simpa using size⟩

theorem extract_removes_own_finding_nested :
    ∃ tree findings f proposal r o g scope changed others, Source.readTree .module nestedCalls = .ok tree ∧
      Analyzer.analyzeTree ⟨Rule.defaults, .decline⟩ tree "a.py" = .ok findings ∧ f ∈ findings ∧ r ∈ Rule.defaults ∧
      findCall tree f.location = .ok (some o) ∧ Derives f tree proposal o scope changed ∧
      Rule.evaluate r o.node = .ok (some g) ∧ r.evaluate changed = .ok none ∧
      r.flagged o.node = .ok ((⟨[], o.node⟩, g) :: others) ∧ r.flagged changed = .ok others ∧ others.length = 2 := by
  obtain ⟨tree, findings, f, proposal, o, read, isModule, named, distinct, analyzed, hf, proposed, found, sizes⟩ :=
    nestedCalls_extract
  have wf := Source.readTree_wellFormed read
  obtain ⟨_, same, each⟩ := extract_removes_own_finding Rule.defaults "a.py" wf isModule named distinct
  cases analyzed.symm.trans same
  obtain ⟨r, hr, o', g, -, evaluated, -, -, back, fixes⟩ := each f hf
  cases found.symm.trans back
  obtain ⟨scope, changed, others, derives, gone, before, after⟩ := fixes proposal proposed
  obtain ⟨flags, eq, size⟩ := sizes r hr
  cases before.symm.trans eq
  have two : others.length = 2 := by simpa using size
  exact ⟨tree, findings, f, proposal, r, o, g, scope, changed, others, read, analyzed, hf, hr, found, derives, evaluated, gone, before,
    after, two⟩

end CallLint.Fix

import CallLint.Proofs.Fix.Extraction
import CallLint.Proofs.Source.WellFormed

/-!
# The arguments of a changed call

On a well-formed module with non-empty names a changed call has the arguments of the call: what is no text is as it was,
and a text is read from a name that holds it, either a new constant or one that the module assigns above the call
(`extract_keeps_arguments`).
-/

namespace CallLint.Tree

/-- A name that is not empty. -/
def Named (t : Tree) : Prop := t.isA .name = true → ∀ n, t.field? .id = some (.text n) → n ≠ []

theorem less_int {m n : Int} : (Tree.int m).less (.int n) = .ok true ↔ m < n := by
  simp [less, ratio?, int?]

end CallLint.Tree

namespace CallLint.Fix

open CallLint.Tree (Fault Field Occurrence NodeClass Named WellFormed Everywhere bind_eq_ok map_eq_ok field_eq_ok isA_iff)

/-! ### Changed fields -/

section SetField

variable {t v w : Tree} {f g : Field}

theorem lookup_map_ite (fs : List (Field × Tree)) :
    (fs.map fun (g, w) => if g == f then (g, v) else (g, w)).lookup g =
      if g = f then (fs.lookup g).map fun _ => v else fs.lookup g := by
  induction fs with
  | nil => simp
  | cons e fs ih =>
    obtain ⟨k, u⟩ := e
    by_cases hk : k = f
    · by_cases hg : g = f
      · simp [hk, hg]
      · have other : (g == f) = false := by simpa using hg
        simpa [hk, hg, List.lookup_cons, other] using ih
    · by_cases hg : g = k
      · simp [hg, hk]
      · have other : (g == k) = false := by simpa using hg
        simpa [hk, List.lookup_cons, other] using ih

theorem cls?_setField (t : Tree) (f : Field) (v : Tree) : (setField t f v).cls? = t.cls? := by
  cases t <;> rfl

theorem field?_setField_of_ne (h : g ≠ f) : (setField t f v).field? g = t.field? g := by
  cases t with
  | node c fs =>
    simp only [setField, Tree.field?]
    rw [lookup_map_ite, if_neg h]
  | _ => rfl

/-- A field that is there and has no default is changed. -/
theorem field?_setField_self {c : NodeClass} (isA : t.isA c = true) (stored : c.defaults f = false)
    (h : t.field? f = some w) : (setField t f v).field? f = some v := by
  cases t with
  | node d fs =>
    obtain rfl : d = c := Option.some.inj (isA_iff.1 isA)
    simp only [setField, Tree.field?, stored] at h ⊢
    rw [lookup_map_ite, if_pos rfl]
    cases hl : fs.lookup f with
    | none => simp [hl] at h
    | some u => simp
  | _ => cases h

end SetField

/-- A keyword argument keeps all but its value. -/
theorem ReplacesValue.value_eq {scope : Scope} {constants : Constants} {k k' : Tree}
    (h : ReplacesValue scope constants k k') (isKeyword : k.isA .keyword = true) :
    ∃ e e', k.field? .value = some e ∧ k'.field? .value = some e' ∧ k'.cls? = k.cls? ∧
      (∀ f, f ≠ .value → k'.field? f = k.field? f) ∧ Replaces scope constants e e' := by
  obtain ⟨e, e', he, replaces, ⟨rfl, rfl⟩ | rfl⟩ := h
  · exact ⟨e', e', he, he, rfl, fun _ _ => rfl, replaces⟩
  · exact ⟨e, e', he, field?_setField_self isKeyword rfl he, cls?_setField _ _ _, fun _ => field?_setField_of_ne, replaces⟩

/-! ### Names in scope -/

theorem findCallIn_eq_some {location : Location} {os : List Occurrence} {o : Occurrence}
    (h : findCallIn location os = .ok (some o)) : o ∈ os ∧ o.node.isA .call = true := by
  induction os with
  | nil => cases h
  | cons p os ih =>
    rw [findCallIn] at h
    obtain ⟨s, hs, h⟩ := bind_eq_ok.1 h
    have later : findCallIn location os = .ok (some o) → o ∈ p :: os ∧ o.node.isA .call = true :=
      fun h => ⟨List.mem_cons_of_mem p (ih h).1, (ih h).2⟩
    split at h
    · exact later h
    next isCall =>
    obtain ⟨receiver?, -, h⟩ := bind_eq_ok.1 h
    cases receiver? with
    | none => exact later h
    | some receiver =>
      obtain ⟨found?, -, h⟩ := bind_eq_ok.1 h
      cases found? with
      | none => exact later h
      | some found =>
        simp only at h
        split at h
        · cases h
          exact ⟨List.mem_cons_self, (Tree.isA_of_shape hs).1 (by simpa using isCall)⟩
        · exact later h

/-- The call that is found stands in the tree. -/
theorem findCall_eq_some {tree : Tree} {location : Location} {o : Occurrence}
    (h : findCall tree location = .ok (some o)) : o.In tree ∧ o.node.isA .call = true := by
  obtain ⟨os, hos, h⟩ := bind_eq_ok.1 h
  obtain ⟨mem, call⟩ := findCallIn_eq_some h
  exact ⟨(Tree.mem_occurrences hos).1 mem, call⟩

/-- The first target of an assignment that ends above a call. -/
structure AssignedAbove (call statement id : Tree) : Prop where
  isAssign : statement.isA .assign = true
  target : ∃ target, firstTarget statement = .ok target ∧ target.isA .name = true ∧ target.field? .id = some id
  above : ∃ last line, statement.field? .endLineno = some last ∧ call.field? .lineno = some line ∧
    last.less line = .ok true

theorem mem_definedBefore {call : Tree} {statements defined : List Tree}
    (h : definedBefore call statements = .ok defined) {id : Tree} (mem : id ∈ defined) :
    ∃ statement ∈ statements, AssignedAbove call statement id := by
  induction statements generalizing defined with
  | nil =>
    cases h
    cases mem
  | cons s statements ih =>
    have later : ∀ {defined}, definedBefore call statements = .ok defined → id ∈ defined →
        ∃ statement ∈ s :: statements, AssignedAbove call statement id := by
      intro defined h mem
      obtain ⟨statement, hs, above⟩ := ih h mem
      exact ⟨statement, List.mem_cons_of_mem s hs, above⟩
    rw [definedBefore] at h
    split at h
    · exact later h mem
    next isAssign =>
    obtain ⟨target, ht, h⟩ := bind_eq_ok.1 h
    split at h
    · exact later h mem
    next isName =>
    obtain ⟨last, hl, h⟩ := bind_eq_ok.1 h
    obtain ⟨line, hn, h⟩ := bind_eq_ok.1 h
    obtain ⟨less, above, h⟩ := bind_eq_ok.1 h
    cases less with
    | false => exact later h mem
    | true =>
      simp only [↓reduceIte] at h
      obtain ⟨id', hid, h⟩ := bind_eq_ok.1 h
      split at h
      · cases h
      obtain ⟨others, ho, h⟩ := bind_eq_ok.1 h
      cases h
      rcases List.mem_cons.1 mem with first | mem
      · subst first
        refine ⟨s, List.mem_cons_self, by simpa using isAssign, ⟨target, ht, by simpa using isName, field_eq_ok.1 hid⟩,
          last, line, field_eq_ok.1 hl, field_eq_ok.1 hn, above⟩
      · exact later ho mem

/-- A name that can be reused is a key with that text, and one of the names assigned above. -/
theorem reusableName_eq_some {b : Bindings} {defined : List Tree} {value : Text} {name : Tree}
    (h : reusableName b defined value = some name) : (name, some value) ∈ b ∧ ∃ d ∈ defined, d.same name = true := by
  unfold reusableName at h
  obtain ⟨⟨key, v⟩, found, rfl⟩ := Option.map_eq_some_iff.1 h
  have mem := List.mem_of_find?_eq_some found
  have test := List.find?_some found
  simp only [Bool.and_eq_true, beq_iff_eq, List.any_eq_true] at test
  obtain ⟨rfl, d, hd, same⟩ := test
  exact ⟨List.mem_reverse.1 mem, d, hd, same⟩

/-! ### What the names hold -/

/-- A name of a new constant for a text, which the module neither binds nor reads. -/
structure NewName (tree : Tree) (constants : Constants) (n v : Text) : Prop where
  constant : ∃ name, n = Text.ofChars name ∧ (name, v) ∈ constants
  unbound : ∃ bindings, moduleBindings tree = .ok bindings ∧ bindings.binds (.text n) = false
  unread : ∃ loaded, loadedNames tree = .ok loaded ∧ .text n ∉ loaded

/-- A name that is the first target of a statement of the module that ends on a line above a call. -/
def AssignsAbove (tree call : Tree) (n : Text) : Prop :=
  ∃ body statement target others, tree.field? .body = some (.list body) ∧ statement ∈ body ∧
    statement.isA .assign = true ∧ statement.field? .targets = some (.list (target :: others)) ∧
    target.isA .name = true ∧ target.field? .id = some (.text n) ∧
    ∃ last line, statement.field? .endLineno = some (.int last) ∧ call.field? .lineno = some (.int line) ∧ last < line

/-- A name that the module binds to a text and assigns above a call. -/
structure ReusedName (tree call : Tree) (constants : Constants) (n v : Text) : Prop where
  notNew : ∀ c ∈ constants, Text.ofChars c.1 ≠ n
  bound : ∃ bindings, moduleBindings tree = .ok bindings ∧ bindings.valueOf? (.text n) = some (some v)
  assigned : AssignsAbove tree call n

/-- Where names are not empty, neither are those of targets. -/
theorem AssignsAbove.ne_nil {tree call : Tree} {n : Text} (h : AssignsAbove tree call n)
    (isModule : tree.isA .module = true) (named : tree.Everywhere Named) : n ≠ [] := by
  obtain ⟨body, statement, target, others, body_eq, mem, isAssign, targets_eq, isName, id_eq, -⟩ := h
  have statementNamed := named.child (Tree.child_of_list isModule (by decide) body_eq mem (Tree.isNode_of_isA isAssign))
  have targetNamed := statementNamed.child (Tree.child_of_list isAssign (by decide) targets_eq List.mem_cons_self
    (Tree.isNode_of_isA isName))
  exact targetNamed.root isName n id_eq

/-- What a changed call has in place of an argument: the argument if it is no text, else a name that is read and holds
the text. -/
inductive KeepsArgument (tree call : Tree) (constants : Constants) (e : Tree) : Tree → Prop where
  | unchanged (notText : ∀ v, ¬ e.HoldsText v) : KeepsArgument tree call constants e e
  | renamed {e' : Tree} {v n : Text} (literal : e.HoldsText v) (reads : e'.Reads n)
      (holds : NewName tree constants n v ∨ ReusedName tree call constants n v) :
      KeepsArgument tree call constants e e'

/-- A changed call differs from the call in its arguments only, which are kept one by one and in order; keyword arguments
keep their names. -/
structure KeepsArguments (tree : Tree) (constants : Constants) (call changed : Tree) : Prop where
  sameClass : changed.cls? = call.cls?
  otherFields : ∀ f, f ≠ .args → f ≠ .keywords → changed.field? f = call.field? f
  positional : ∃ as bs, call.field? .args = some (.list as) ∧ changed.field? .args = some (.list bs) ∧
    List.Forall₂ (KeepsArgument tree call constants) as bs
  keyword : ∃ ks ls, call.field? .keywords = some (.list ks) ∧ changed.field? .keywords = some (.list ls) ∧
    List.Forall₂ (fun k l => l.cls? = k.cls? ∧ (∀ f, f ≠ .value → l.field? f = k.field? f) ∧
      ∃ e e', k.field? .value = some e ∧ l.field? .value = some e' ∧ KeepsArgument tree call constants e e') ks ls

/-- In a well-formed call both kinds of arguments are lists, and so are those of the changed call. -/
theorem extractCall_lists {scope : Scope} {call changed : Tree} {constants : Constants}
    (h : extractCall scope call = .ok (some (changed, constants))) (callWf : call.WellFormed)
    (isCall : call.isA .call = true) :
    Fresh scope constants ∧ ∃ as bs ks ls, call.field? .args = some (.list as) ∧ call.field? .keywords = some (.list ks) ∧
      (∀ a ∈ as, a.HasCategory .expr ∧ a ∈ call.children) ∧ (∀ k ∈ ks, k.HasCategory .keyword ∧ k ∈ call.children) ∧
      List.Forall₂ (Replaces scope constants) as bs ∧ List.Forall₂ (ReplacesValue scope constants) ks ls ∧
      changed = setField (setField call .args (.list bs)) .keywords (.list ls) := by
  obtain ⟨fresh, args, keywords, as, bs, ks, ls, args_eq, as_eq, keywords_eq, ks_eq, positional, keyword, rfl⟩ :=
    extractCall_eq_some h
  obtain ⟨as', as'_eq, eachArg⟩ := callWf.root.many isCall (f := .args) (g := .expr) (by decide)
  obtain ⟨ks', ks'_eq, eachKeyword⟩ := callWf.root.many isCall (f := .keywords) (g := .keyword) (by decide)
  obtain rfl : args = .list as' := Option.some.inj (args_eq.symm.trans as'_eq)
  obtain rfl : as' = as := Except.ok.inj as_eq
  obtain rfl : keywords = .list ks' := Option.some.inj (keywords_eq.symm.trans ks'_eq)
  obtain rfl : ks' = ks := Except.ok.inj ks_eq
  exact ⟨fresh, as', bs, ks', ls, args_eq, keywords_eq, eachArg, eachKeyword, positional, keyword, rfl⟩

section Scope

variable {tree call : Tree} {scope : Scope} (wf : tree.WellFormed) (isModule : tree.isA .module = true)
  (scope_eq : callScope tree call = .ok (some scope)) (callWf : call.WellFormed) (isCall : call.isA .call = true)

include wf isModule scope_eq callWf isCall

/-- In a well-formed module the names assigned above a call are texts. -/
theorem assignsAbove_of_mem_defined {d : Tree} (mem : d ∈ scope.defined) :
    ∃ n, d = .text n ∧ AssignsAbove tree call n := by
  obtain ⟨-, -, body, statements, body_eq, statements_eq, defined_eq⟩ := callScope_eq_some scope_eq
  obtain ⟨ts, ts_eq, each⟩ := wf.root.many isModule (f := .body) (g := .stmt) (by decide)
  obtain rfl : body = .list ts := Option.some.inj (body_eq.symm.trans ts_eq)
  obtain rfl : ts = statements := Except.ok.inj statements_eq
  obtain ⟨statement, hs, above⟩ := mem_definedBefore defined_eq mem
  have statementWf := wf.child (each statement hs).2
  obtain ⟨target, others, targets_eq, eachTarget⟩ :=
    statementWf.root.several above.isAssign (f := .targets) (g := .expr) (by decide)
  obtain ⟨target', first, isName, id_eq⟩ := above.target
  obtain rfl : target = target' := by
    simp [firstTarget, field_eq_ok.2 targets_eq, Tree.iterate] at first
    exact first
  have targetWf := statementWf.child (eachTarget target List.mem_cons_self).2
  obtain ⟨n, hn⟩ := targetWf.root.identifier isName (f := .id) (by decide)
  obtain rfl : d = .text n := Option.some.inj (id_eq.symm.trans hn)
  obtain ⟨last, line, last_eq, line_eq, less⟩ := above.above
  obtain ⟨s, extent⟩ := statementWf.root.position above.isAssign rfl
  obtain ⟨s', extent'⟩ := callWf.root.position isCall rfl
  rw [extent.endLine] at last_eq
  rw [extent'.line] at line_eq
  cases last_eq
  cases line_eq
  exact ⟨n, rfl, ts, statement, target, others, ts_eq, hs, above.isAssign, targets_eq, isName, hn, _, _,
    extent.endLine, extent'.line, Tree.less_int.1 less⟩

/-- What stands for a text in the scope of a call holds it. -/
theorem standsFor_holds {constants : Constants} (fresh : Fresh scope constants) {id : Tree} {v : Text}
    (h : StandsFor scope constants id v) :
    ∃ n, id = .text n ∧ (NewName tree constants n v ∨ ReusedName tree call constants n v) := by
  obtain ⟨bindings_eq, ⟨loaded, loaded_eq, reserved_eq⟩, -⟩ := callScope_eq_some scope_eq
  have unused : ∀ c ∈ constants, .text (Text.ofChars c.1) ∉ scope.bindings.map (·.1) ∧ .text (Text.ofChars c.1) ∉ loaded := by
    intro c hc
    have unused := fresh.not_reserved hc
    rwa [reserved_eq, List.mem_append, not_or] at unused
  cases h with
  | @constant name id_eq mem =>
    refine ⟨_, id_eq, Or.inl ⟨⟨name, rfl, mem⟩, ⟨_, bindings_eq, ?_⟩, ⟨loaded, loaded_eq, (unused _ mem).2⟩⟩⟩
    rw [← Bool.not_eq_true, Bindings.binds_text]
    exact (unused _ mem).1
  | reused name_eq =>
    obtain ⟨key, d, hd, same⟩ := reusableName_eq_some name_eq
    obtain ⟨n, rfl, assigned⟩ := assignsAbove_of_mem_defined wf isModule scope_eq callWf isCall hd
    obtain rfl := Tree.text_same.1 same
    refine ⟨n, rfl, Or.inr ⟨?_, ⟨_, bindings_eq, (moduleBindings_distinct bindings_eq).valueOf?_eq key⟩, assigned⟩⟩
    rintro c hc rfl
    exact (unused c hc).1 (List.mem_map.2 ⟨_, key, rfl⟩)

variable (named : tree.Everywhere Named)

include named

theorem Replaces.keepsArgument {constants : Constants} (fresh : Fresh scope constants) {e e' : Tree}
    (h : Replaces scope constants e e') : KeepsArgument tree call constants e e' := by
  cases h with
  | kept unnamed =>
    refine .unchanged fun v hv => ?_
    obtain ⟨name, name_eq, falsy⟩ := unnamed v hv
    obtain ⟨-, d, hd, same⟩ := reusableName_eq_some name_eq
    obtain ⟨n, rfl, assigned⟩ := assignsAbove_of_mem_defined wf isModule scope_eq callWf isCall hd
    rw [Tree.text_same.1 same, Tree.truthy_text (assigned.ne_nil isModule named)] at falsy
    cases falsy
  | named literal standsFor =>
    obtain ⟨n, rfl, holds⟩ := standsFor_holds wf isModule scope_eq callWf isCall fresh standsFor
    exact .renamed literal (nameInPlace_reads n e) holds

theorem extractCall_keepsArguments {changed : Tree} {constants : Constants}
    (h : extractCall scope call = .ok (some (changed, constants))) : KeepsArguments tree constants call changed := by
  obtain ⟨fresh, as, bs, ks, ls, args_eq, keywords_eq, -, eachKeyword, positional, keyword, rfl⟩ :=
    extractCall_lists h callWf isCall
  have keeps : ∀ e e', Replaces scope constants e e' → KeepsArgument tree call constants e e' :=
    fun e e' => Replaces.keepsArgument wf isModule scope_eq callWf isCall named fresh
  have callSet : (setField call .args (.list bs)).isA .call = true := by
    rw [isA_iff, cls?_setField]
    exact isA_iff.1 isCall
  refine ⟨by rw [cls?_setField, cls?_setField], ?_, ⟨as, bs, args_eq, ?_, positional.imp keeps⟩, ks, ls, keywords_eq, ?_, ?_⟩
  · intro f notArgs notKeywords
    rw [field?_setField_of_ne notKeywords, field?_setField_of_ne notArgs]
  · rw [field?_setField_of_ne (by decide), field?_setField_self isCall rfl args_eq]
  · refine field?_setField_self callSet rfl (w := .list ks) ?_
    rw [field?_setField_of_ne (by decide)]
    exact keywords_eq
  · have isKeyword : ∀ k ∈ ks, k.isA .keyword = true := fun k hk => Tree.isA_keyword (eachKeyword k hk).1
    refine ((List.forall₂_and_left _ _).2 ⟨isKeyword, keyword⟩).imp ?_
    rintro k l ⟨isKeyword, replaces⟩
    obtain ⟨e, e', he, he', sameClass, others, replaces⟩ := replaces.value_eq isKeyword
    exact ⟨sameClass, others, e, e', he, he', keeps e e' replaces⟩

end Scope

/-- A changed call keeps every argument: what is printed for a proposal is the call that was found, with the same callee
and the same arguments in the same order, in which each text is read from a name that holds it. The new constants have
different names. -/
theorem extract_keeps_arguments {finding : Finding} {tree : Tree} {proposal : Proposal} (wf : tree.WellFormed)
    (named : tree.Everywhere Named) (h : extract finding tree = .ok (some proposal)) :
    ∃ call scope changed text, findCall tree finding.location = .ok (some call) ∧
      callScope tree call.node = .ok (some scope) ∧
      extractCall scope call.node = .ok (some (changed, proposal.constants)) ∧
      changed.print = .ok text ∧ text.toChars? = proposal.replacement ∧
      KeepsArguments tree proposal.constants call.node changed ∧ (proposal.constants.map (·.1)).Nodup := by
  obtain ⟨call, scope, changed, derives⟩ := extract_eq_some h
  obtain ⟨at_call, isCall⟩ := findCall_eq_some derives.call_eq
  obtain ⟨text, print_eq, text_eq⟩ := readableSource_eq_some derives.source_eq derives.proposed
  exact ⟨call, scope, changed, text, derives.call_eq, derives.scope_eq, derives.changed_eq, print_eq, text_eq,
    extractCall_keepsArguments wf derives.isModule derives.scope_eq (wf.descend at_call) isCall named derives.changed_eq,
    (extractCall_eq_some derives.changed_eq).1.distinct⟩

/-- A call with a text that a constant above it holds, a number, and a new text twice. -/
def mixedModule : List Char := "ADMIN = 'admin'\nacl.check('admin', 7, 'power user', role='power user')\n".toList

def mixedFinding : Finding := Rule.literalStrings.finding (.ofInts 2 1 2 10)

/-- There is a proposal for the call in it, with one new constant. -/
theorem mixedModule_extract :
    ∃ tree proposal, Source.readTree .module mixedModule = .ok tree ∧ tree.Everywhere Named ∧
      extract mixedFinding tree = .ok (some proposal) ∧
      proposal.constants = [("POWER_USER".toList, Text.ofString "power user")] := by
  have run : ((Source.readTree .module mixedModule).toOption.any fun tree => tree.walk.toOption.any fun nodes =>
      (extract mixedFinding tree).toOption.any fun proposal? => proposal?.any fun proposal =>
        (nodes.all fun u => !u.isA .name || !(u.fieldD .id).same (.text [])) &&
          proposal.constants == [("POWER_USER".toList, Text.ofString "power user")]) = true := by decide +kernel
  obtain ⟨tree, read, run⟩ := Tree.any_toOption.1 run
  obtain ⟨nodes, walk, run⟩ := Tree.any_toOption.1 run
  obtain ⟨proposal?, proposed, run⟩ := Tree.any_toOption.1 run
  simp only [Option.any_eq_true, Bool.and_eq_true, List.all_eq_true, beq_iff_eq] at run
  obtain ⟨proposal, rfl, checks, constants_eq⟩ := run
  refine ⟨tree, proposal, read, ?_, proposed, constants_eq⟩
  rintro a u hu isName _ id rfl
  have checked := checks u ((Tree.mem_of_walk walk).2 ⟨a, hu⟩)
  rw [isName, Tree.fieldD_eq id, Tree.same_text.2 rfl] at checked
  cases checked

theorem extract_keeps_arguments_mixed :
    ∃ tree proposal, tree.WellFormed ∧ tree.Everywhere Named ∧ extract mixedFinding tree = .ok (some proposal) ∧
      proposal.constants = [("POWER_USER".toList, Text.ofString "power user")] ∧
      ∃ call scope changed text, findCall tree mixedFinding.location = .ok (some call) ∧
        callScope tree call.node = .ok (some scope) ∧
        extractCall scope call.node = .ok (some (changed, proposal.constants)) ∧
        changed.print = .ok text ∧ text.toChars? = proposal.replacement ∧
        KeepsArguments tree proposal.constants call.node changed ∧ (proposal.constants.map (·.1)).Nodup := by
  obtain ⟨tree, proposal, read, named, proposed, constants_eq⟩ := mixedModule_extract
  have wf := Source.readTree_wellFormed read
  exact ⟨tree, proposal, wf, named, proposed, constants_eq, extract_keeps_arguments wf named proposed⟩

end CallLint.Fix

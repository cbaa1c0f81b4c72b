import CallLint.Proofs.Fix.Arguments
import CallLint.Proofs.Fix.Blocks
import CallLint.Proofs.Source.Layout
import CallLint.Proofs.Text.NormalForm

/-!
# What a reused name stands for

The bindings of a module are kept without regard to blocks: a name has a text only if nothing but assignments of the module bind it,
in whatever block. So no block around a call has a reused name for its own, with two exceptions that the bindings do not see: patterns
that capture the name, and private names that a class changes into it. The reused name itself may be private and be changed where the
call stands (`extract_reused_reaches_module`).
-/

namespace CallLint.Source

theorem IsName.ne_nil {n : Text} (h : IsName n) : n ≠ [] := by
  obtain ⟨w, spelling, rfl⟩ := h
  simpa [Text.ofChars] using Text.normalForm_ne_nil spelling.notEmpty

theorem readTree_named {source : List Char} {tree : Tree} (h : readTree .module source = .ok tree) : tree.Everywhere Tree.Named := by
  refine (readTree_names h).mono fun u spelled isName n id => ?_
  obtain ⟨m, found, isName⟩ := spelled isName
  cases id.symm.trans found
  exact isName.ne_nil

theorem IsName.dotless {n : Text} (h : IsName n) : CodePoint.scalar '.' ∉ n := by
  obtain ⟨w, spelling, rfl⟩ := h
  intro mem
  obtain ⟨c, hc, eq⟩ := List.mem_map.1 mem
  cases eq
  exact absurd (spelling.chars _ (Text.dot_mem_of_normalForm hc)) (by decide)

end CallLint.Source

namespace CallLint.Fix

open CallLint.Tree (Named Everywhere Occurrence)
open Source

/-- An argument of a call with what stands in its place in a changed call. -/
inductive InPlace (call changed e e' : Tree) : Prop where
  | positional {as bs : List Tree} (args : call.field? .args = some (.list as))
      (changedArgs : changed.field? .args = some (.list bs)) (mem : (e, e') ∈ as.zip bs)
  | keyword {ks ls : List Tree} {k l : Tree} (keywords : call.field? .keywords = some (.list ks))
      (changedKeywords : changed.field? .keywords = some (.list ls)) (mem : (k, l) ∈ ks.zip ls)
      (value : k.field? .value = some e) (changedValue : l.field? .value = some e')

/-- A changed call reads a name in place of a text, and the name is no new constant. -/
def Reuses (call changed : Tree) (constants : Constants) (v n : Text) : Prop :=
  (∃ e e', InPlace call changed e e' ∧ e.HoldsText v ∧ e'.Reads n) ∧ ∀ c ∈ constants, Text.ofChars c.1 ≠ n

theorem KeepsArguments.inPlace {tree call changed : Tree} {constants : Constants} (h : KeepsArguments tree constants call changed)
    {e e' : Tree} (place : InPlace call changed e e') : KeepsArgument tree call constants e e' := by
  cases place with
  | positional args changedArgs mem =>
    obtain ⟨as, bs, args', changedArgs', keeps⟩ := h.positional
    cases args.symm.trans args'
    cases changedArgs.symm.trans changedArgs'
    exact (List.forall₂_iff_zip.1 keeps).2 mem
  | keyword keywords changedKeywords mem value changedValue =>
    obtain ⟨ks, ls, keywords', changedKeywords', keeps⟩ := h.keyword
    cases keywords.symm.trans keywords'
    cases changedKeywords.symm.trans changedKeywords'
    obtain ⟨-, -, e, e', he, he', keeps⟩ := (List.forall₂_iff_zip.1 keeps).2 mem
    cases value.symm.trans he
    cases changedValue.symm.trans he'
    exact keeps

/-- A reused name is one that the module binds to the text and assigns above the call. -/
theorem Reuses.reusedName {tree call changed : Tree} {constants : Constants} {v n : Text} (h : Reuses call changed constants v n)
    (keeps : KeepsArguments tree constants call changed) : ReusedName tree call constants n v := by
  obtain ⟨⟨e, e', place, holds, reads⟩, notNew⟩ := h
  cases keeps.inPlace place with
  | unchanged notText => exact absurd holds (notText v)
  | @renamed _ w m literal reads' stands =>
    obtain rfl : m = n := by simpa using reads'.id.symm.trans reads.id
    obtain rfl : w = v := by simpa using literal.value.symm.trans holds.value
    rcases stands with new | reused
    · obtain ⟨name, rfl, mem⟩ := new.constant
      exact absurd rfl (notNew _ mem)
    · exact reused

/-- A name that a module assigns is in normal form. -/
theorem AssignsAbove.isName {tree call : Tree} {n : Text} (h : AssignsAbove tree call n) (isModule : tree.isA .module = true)
    (names : tree.Everywhere fun u => u.isA .name = true → ∃ id, u.field? .id = some (.text id) ∧ IsName id) : IsName n := by
  obtain ⟨body, statement, target, others, body_eq, mem, isAssign, targets_eq, isName, id_eq, -⟩ := h
  have inStatement := names.child (Tree.child_of_list isModule (by decide) body_eq mem (Tree.isNode_of_isA isAssign))
  have inTarget := inStatement.child (Tree.child_of_list isAssign (by decide) targets_eq List.mem_cons_self
    (Tree.isNode_of_isA isName))
  obtain ⟨id, found, spelled⟩ := inTarget.root isName
  cases id_eq.symm.trans found
  exact spelled

/-- No block has a name with a text for its own, but by a pattern that captures it or by another name that a class changes into it. -/
theorem boundIn_iff {tree : Tree} {bindings : Bindings} {n v : Text} (isModule : tree.isA .module = true)
    (bindings_eq : moduleBindings tree = .ok bindings) (value : bindings.valueOf? (.text n) = some (some v)) (spelled : IsName n)
    (b : List Nat) : (tree.BoundIn b n fun _ _ => True) ↔ tree.BoundIn b n fun u m => u.Captures m ∨ m ≠ n := by
  refine ⟨?_, fun ⟨⟨u, m, binds, own, _⟩, undeclared⟩ => ⟨⟨u, m, binds, own, trivial⟩, undeclared⟩⟩
  rintro ⟨⟨u, m, binds, own, -⟩, undeclared⟩
  refine ⟨⟨u, m, binds, own, ?_⟩, undeclared⟩
  by_cases other : m = n
  · subst other
    obtain ⟨p, d, at_p, at_u, inBlock, binder, -⟩ := binds
    have whole : tree.at? (b ++ d) = some u := by rw [Tree.at?_append, at_p]; exact at_u
    rcases introduces_or_captures spelled.ne_nil spelled.dotless binder with introduces | captures
    · rcases moduleBindings_introduces bindings_eq whole introduces with unknown | ⟨-, target⟩
      · cases unknown.symm.trans value
      · obtain ⟨i, statement, address, child, isAssign, first⟩ := target.target
        rw [Tree.not_belongs_target isModule child isAssign first target.isName address at_p] at inBlock
        cases inBlock
    · exact .inl captures
  · exact .inr other

/-- A name that is reused where a call stands reaches the variable of the module, unless a block around the call captures it in a
pattern or binds another name that its class changes into it, or the name is private and the call stands in a class. -/
theorem extract_reused_reaches_module {source : List Char} {tree : Tree} {finding : Finding} {proposal : Proposal}
    (read : readTree .module source = .ok tree) (proposed : extract finding tree = .ok (some proposal)) :
    ∃ call scope changed, findCall tree finding.location = .ok (some call) ∧ callScope tree call.node = .ok (some scope) ∧
      extractCall scope call.node = .ok (some (changed, proposal.constants)) ∧ tree.at? call.place = some call.node ∧
      ∀ v n, Reuses call.node changed proposal.constants v n →
        (tree.ReachesModule call.place n ↔
          ¬ (tree.BoundAround call.place n fun u m => u.Captures m ∨ m ≠ n) ∧ tree.Unmangled call.place n) := by
  obtain ⟨call, scope, changed, derives⟩ := extract_eq_some proposed
  obtain ⟨at_call, isCall⟩ := findCall_eq_some derives.call_eq
  have wf := readTree_wellFormed read
  have names := readTree_names read
  have keeps := extractCall_keepsArguments wf derives.isModule derives.scope_eq (wf.descend at_call) isCall (readTree_named read)
    derives.changed_eq
  refine ⟨call, scope, changed, derives.call_eq, derives.scope_eq, derives.changed_eq, at_call, fun v n reuses => ?_⟩
  have reused := reuses.reusedName keeps
  obtain ⟨bindings, bindings_eq, value⟩ := reused.bound
  have same := boundIn_iff derives.isModule bindings_eq value (reused.assigned.isName derives.isModule names)
  have around : (tree.BoundAround call.place n fun _ _ => True) ↔
      tree.BoundAround call.place n fun u m => u.Captures m ∨ m ≠ n := by
    simp only [Tree.BoundAround, same]
  rw [← around]
  exact ⟨fun h => ⟨h.free, h.unmangled⟩, fun h => ⟨h.1, h.2⟩⟩

/-! ### Names at hand -/

/-- Whether a call passes a text by position and a changed call reads a name in its place. -/
def readsInPlace (call changed : Tree) (v n : Text) : Bool :=
  (call.fieldD .args).items?.any fun as => (changed.fieldD .args).items?.any fun bs => (as.zip bs).any fun p =>
    p.1.isA .constant && (p.1.fieldD .value).same (.text v) && p.2.isA .name && (p.2.fieldD .ctx).isA .load &&
      (p.2.fieldD .id).same (.text n)

theorem reuses_of_readsInPlace {call changed : Tree} {v n : Text} (h : readsInPlace call changed v n = true) :
    Reuses call changed [] v n := by
  simp only [readsInPlace, Option.any_eq_true, List.any_eq_true, Bool.and_eq_true, Tree.same_text] at h
  obtain ⟨as, old, bs, new, p, mem, ⟨⟨⟨isConstant, value⟩, isName⟩, load⟩, id⟩ := h
  have list : ∀ {t : Tree} {ts : List Tree}, t.items? = some ts → t = .list ts := by
    intro t ts h
    cases t with
    | list us => rw [Option.some.inj h]
    | _ => cases h
  have args := Tree.field?_of_fieldD (list old) nofun
  have changedArgs := Tree.field?_of_fieldD (list new) nofun
  have context : p.2.field? .ctx = some (p.2.fieldD .ctx) := by
    refine Tree.field?_of_fieldD rfl fun null => ?_
    rw [null] at load
    cases load
  exact ⟨⟨p.1, p.2, .positional args changedArgs mem, ⟨isConstant, Tree.field?_of_fieldD value nofun⟩, isName,
    ⟨_, context, load⟩, Tree.field?_of_fieldD id nofun⟩, nofun⟩

/-- Whether the fix for a finding needs no constant and reads a name in place of a text, in a module and at an address of a kind. -/
def reusesIn (source : List Char) (finding : Finding) (v n : Text) (kind : Tree → List Nat → Bool) : Bool :=
  (readTree .module source).toOption.any fun tree => (extract finding tree).toOption.any fun proposal? =>
    proposal?.any fun proposal => (findCall tree finding.location).toOption.any fun call? => call?.any fun call =>
      (callScope tree call.node).toOption.any fun scope? => scope?.any fun scope =>
        (extractCall scope call.node).toOption.any fun changed? => changed?.any fun changed =>
          proposal.constants.isEmpty && readsInPlace call.node changed.1 v n && kind tree call.place

theorem exists_of_reusesIn {source : List Char} {finding : Finding} {v n : Text} {kind : Tree → List Nat → Bool}
    (h : reusesIn source finding v n kind = true) :
    ∃ tree proposal call scope changed, readTree .module source = .ok tree ∧ extract finding tree = .ok (some proposal) ∧
      findCall tree finding.location = .ok (some call) ∧ callScope tree call.node = .ok (some scope) ∧
      extractCall scope call.node = .ok (some (changed, proposal.constants)) ∧
      Reuses call.node changed proposal.constants v n ∧ kind tree call.place = true := by
  obtain ⟨tree, read, h⟩ := Tree.any_toOption.1 h
  obtain ⟨proposal?, proposed, h⟩ := Tree.any_toOption.1 h
  obtain ⟨proposal, rfl, h⟩ := (Option.any_eq_true _ _).1 h
  obtain ⟨call, scope, changed, derives⟩ := extract_eq_some proposed
  simp only [derives.call_eq, derives.scope_eq, derives.changed_eq, Except.toOption, Option.any_some, Bool.and_eq_true,
    List.isEmpty_iff] at h
  obtain ⟨⟨none, reads⟩, kind⟩ := h
  refine ⟨tree, proposal, call, scope, changed, read, proposed, derives.call_eq, derives.scope_eq, derives.changed_eq, ?_, kind⟩
  rw [none]
  exact reuses_of_readsInPlace reads

/-- A module that reads a constant in a comprehension of a function. -/
def nestedModule : List Char := "X = '!'\ndef f(y):\n    return [a.b('!') for z in y]\n".toList

def nestedFinding : Finding := Rule.literalStrings.finding (.ofInts 3 13 3 16)

theorem extract_reused_reaches_module_nested :
    ∃ tree proposal call scope changed, readTree .module nestedModule = .ok tree ∧
      extract nestedFinding tree = .ok (some proposal) ∧ findCall tree nestedFinding.location = .ok (some call) ∧
      callScope tree call.node = .ok (some scope) ∧ extractCall scope call.node = .ok (some (changed, proposal.constants)) ∧
      Reuses call.node changed proposal.constants (Text.ofString "!") (Text.ofString "X") ∧
      (Tree.opened (tree.way call.place)).length = 2 ∧ tree.ReachesModule call.place (Text.ofString "X") := by
  have run : reusesIn nestedModule nestedFinding (Text.ofString "!") (Text.ofString "X") (fun tree a =>
      (Tree.opened (tree.way a)).length == 2 && tree.walk.toOption.any fun nodes =>
        nodes.all fun u => !(u.isA .classDef || u.isA .matchAs || u.isA .matchStar || u.isA .matchMapping)) = true := by
    decide +kernel
  obtain ⟨tree, proposal, call, scope, changed, read, proposed, call_eq, scope_eq, changed_eq, reuses, checked⟩ :=
    exists_of_reusesIn run
  simp only [Bool.and_eq_true, beq_iff_eq] at checked
  obtain ⟨nodes, walk, plain⟩ := Tree.any_toOption.1 checked.2
  have plain : tree.Everywhere fun u => u.isA .classDef = false ∧ ∀ m, ¬ u.Captures m := by
    intro a u at_u
    have checked := List.all_eq_true.1 plain u ((Tree.mem_of_walk walk).2 ⟨a, at_u⟩)
    simp only [Bool.not_eq_true', Bool.or_eq_false_iff] at checked
    refine ⟨checked.1.1.1, fun m captures => ?_⟩
    cases captures <;> simp_all
  refine ⟨tree, proposal, call, scope, changed, read, proposed, call_eq, scope_eq, changed_eq, reuses, checked.1, ?_⟩
  obtain ⟨call', scope', changed', call_eq', scope_eq', changed_eq', -, reaches⟩ := extract_reused_reaches_module read proposed
  cases call_eq.symm.trans call_eq'
  cases scope_eq.symm.trans scope_eq'
  cases changed_eq.symm.trans changed_eq'
  refine (reaches _ _ reuses).2 ⟨?_, fun _ => by decide⟩
  rintro ⟨b, c, -, -, ⟨u, m, ⟨p, d, at_p, at_u, -, -, spelled⟩, -, captures | other⟩, -⟩
  · exact (plain (b ++ d) u (by rw [Tree.at?_append, at_p]; exact at_u)).2 m captures
  · rw [Tree.mangle_of_no_class (plain.mono fun _ => And.left)] at spelled
    exact other spelled

/-- A module that reads a private constant in a class. -/
def privateModule : List Char := "__X = '!'\nclass C:\n    def f(self):\n        a.b('!')\n".toList

def privateFinding : Finding := Rule.literalStrings.finding (.ofInts 4 9 4 12)

/-- The fix for the call in it reads the constant by a name that the class changes. -/
theorem extract_reused_not_reaches_module :
    ∃ tree proposal call scope changed, readTree .module privateModule = .ok tree ∧
      extract privateFinding tree = .ok (some proposal) ∧ findCall tree privateFinding.location = .ok (some call) ∧
      callScope tree call.node = .ok (some scope) ∧ extractCall scope call.node = .ok (some (changed, proposal.constants)) ∧
      Reuses call.node changed proposal.constants (Text.ofString "!") (Text.ofString "__X") ∧
      ¬ tree.ReachesModule call.place (Text.ofString "__X") ∧
      Text.mangle (Tree.classOf? (tree.way call.place)) (Text.ofString "__X") = Text.ofString "_C__X" := by
  have run : reusesIn privateModule privateFinding (Text.ofString "!") (Text.ofString "__X") (fun tree a =>
      (tree.way a).any Tree.Step.intoClass &&
        Text.mangle (Tree.classOf? (tree.way a)) (Text.ofString "__X") == Text.ofString "_C__X") = true := by
    decide +kernel
  obtain ⟨tree, proposal, call, scope, changed, read, proposed, call_eq, scope_eq, changed_eq, reuses, checked⟩ :=
    exists_of_reusesIn run
  simp only [Bool.and_eq_true, beq_iff_eq] at checked
  refine ⟨tree, proposal, call, scope, changed, read, proposed, call_eq, scope_eq, changed_eq, reuses, fun reaches => ?_, checked.2⟩
  exact absurd (reaches.unmangled checked.1) (by decide)

end CallLint.Fix

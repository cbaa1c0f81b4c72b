import CallLint.Fix.Extract
import CallLint.Proofs.Analysis.LiteralArguments
import CallLint.Proofs.Fix.Bindings
import Mathlib.Data.List.Forall2

/-!
# What a proposed fix is made of

A proposal comes from a call, a scope and a changed call (`extract_eq_some`). Going through the arguments, the constants
only grow and stay fresh: their names are different, derived from their texts, and not in use in the module. Each argument
either stays or becomes a name that stands for its text (`extractArgs_eq_some`, `extractKeywords_eq_some`).
-/

/-- A node that reads a name. -/
structure CallLint.Tree.Reads (t : Tree) (n : Text) : Prop where
  isName : t.isA .name = true
  context : ∃ c, t.field? .ctx = some c ∧ c.isA .load = true
  id : t.field? .id = some (.text n)

namespace CallLint.Fix

open CallLint.Tree (Fault Field Occurrence HoldsText bind_eq_ok field_eq_ok)

/-! ### The steps of a proposal -/

/-- The call, the scope and the changed call that a proposal comes from. -/
structure Derives (finding : Finding) (tree : Tree) (proposal : Proposal) (call : Occurrence) (scope : Scope)
    (changed : Tree) : Prop where
  isModule : tree.isA .module = true
  call_eq : findCall tree finding.location = .ok (some call)
  scope_eq : callScope tree call.node = .ok (some scope)
  changed_eq : extractCall scope call.node = .ok (some (changed, proposal.constants))
  source_eq : readableSource changed = .ok proposal.replacement
  proposed : proposal.replacement ≠ none

theorem extract_eq_some {finding : Finding} {tree : Tree} {proposal : Proposal}
    (h : extract finding tree = .ok (some proposal)) :
    ∃ call scope changed, Derives finding tree proposal call scope changed := by
  unfold extract at h
  split at h
  · cases h
  next notModule =>
  obtain ⟨call?, call_eq, h⟩ := bind_eq_ok.1 h
  cases call? with
  | none => cases h
  | some call =>
    obtain ⟨scope?, scope_eq, h⟩ := bind_eq_ok.1 h
    cases scope? with
    | none => cases h
    | some scope =>
      obtain ⟨extracted?, changed_eq, h⟩ := bind_eq_ok.1 h
      cases extracted? with
      | none => cases h
      | some extracted =>
        obtain ⟨source?, source_eq, h⟩ := bind_eq_ok.1 h
        cases source? with
        | none => cases h
        | some source =>
          cases h
          exact ⟨call, scope, extracted.1, by simpa using notModule, call_eq, scope_eq, changed_eq, source_eq, nofun⟩

/-- The source of a changed call is what is printed for it. -/
theorem readableSource_eq_some {changed : Tree} {source : Option (List Char)}
    (h : readableSource changed = .ok source) (proposed : source ≠ none) :
    ∃ text, changed.print = .ok text ∧ text.toChars? = source := by
  obtain ⟨text, print_eq, h⟩ := bind_eq_ok.1 h
  refine ⟨text, print_eq, ?_⟩
  split at h
  · cases h
  · next chars text_eq =>
    split at h
    · cases h
      exact text_eq
    · cases h
      exact absurd rfl proposed
    · cases h

/-- What a scope holds. -/
theorem callScope_eq_some {tree call : Tree} {scope : Scope} (h : callScope tree call = .ok (some scope)) :
    moduleBindings tree = .ok scope.bindings ∧
      (∃ loaded, loadedNames tree = .ok loaded ∧ scope.reserved = scope.bindings.map (·.1) ++ loaded) ∧
      ∃ body statements, tree.field? .body = some body ∧ body.iterate = .ok statements ∧
        definedBefore call statements = .ok scope.defined := by
  obtain ⟨bindings, bindings_eq, h⟩ := bind_eq_ok.1 h
  split at h
  · cases h
  obtain ⟨loaded, loaded_eq, h⟩ := bind_eq_ok.1 h
  obtain ⟨body, body_eq, h⟩ := bind_eq_ok.1 h
  obtain ⟨statements, statements_eq, h⟩ := bind_eq_ok.1 h
  obtain ⟨defined, defined_eq, h⟩ := bind_eq_ok.1 h
  cases h
  exact ⟨bindings_eq, ⟨loaded, loaded_eq, rfl⟩, body, statements, field_eq_ok.1 body_eq, statements_eq, defined_eq⟩

/-! ### Fresh constants -/

/-- Constants with different names that are derived from their texts and not in use in the scope. -/
structure Fresh (scope : Scope) (constants : Constants) : Prop where
  distinct : (constants.map (·.1)).Nodup
  derived : ∀ c ∈ constants, constantName c.2 = some c.1
  unused : ∀ c ∈ constants, scope.reserved.any (·.same (.text (Text.ofChars c.1))) = false

/-- The name of a fresh constant is not in use. -/
theorem Fresh.not_reserved {scope : Scope} {constants : Constants} (fresh : Fresh scope constants)
    {c : List Char × Text} (mem : c ∈ constants) : .text (Text.ofChars c.1) ∉ scope.reserved := by
  intro used
  have same : scope.reserved.any (·.same (.text (Text.ofChars c.1))) = true :=
    List.any_eq_true.2 ⟨_, used, Tree.same_text.2 rfl⟩
  rw [fresh.unused c mem] at same
  cases same

theorem fresh_nil (scope : Scope) : Fresh scope [] := ⟨List.nodup_nil, by simp, by simp⟩

/-- Whether a name is what stands for a text: that of a constant, or one that can be reused. -/
inductive StandsFor (scope : Scope) (constants : Constants) (id : Tree) (value : Text) : Prop where
  | constant {name : List Char} (id_eq : id = .text (Text.ofChars name)) (mem : (name, value) ∈ constants)
  | reused (name_eq : reusableName scope.bindings scope.defined value = some id)

theorem StandsFor.mono {scope : Scope} {constants constants' : Constants} {id : Tree} {value : Text}
    (h : StandsFor scope constants id value) (le : constants <+: constants') : StandsFor scope constants' id value := by
  cases h with
  | constant id_eq mem => exact .constant id_eq (le.subset mem)
  | reused name_eq => exact .reused name_eq

section Resolution

variable {scope : Scope} {constants constants' : Constants} {value : Text} {id : Tree}

/-- A new name is added for a text, or has been added for the same text before. -/
theorem newConstant_eq_rename (h : newConstant scope constants value = .rename id constants')
    (fresh : Fresh scope constants) :
    Fresh scope constants' ∧ constants <+: constants' ∧ StandsFor scope constants' id value := by
  unfold newConstant at h
  cases hn : constantName value with
  | none =>
    rw [hn] at h
    cases h
  | some name =>
    rw [hn] at h
    simp only at h
    split at h
    · cases h
    next notReserved =>
    cases hl : constants.lookup name with
    | some v =>
      rw [hl] at h
      simp only at h
      split at h
      · next same =>
        cases h
        obtain ⟨before, after, eq, -⟩ := List.lookup_eq_some_iff.1 hl
        refine ⟨fresh, List.prefix_rfl, .constant rfl ?_⟩
        rw [eq, eq_of_beq same]
        simp
      · cases h
    | none =>
      rw [hl] at h
      cases h
      have new : ∀ c ∈ constants, c.1 ≠ name := by
        intro c hc same
        have differ := List.lookup_eq_none_iff.1 hl c hc
        simp [same] at differ
      refine ⟨⟨?_, ?_, ?_⟩, List.prefix_append _ _, .constant rfl (by simp)⟩
      · rw [List.map_append, List.nodup_append]
        refine ⟨fresh.distinct, by simp, ?_⟩
        intro n hn m hm
        obtain ⟨c, hc, rfl⟩ := List.mem_map.1 hn
        rw [List.mem_singleton.1 hm]
        exact new c hc
      · intro c hc
        rcases List.mem_append.1 hc with hc | hc
        · exact fresh.derived c hc
        · rw [List.mem_singleton.1 hc]
          exact hn
      · intro c hc
        rcases List.mem_append.1 hc with hc | hc
        · exact fresh.unused c hc
        · rw [List.mem_singleton.1 hc]
          simpa using notReserved

/-- What becomes of a text: a name that can be reused decides, unless there is none. -/
theorem resolveText_cases (scope : Scope) (constants : Constants) (value : Text) :
    resolveText scope constants value = newConstant scope constants value ∨
      resolveText scope constants value = .decline ∨
      ∃ name, reusableName scope.bindings scope.defined value = some name ∧
        resolveText scope constants value = if name.truthy then .rename name constants else .keep := by
  unfold resolveText
  split
  · exact Or.inl rfl
  · exact Or.inl rfl
  · exact Or.inr (Or.inl rfl)
  · next name _ _ eq => exact Or.inr (Or.inr ⟨name, eq, rfl⟩)

theorem newConstant_ne_keep (scope : Scope) (constants : Constants) (value : Text) :
    newConstant scope constants value ≠ .keep := by
  unfold newConstant
  cases constantName value with
  | none => simp
  | some name =>
    simp only
    split
    · simp
    · cases constants.lookup name with
      | none => simp
      | some v =>
        simp only
        split <;> simp

theorem resolveText_eq_rename (h : resolveText scope constants value = .rename id constants')
    (fresh : Fresh scope constants) :
    Fresh scope constants' ∧ constants <+: constants' ∧ StandsFor scope constants' id value := by
  rcases resolveText_cases scope constants value with eq | eq | ⟨name, hn, eq⟩
  · exact newConstant_eq_rename (eq.symm.trans h) fresh
  · cases eq.symm.trans h
  · rw [eq] at h
    split at h
    · cases h
      exact ⟨fresh, List.prefix_rfl, .reused hn⟩
    · cases h

theorem resolveText_eq_keep (h : resolveText scope constants value = .keep) :
    ∃ name, reusableName scope.bindings scope.defined value = some name ∧ name.truthy = false := by
  rcases resolveText_cases scope constants value with eq | eq | ⟨name, hn, eq⟩
  · exact absurd (eq.symm.trans h) (newConstant_ne_keep _ _ _)
  · cases eq.symm.trans h
  · rw [eq] at h
    split at h
    · cases h
    · next falsy => exact ⟨name, hn, by simpa using falsy⟩

/-- An argument is gone through as a text or stays. -/
theorem resolve_eq_ok {e : Tree} {r : Resolution} (h : resolve scope constants e = .ok r) :
    (∃ v, e.HoldsText v ∧ r = resolveText scope constants v) ∨ (∀ v, ¬ e.HoldsText v) ∧ r = .keep := by
  obtain ⟨literal, hl, h⟩ := bind_eq_ok.1 h
  have texts := Tree.isStringLiteral_eq_ok hl
  cases literal with
  | false =>
    cases h
    exact Or.inr ⟨fun v hv => by simpa using texts.2 ⟨v, hv⟩, rfl⟩
  | true =>
    obtain ⟨v, hv⟩ := texts.1 rfl
    simp only [Bool.not_true, Bool.false_eq_true, ↓reduceIte, field_eq_ok.2 hv.value, Tree.ok_bind, Tree.text?] at h
    cases h
    exact Or.inl ⟨v, hv, rfl⟩

end Resolution

/-! ### Going through the arguments -/

/-- What stands in place of an argument: itself, or a name for its text. A text stays only if the name that could be reused
for it counts as false. -/
inductive Replaces (scope : Scope) (constants : Constants) (e : Tree) : Tree → Prop where
  | kept (unnamed : ∀ v, e.HoldsText v →
      ∃ name, reusableName scope.bindings scope.defined v = some name ∧ name.truthy = false) :
      Replaces scope constants e e
  | named {v : Text} {id : Tree} (literal : e.HoldsText v) (standsFor : StandsFor scope constants id v) :
      Replaces scope constants e (nameInPlace id e)

/-- What stands in place of a keyword argument: the same with what stands in place of its value. -/
structure ReplacesValue (scope : Scope) (constants : Constants) (k k' : Tree) : Prop where
  value : ∃ e e', k.field? .value = some e ∧ Replaces scope constants e e' ∧
    (k' = k ∧ e' = e ∨ k' = setField k .value e')

theorem nameInPlace_reads (n : Text) (e : Tree) : (nameInPlace (.text n) e).Reads n :=
  ⟨rfl, ⟨_, rfl, rfl⟩, rfl⟩

section Arguments

variable {scope : Scope} {constants constants' : Constants}

theorem Replaces.mono {e e' : Tree} (h : Replaces scope constants e e') (le : constants <+: constants') :
    Replaces scope constants' e e' := by
  cases h with
  | kept unnamed => exact .kept unnamed
  | named literal standsFor => exact .named literal (standsFor.mono le)

theorem resolve_eq_keep {e : Tree} (h : resolve scope constants e = .ok .keep) : Replaces scope constants e e := by
  refine .kept fun v hv => ?_
  rcases resolve_eq_ok h with ⟨w, hw, eq⟩ | ⟨none, -⟩
  · have same : w = v := by
      have := hw.value.symm.trans hv.value
      simpa using this
    exact resolveText_eq_keep (same ▸ eq.symm)
  · exact absurd hv (none v)

theorem resolve_eq_rename {e id : Tree} (h : resolve scope constants e = .ok (.rename id constants'))
    (fresh : Fresh scope constants) :
    Fresh scope constants' ∧ constants <+: constants' ∧ Replaces scope constants' e (nameInPlace id e) := by
  rcases resolve_eq_ok h with ⟨v, hv, eq⟩ | ⟨-, eq⟩
  · obtain ⟨fresh', le, standsFor⟩ := resolveText_eq_rename eq.symm fresh
    exact ⟨fresh', le, .named hv standsFor⟩
  · cases eq

/-- Going through positional arguments. The induction is on the arguments that are left; the constants grow on the way, so
that what stands for a text at one argument does so at the end. -/
theorem extractArgs_eq_some {as : List Tree} {r r' : Extraction} (h : extractArgs scope r as = .ok (some r'))
    (fresh : Fresh scope r.constants) :
    Fresh scope r'.constants ∧ r.constants <+: r'.constants ∧
      ∃ bs, r'.arguments = r.arguments ++ bs ∧ List.Forall₂ (Replaces scope r'.constants) as bs := by
  induction as generalizing r with
  | nil =>
    cases h
    exact ⟨fresh, List.prefix_rfl, [], by simp, .nil⟩
  | cons a as ih =>
    rw [extractArgs] at h
    obtain ⟨resolution, hr, h⟩ := bind_eq_ok.1 h
    cases resolution with
    | decline => cases h
    | keep =>
      obtain ⟨fresh', le, bs, eq, each⟩ := ih h fresh
      exact ⟨fresh', le, a :: bs, by simp [eq], .cons ((resolve_eq_keep hr).mono le) each⟩
    | rename id constants =>
      obtain ⟨fresh₁, le₁, replaces⟩ := resolve_eq_rename hr fresh
      obtain ⟨fresh', le, bs, eq, each⟩ := ih h fresh₁
      exact ⟨fresh', le₁.trans le, nameInPlace id a :: bs, by simp [eq], .cons (replaces.mono le) each⟩

/-- Going through keyword arguments, in the same way. -/
theorem extractKeywords_eq_some {ks : List Tree} {r r' : Extraction}
    (h : extractKeywords scope r ks = .ok (some r')) (fresh : Fresh scope r.constants) :
    Fresh scope r'.constants ∧ r.constants <+: r'.constants ∧
      ∃ ls, r'.arguments = r.arguments ++ ls ∧ List.Forall₂ (ReplacesValue scope r'.constants) ks ls := by
  induction ks generalizing r with
  | nil =>
    cases h
    exact ⟨fresh, List.prefix_rfl, [], by simp, .nil⟩
  | cons k ks ih =>
    rw [extractKeywords] at h
    obtain ⟨e, he, h⟩ := bind_eq_ok.1 h
    rw [field_eq_ok] at he
    obtain ⟨resolution, hr, h⟩ := bind_eq_ok.1 h
    cases resolution with
    | decline => cases h
    | keep =>
      obtain ⟨fresh', le, ls, eq, each⟩ := ih h fresh
      have head : ReplacesValue scope r'.constants k k := ⟨e, e, he, (resolve_eq_keep hr).mono le, Or.inl ⟨rfl, rfl⟩⟩
      exact ⟨fresh', le, k :: ls, by simp [eq], .cons head each⟩
    | rename id constants =>
      obtain ⟨fresh₁, le₁, replaces⟩ := resolve_eq_rename hr fresh
      obtain ⟨fresh', le, ls, eq, each⟩ := ih h fresh₁
      have head : ReplacesValue scope r'.constants k (setField k .value (nameInPlace id e)) :=
        ⟨e, _, he, replaces.mono le, Or.inr rfl⟩
      exact ⟨fresh', le₁.trans le, _ :: ls, by simp [eq], .cons head each⟩

end Arguments

/-- A changed call: its arguments are what stands in place of those of the call. -/
theorem extractCall_eq_some {scope : Scope} {call changed : Tree} {constants : Constants}
    (h : extractCall scope call = .ok (some (changed, constants))) :
    Fresh scope constants ∧ ∃ args keywords as bs ks ls, call.field? .args = some args ∧ args.iterate = .ok as ∧
      call.field? .keywords = some keywords ∧ keywords.iterate = .ok ks ∧
      List.Forall₂ (Replaces scope constants) as bs ∧ List.Forall₂ (ReplacesValue scope constants) ks ls ∧
      changed = setField (setField call .args (inPlaceOf args bs)) .keywords (inPlaceOf keywords ls) := by
  obtain ⟨args, args_eq, h⟩ := bind_eq_ok.1 h
  obtain ⟨as, as_eq, h⟩ := bind_eq_ok.1 h
  obtain ⟨first?, first_eq, h⟩ := bind_eq_ok.1 h
  cases first? with
  | none => cases h
  | some first =>
    obtain ⟨fresh₁, -, bs, bs_eq, positional⟩ := extractArgs_eq_some first_eq (fresh_nil scope)
    obtain ⟨keywords, keywords_eq, h⟩ := bind_eq_ok.1 h
    obtain ⟨ks, ks_eq, h⟩ := bind_eq_ok.1 h
    obtain ⟨second?, second_eq, h⟩ := bind_eq_ok.1 h
    cases second? with
    | none => cases h
    | some second =>
      obtain ⟨fresh₂, le, ls, ls_eq, keyword⟩ := extractKeywords_eq_some second_eq fresh₁
      simp only at h
      split at h
      · cases h
      · cases h
        refine ⟨fresh₂, args, keywords, as, bs, ks, ls, field_eq_ok.1 args_eq, as_eq, field_eq_ok.1 keywords_eq, ks_eq,
          positional.imp fun _ _ replaces => replaces.mono le, keyword, ?_⟩
        rw [bs_eq, ls_eq]
        rfl

end CallLint.Fix

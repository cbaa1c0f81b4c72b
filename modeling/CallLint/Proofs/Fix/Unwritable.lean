import CallLint.Proofs.Fix.Total
import CallLint.Proofs.Printer.Print
import Mathlib.Data.List.Nodup

/-!
# Fixes that cannot be written

A changed call is well formed, since each field that changes gets a value of its kind (`setField_wellFormed`). So on a
well-formed module the one thing that can go wrong with a fix is that its source cannot be written (`extract_eq_error`),
and then there is a format string, a number of too many digits, or a character that no source has
(`readableSource_eq_error`).
-/

namespace CallLint.Tree

theorem NodeClass.signature_unique {c : NodeClass} {f : Field} {k l : Kind} (hk : (f, k) ∈ c.signature)
    (hl : (f, l) ∈ c.signature) : k = l := by
  have nodup : (c.signature.map (·.1)).Nodup := by rw [c.signature_fields]; exact c.fields_nodup
  exact congrArg Prod.snd (List.inj_on_of_nodup_map nodup hk hl rfl)

/-- A list of values of a kind, one for each element of another list. -/
theorem Kind.fits_of_forall₂ {α : Type} {R : α → Tree → Prop} {c : Category} {as : List α} {ts : List Tree}
    (h : List.Forall₂ R as ts) (each : ∀ a ∈ as, ∀ t, R a t → (Kind.one c).Fits t) : (Kind.many c).Fits (.list ts) := by
  induction h with
  | nil => exact fits_nil
  | @cons a t as ts ha _ ih =>
    exact (each a List.mem_cons_self t ha).cons (ih fun b hb => each b (List.mem_cons_of_mem a hb))

end CallLint.Tree

namespace CallLint.Fix

open CallLint.Tree (Fault Field Occurrence NodeClass WellFormed Conforms Category Kind HasExtent Extent bind_eq_ok field_eq_ok
  ok_bind isA_iff)
open CallLint.Printer (Writes print_writes)

/-! ### The changed call -/

/-- A node stays well formed if a field that is stored changes to another value of its kind. -/
theorem setField_wellFormed {t v : Tree} {c : NodeClass} {f : Field} {k : Kind} (wf : t.WellFormed) (isA : t.isA c = true)
    (stored : c.defaults f = false) (hf : (f, k) ∈ c.signature) (fits : k.Fits v) : (setField t f v).WellFormed := by
  have same : (setField t f v).cls? = some c := (cls?_setField t f v).trans (isA_iff.1 isA)
  obtain ⟨w, hw, -⟩ := wf.root.field isA hf
  have changed : (setField t f v).field? f = some v := field?_setField_self isA stored hw
  refine Tree.everywhere_of_children ⟨Tree.isNode_of_isA (isA_iff.2 same), ?_, ?_⟩ ?_
  · intro d g l hd hg
    cases Tree.isA_unique (isA_iff.2 same) hd
    by_cases this : g = f
    · subst this
      exact ⟨v, changed, NodeClass.signature_unique hf hg ▸ fits.1⟩
    · rw [field?_setField_of_ne this]
      exact wf.root.field isA hg
  · intro d hd positioned
    cases Tree.isA_unique (isA_iff.2 same) hd
    obtain ⟨s, has⟩ := wf.root.position isA positioned
    have field := Tree.mem_fields hf
    obtain ⟨line, column, endLine, endColumn⟩ := c.position_not_field
    have other : ∀ {g}, g ∉ c.fields → (setField t f v).field? g = t.field? g :=
      fun no => field?_setField_of_ne fun same => no (same ▸ field)
    exact ⟨s, (other line).trans has.line, (other column).trans has.column, (other endLine).trans has.endLine,
      (other endColumn).trans has.endColumn⟩
  · intro u hu
    obtain ⟨d, g, hd, hg, hu⟩ := Tree.mem_children.1 hu
    cases Option.some.inj (same.symm.trans hd)
    by_cases this : g = f
    · rw [this, Tree.fieldD_eq changed] at hu
      exact fits.2 u hu
    · refine wf.child (Tree.mem_children.2 ⟨c, g, isA_iff.1 isA, hg, ?_⟩)
      rwa [Tree.fieldD, field?_setField_of_ne this] at hu

theorem lookup_filter_fst (p : Field → Bool) {f : Field} (hf : p f = true) (fs : List (Field × Tree)) :
    (fs.filter fun e => p e.1).lookup f = fs.lookup f := by
  induction fs with
  | nil => rfl
  | cons e fs ih =>
    obtain ⟨g, v⟩ := e
    by_cases same : f = g
    · subst same
      simp [hf]
    · have ne : (f == g) = false := beq_false_of_ne same
      rw [List.filter_cons]
      split
      · simpa [List.lookup_cons, ne] using ih
      · simpa [List.lookup_cons, ne] using ih

/-- The name in place of a literal stands where the literal stood. -/
theorem nameInPlace_hasExtent {e : Tree} {s : Extent} (has : e.HasExtent s) (id : Tree) :
    (nameInPlace id e).HasExtent s := by
  cases e with
  | node c fs =>
    have position : ∀ {f n}, isPosition f = true → (Tree.node c fs).field? f = some (.int n) →
        (nameInPlace id (.node c fs)).field? f = some (.int n) := by
      intro f n hf stored
      have found : fs.lookup f = some (.int n) := by
        cases hl : fs.lookup f with
        | some v => simpa [Tree.field?, hl] using stored
        | none =>
          simp only [Tree.field?, hl, Option.orElse_none] at stored
          split at stored <;> cases stored
      have notId : (f == .id) = false := by cases f <;> first | rfl | cases hf
      have notCtx : (f == .ctx) = false := by cases f <;> first | rfl | cases hf
      simp [nameInPlace, Tree.field?, List.lookup_cons, notId, notCtx, lookup_filter_fst isPosition hf, found]
    exact ⟨position rfl has.line, position rfl has.column, position rfl has.endLine, position rfl has.endColumn⟩
  | _ => cases has.line

theorem nameInPlace_fits {e : Tree} {s : Extent} (has : e.HasExtent s) (n : Text) :
    (Kind.one .expr).Fits (nameInPlace (.text n) e) := by
  have load : (Kind.one .context).Fits (.node .load []) :=
    Kind.fits_one ⟨.load, rfl, rfl⟩ (Tree.wellFormed_node (c := .load) .nil nofun)
  refine Kind.fits_one ⟨.name, rfl, rfl⟩ ?_
  refine Tree.wellFormed_node (c := .name) (.field (Kind.fits_of_no_nodes ⟨n, rfl⟩ rfl) (.field load .nil)) fun _ => ?_
  exact ⟨s, nameInPlace_hasExtent has (.text n)⟩

section Changed

variable {tree call : Tree} {scope : Scope} (wf : tree.WellFormed) (isModule : tree.isA .module = true)
  (scope_eq : callScope tree call = .ok (some scope)) (callWf : call.WellFormed) (isCall : call.isA .call = true)

include wf isModule scope_eq callWf isCall

/-- What stands in place of an expression is an expression. -/
theorem Replaces.fits {constants : Constants} (fresh : Fresh scope constants) {e e' : Tree}
    (h : Replaces scope constants e e') (expr : e.HasCategory .expr) (exprWf : e.WellFormed) :
    (Kind.one .expr).Fits e' := by
  cases h with
  | kept => exact Kind.fits_one expr exprWf
  | named literal standsFor =>
    obtain ⟨n, rfl, -⟩ := standsFor_holds wf isModule scope_eq callWf isCall fresh standsFor
    obtain ⟨s, has⟩ := exprWf.root.position literal.isConstant rfl
    exact nameInPlace_fits has n

/-- What stands in place of a keyword argument is one. -/
theorem ReplacesValue.fits {constants : Constants} (fresh : Fresh scope constants) {k k' : Tree}
    (h : ReplacesValue scope constants k k') (keyword : k.HasCategory .keyword) (keywordWf : k.WellFormed) :
    (Kind.one .keyword).Fits k' := by
  have isKeyword := Tree.isA_keyword keyword
  obtain ⟨v, value_eq, expr, child⟩ := keywordWf.root.one isKeyword (f := .value) (g := .expr) (by decide)
  obtain ⟨e, e', he, replaces, ⟨rfl, -⟩ | rfl⟩ := h
  · exact Kind.fits_one keyword keywordWf
  · obtain rfl : v = e := Option.some.inj (value_eq.symm.trans he)
    have fits := replaces.fits wf isModule scope_eq callWf isCall fresh expr (keywordWf.child child)
    refine Kind.fits_one ⟨.keyword, (cls?_setField _ _ _).trans (isA_iff.1 isKeyword), rfl⟩ ?_
    exact setField_wellFormed keywordWf isKeyword rfl (by decide) fits

/-- A changed call is a well-formed call. -/
theorem extractCall_wellFormed {changed : Tree} {constants : Constants}
    (h : extractCall scope call = .ok (some (changed, constants))) :
    changed.WellFormed ∧ changed.isA .call = true := by
  obtain ⟨fresh, as, bs, ks, ls, -, -, eachArg, eachKeyword, positional, keyword, rfl⟩ :=
    extractCall_lists h callWf isCall
  have argsFit : (Kind.many .expr).Fits (.list bs) :=
    Kind.fits_of_forall₂ positional fun a ha b replaces => replaces.fits wf isModule scope_eq callWf isCall fresh
      (eachArg a ha).1 (callWf.child (eachArg a ha).2)
  have keywordsFit : (Kind.many .keyword).Fits (.list ls) :=
    Kind.fits_of_forall₂ keyword fun k hk l replaces => replaces.fits wf isModule scope_eq callWf isCall fresh
      (eachKeyword k hk).1 (callWf.child (eachKeyword k hk).2)
  have isCall' : (setField call .args (.list bs)).isA .call = true := by
    rw [isA_iff, cls?_setField]
    exact isA_iff.1 isCall
  refine ⟨?_, by rw [isA_iff, cls?_setField]; exact isA_iff.1 isCall'⟩
  exact setField_wellFormed (setField_wellFormed callWf isCall rfl (by decide) argsFit) isCall' rfl (by decide) keywordsFit

end Changed

/-! ### The source of a fix -/

/-- A text that is no source: it holds a surrogate or a null character. -/
def NoSource (text : Text) : Prop := ∀ source, text.toChars? = some source → '\x00' ∈ source

/-- A call that cannot be written: it is not printed, or not as a source. -/
def CannotWrite (call : Tree) : Prop :=
  call.print = .error .unwritable ∨ ∃ text, call.print = .ok text ∧ NoSource text

theorem readTree_eq_nul {mode : Source.Mode} {source : List Char} :
    Source.readTree mode source = .error .nul ↔ '\x00' ∈ source := by
  unfold Source.readTree Source.Program.read
  split
  · next null =>
    have present : '\x00' ∈ source := by simpa using null
    exact ⟨fun _ => present, fun _ => rfl⟩
  · next noNull =>
    have absent : '\x00' ∉ source := by simpa using noNull
    refine ⟨fun h => ?_, fun h => absurd h absent⟩
    split at h
    · cases h
    · split at h <;> cases h

theorem written_of_call {call : Tree} (isCall : call.isA .call = true) : call.Written :=
  ⟨.expr, ⟨.call, isA_iff.1 isCall, rfl⟩, rfl⟩

/-- A well-formed call has a source, which can be read again or not, unless it cannot be written. -/
theorem readableSource_eq_error {call : Tree} {e : Fault} (wf : call.WellFormed) (isCall : call.isA .call = true) :
    readableSource call = .error e ↔ e = .unwritable ∧ CannotWrite call := by
  unfold readableSource CannotWrite NoSource
  rcases print_writes wf (written_of_call isCall) with ⟨text, print_eq, -⟩ | ⟨print_eq, -⟩
  · simp only [print_eq, ok_bind, reduceCtorEq, false_or, Except.ok.injEq, exists_eq_left']
    cases text.toChars? with
    | none => simp [eq_comm]
    | some source =>
      have nul : Source.readTree .expression source = .error .nul ↔ '\x00' ∈ source := readTree_eq_nul
      simp only [Option.some.injEq, forall_eq']
      cases read : Source.readTree .expression source with
      | ok tree =>
        rw [← nul, read]
        simp
      | error fault =>
        rw [← nul, read]
        cases fault <;> simp [eq_comm]
  · simp [print_eq, eq_comm]

/-- There is a fix for what stands at a location in a module, but the call that it puts there cannot be written. -/
structure Blocks (tree : Tree) (location : Location) (changed : Tree) : Prop where
  isModule : tree.isA .module = true
  derived : ∃ call scope constants, findCall tree location = .ok (some call) ∧ callScope tree call.node = .ok (some scope) ∧
    extractCall scope call.node = .ok (some (changed, constants))
  cannotWrite : CannotWrite changed

/-- Where all steps give something, the changed call is the one that decides. -/
theorem exists_blocks_iff {tree : Tree} {location : Location} {call : Occurrence} {scope : Scope} {changed : Tree}
    {constants : Constants} (isModule : tree.isA .module = true) (call_eq : findCall tree location = .ok (some call))
    (scope_eq : callScope tree call.node = .ok (some scope))
    (changed_eq : extractCall scope call.node = .ok (some (changed, constants))) :
    (∃ other, Blocks tree location other) ↔ CannotWrite changed := by
  constructor
  · rintro ⟨_, -, ⟨call', scope', constants', found, found_scope, extracted⟩, cannotWrite⟩
    cases call_eq.symm.trans found
    cases scope_eq.symm.trans found_scope
    cases changed_eq.symm.trans extracted
    exact cannotWrite
  · intro cannotWrite
    exact ⟨changed, isModule, ⟨call, scope, constants, call_eq, scope_eq, changed_eq⟩, cannotWrite⟩

/-- A fix that cannot be written holds something that hinders it, or it is printed as no source. -/
theorem Blocks.cause {tree changed : Tree} {location : Location} (h : Blocks tree location changed)
    (wf : tree.WellFormed) : changed.Hindered ∨ ∃ text, changed.print = .ok text ∧ NoSource text := by
  obtain ⟨call, scope, constants, call_eq, scope_eq, changed_eq⟩ := h.derived
  obtain ⟨at_call, isCall⟩ := findCall_eq_some call_eq
  obtain ⟨changedWf, changedCall⟩ :=
    extractCall_wellFormed wf h.isModule scope_eq (wf.descend at_call) isCall changed_eq
  rcases h.cannotWrite with print_eq | printed
  · rcases print_writes changedWf (written_of_call changedCall) with ⟨text, printed, -⟩ | ⟨-, hindered⟩
    · cases print_eq.symm.trans printed
    · exact Or.inl hindered
  · exact Or.inr printed

/-- On a well-formed tree a fix fails only because the changed call cannot be written. -/
theorem extract_eq_error {finding : Finding} {tree : Tree} {e : Fault} (wf : tree.WellFormed) :
    extract finding tree = .error e ↔ e = .unwritable ∧ ∃ changed, Blocks tree finding.location changed := by
  -- where a step declines there is no fix that could block
  have declined (eq : extract finding tree = .ok none) (no : ∀ changed, ¬ Blocks tree finding.location changed) :
      extract finding tree = .error e ↔ e = .unwritable ∧ ∃ changed, Blocks tree finding.location changed := by
    rw [eq]
    exact ⟨nofun, fun ⟨_, changed, blocks⟩ => absurd blocks (no changed)⟩
  by_cases isModule : tree.isA .module = true
  case neg =>
    refine declined ?_ fun _ blocks => isModule blocks.isModule
    simp [extract, isModule]
  obtain ⟨call?, call_eq⟩ := findCall_total wf finding.location
  cases call? with
  | none =>
    refine declined (by simp [extract, isModule, call_eq]) ?_
    rintro _ ⟨-, ⟨call, scope, constants, found, -⟩, -⟩
    cases call_eq.symm.trans found
  | some call =>
    obtain ⟨at_call, isCall⟩ := findCall_eq_some call_eq
    have callWf := wf.descend at_call
    obtain ⟨scope?, scope_eq⟩ := callScope_total wf isModule callWf isCall
    cases scope? with
    | none =>
      refine declined (by simp [extract, isModule, call_eq, scope_eq]) ?_
      rintro _ ⟨-, ⟨call', scope, constants, found, found_scope, -⟩, -⟩
      cases call_eq.symm.trans found
      cases scope_eq.symm.trans found_scope
    | some scope =>
      obtain ⟨changed?, changed_eq⟩ := extractCall_total scope callWf isCall
      cases changed? with
      | none =>
        refine declined (by simp [extract, isModule, call_eq, scope_eq, changed_eq]) ?_
        rintro _ ⟨-, ⟨call', scope', constants, found, found_scope, extracted⟩, -⟩
        cases call_eq.symm.trans found
        cases scope_eq.symm.trans found_scope
        cases changed_eq.symm.trans extracted
      | some extracted =>
        obtain ⟨changed, constants⟩ := extracted
        obtain ⟨changedWf, changedCall⟩ := extractCall_wellFormed wf isModule scope_eq callWf isCall changed_eq
        have source := readableSource_eq_error (e := e) changedWf changedCall
        rw [exists_blocks_iff isModule call_eq scope_eq changed_eq, ← source]
        simp only [extract, isModule, call_eq, scope_eq, changed_eq, ok_bind, Bool.not_true, Bool.false_eq_true,
          ↓reduceIte]
        cases readableSource changed with
        | error fault => simp
        | ok source? => cases source? <;> simp

end CallLint.Fix

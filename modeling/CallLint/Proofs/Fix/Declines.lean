import CallLint.Proofs.Fix.FreshNames
import CallLint.Proofs.Fix.ReusedNames
import CallLint.Proofs.Fix.SameCall

/-!
# Why a fix is declined

`Declines` lists the reasons for which a module gets no fix for a finding, in terms of the module alone: there is no call, it passes no
literal text, an import binds the star, a text gets no name or shares it with another text, or the changed call cannot be read. On a
well-formed module a fix is declined exactly for one of them (`extract_declines_iff`). Going through the arguments, the constants so far
are those of the texts so far, whatever their order; so the loop stops early exactly if one of the texts is hopeless
(`settleAll_eq_none`).
-/

namespace CallLint.Fix

open CallLint.Tree (Fault Field Occurrence Extent BreadthFirst CallsMemberAt HoldsText Named WellFormed Conforms Everywhere bind_eq_ok
  field_eq_ok isA_iff ok_bind)

/-! ### Texts gone through -/

/-- The constants after a text has been gone through; nothing if there is no fix. -/
def settle (scope : Scope) (constants : Constants) (value : Text) : Option Constants :=
  match resolveText scope constants value with
  | .decline => none
  | .keep => some constants
  | .rename _ new => some new

/-- The constants after some texts. -/
def settleAll (scope : Scope) (constants : Constants) (values : List Text) : Option Constants := values.foldlM (settle scope) constants

/-- A text that no constant above the call holds. -/
def Unheld (scope : Scope) (value : Text) : Prop := reusableName scope.bindings scope.defined value = none

/-- Whether a name is in use in the module. -/
def Reserved (scope : Scope) (name : List Char) : Prop := scope.reserved.any (·.same (.text (Text.ofChars name))) = true

/-- A text for which no constant can be introduced beside those for other texts: it has no name that is free, or it shares its name. -/
structure Hopeless (scope : Scope) (others : List Text) (value : Text) : Prop where
  unheld : Unheld scope value
  noName : (∀ name, constantName value = some name → Reserved scope name) ∨
    ∃ other ∈ others, Unheld scope other ∧ other ≠ value ∧ ∃ name, constantName value = some name ∧ constantName other = some name

/-- The constants of some texts: those of the texts that need one, under their names. -/
structure Collected (scope : Scope) (values : List Text) (constants : Constants) : Prop where
  complete : ∀ v ∈ values, Unheld scope v → ∃ name, constantName v = some name ∧ constants.lookup name = some v
  sound : ∀ name v, constants.lookup name = some v → v ∈ values ∧ Unheld scope v ∧ constantName v = some name

section Settling

variable {scope : Scope} {constants : Constants} {v w : Text} {name : List Char}

theorem settle_of_held {id : Tree} (held : reusableName scope.bindings scope.defined v = some id) (truthy : id.truthy = true) :
    settle scope constants v = some constants := by
  have renamed : resolveText scope constants v = .rename id constants := by
    unfold resolveText
    rw [held]
    cases id with
    | null => cases truthy
    | bool b =>
      cases b with
      | false => cases truthy
      | true => rfl
    | _ => simp [truthy]
  rw [settle, renamed]

theorem settle_of_unheld (unheld : Unheld scope v) :
    resolveText scope constants v = newConstant scope constants v := by
  rw [resolveText, unheld]

theorem settle_unnamed (unheld : Unheld scope v) (noName : ∀ name, constantName v = some name → Reserved scope name) :
    settle scope constants v = none := by
  rw [settle, settle_of_unheld unheld, newConstant]
  cases named : constantName v with
  | none => rfl
  | some name =>
    have reserved : scope.reserved.any (·.same (.text (Text.ofChars name))) = true := noName name named
    simp [reserved]

section Named

variable (unheld : Unheld scope v) (named : constantName v = some name) (free : ¬ Reserved scope name)

include unheld named free

theorem settle_known (known : constants.lookup name = some w) :
    settle scope constants v = if w = v then some constants else none := by
  have free : scope.reserved.any (·.same (.text (Text.ofChars name))) = false := by simpa [Reserved] using free
  rw [settle, settle_of_unheld unheld, newConstant, named]
  simp only [free, known, Bool.false_eq_true, ↓reduceIte, beq_iff_eq]
  by_cases same : w = v <;> simp [same]

theorem settle_new (unknown : constants.lookup name = none) : settle scope constants v = some (constants ++ [(name, v)]) := by
  have free : scope.reserved.any (·.same (.text (Text.ofChars name))) = false := by simpa [Reserved] using free
  rw [settle, settle_of_unheld unheld, newConstant, named]
  simp only [free, unknown, Bool.false_eq_true, ↓reduceIte]

end Named

theorem Hopeless.mono {us ws : List Text} (h : Hopeless scope us v) (sub : ∀ u ∈ us, u ∈ ws) : Hopeless scope ws v :=
  ⟨h.unheld, h.noName.imp id fun ⟨other, mem, rest⟩ => ⟨other, sub other mem, rest⟩⟩

theorem collected_nil (scope : Scope) : Collected scope [] [] := ⟨nofun, nofun⟩

variable {us vs : List Text} (truthy : ∀ {v id}, reusableName scope.bindings scope.defined v = some id → id.truthy = true)

theorem Collected.lookup_append (h : Collected scope us constants) (unknown : constants.lookup name = none) (unheld : Unheld scope v)
    (named : constantName v = some name) : Collected scope (us ++ [v]) (constants ++ [(name, v)]) where
  complete u mem unheld := by
    rcases List.mem_append.1 mem with mem | mem
    · obtain ⟨n, hn, found⟩ := h.complete u mem unheld
      exact ⟨n, hn, by simp [List.lookup_append, found]⟩
    · rw [List.mem_singleton.1 mem]
      exact ⟨name, named, by simp [List.lookup_append, unknown]⟩
  sound n u found := by
    rw [List.lookup_append, Option.or_eq_some_iff] at found
    rcases found with found | ⟨-, found⟩
    · exact (h.sound n u found).imp_left (List.mem_append_left _)
    · by_cases same : n = name
      · subst same
        obtain rfl : v = u := by simpa using found
        exact ⟨by simp, unheld, named⟩
      · have other : (n == name) = false := by simpa using same
        simp [List.lookup_cons, other] at found

include truthy

/-- One text: it is hopeless beside those before it, or the constants are collected for it too. -/
theorem Collected.settle_cases (h : Collected scope us constants) (v : Text) :
    settle scope constants v = none ∧ Hopeless scope us v ∨
      ∃ new, settle scope constants v = some new ∧ Collected scope (us ++ [v]) new ∧ ¬ Hopeless scope us v := by
  -- the constants may stay if the text is held, or if its own constant is there
  have kept : (Unheld scope v → ∃ name, constantName v = some name ∧ constants.lookup name = some v) →
      Collected scope (us ++ [v]) constants := fun there =>
    { complete := fun u mem => (List.mem_append.1 mem).elim (h.complete u) fun mem => List.mem_singleton.1 mem ▸ there
      sound := fun n u found => (h.sound n u found).imp_left (List.mem_append_left _) }
  cases held : reusableName scope.bindings scope.defined v with
  | some id =>
    have noUnheld : ¬ Unheld scope v := fun unheld => by cases held.symm.trans unheld
    exact .inr ⟨constants, settle_of_held held (truthy held), kept fun unheld => absurd unheld noUnheld,
      fun hopeless => noUnheld hopeless.unheld⟩
  | none =>
    have unheld : Unheld scope v := held
    by_cases unnamed : ∀ name, constantName v = some name → Reserved scope name
    · exact .inl ⟨settle_unnamed unheld unnamed, unheld, .inl unnamed⟩
    simp only [Classical.not_forall] at unnamed
    obtain ⟨name, named, free⟩ := unnamed
    have noOther (only : ∀ u, constants.lookup name = some u → u = v) : ¬ Hopeless scope us v := by
      rintro ⟨-, none | ⟨other, mem, unheldOther, differ, n, hn, hn'⟩⟩
      · exact free (none name named)
      · obtain ⟨m, hm, found⟩ := h.complete other mem unheldOther
        cases named.symm.trans hn
        cases hn'.symm.trans hm
        exact differ (only other found)
    cases known : constants.lookup name with
    | some w =>
      have settled := settle_known unheld named free known
      by_cases same : w = v
      · subst same
        exact .inr ⟨constants, by simpa using settled, kept fun _ => ⟨name, named, known⟩,
          noOther fun u found => (Option.some.inj (known.symm.trans found)).symm⟩
      · obtain ⟨mem, unheldOther, sameName⟩ := h.sound name w known
        exact .inl ⟨by simpa [same] using settled, unheld, .inr ⟨w, mem, unheldOther, same, name, named, sameName⟩⟩
    | none =>
      refine .inr ⟨_, settle_new unheld named free known, h.lookup_append known unheld named, noOther fun u found => ?_⟩
      cases known.symm.trans found

/-- Going through texts stops exactly if one of them is hopeless beside all others, in whatever order they come. The induction is on the
texts that are left. -/
theorem Collected.settleAll_eq_none (h : Collected scope us constants) :
    settleAll scope constants vs = none ↔ ∃ v ∈ vs, Hopeless scope (us ++ vs) v := by
  induction vs generalizing us constants with
  | nil => simp [settleAll]
  | cons v vs ih =>
    have unfolded : settleAll scope constants (v :: vs) = (settle scope constants v).bind fun new => settleAll scope new vs := by
      simp [settleAll, List.foldlM_cons]
    rcases h.settle_cases truthy v with ⟨none, hopeless⟩ | ⟨new, settled, collected, hopeful⟩
    · rw [unfolded, none]
      refine ⟨fun _ => ⟨v, List.mem_cons_self, hopeless.mono fun u hu => List.mem_append_left _ hu⟩, fun _ => rfl⟩
    · rw [unfolded, settled, Option.bind_some, ih collected, List.append_assoc, List.singleton_append]
      constructor
      · rintro ⟨w, mem, hopeless⟩
        exact ⟨w, List.mem_cons_of_mem v mem, hopeless⟩
      · rintro ⟨w, mem, hopeless⟩
        rcases List.mem_cons.1 mem with rfl | later
        · -- the text itself went through, so that it is a later one with which it shares its name
          rcases hopeless.noName with none | ⟨other, mem, unheldOther, differ, name, named, sameName⟩
          · exact absurd ⟨hopeless.unheld, .inl none⟩ hopeful
          · rcases List.mem_append.1 mem with before | behind
            · exact absurd ⟨hopeless.unheld, .inr ⟨other, before, unheldOther, differ, name, named, sameName⟩⟩ hopeful
            · have later := (List.mem_cons.1 behind).resolve_left differ
              exact ⟨other, later, unheldOther, .inr ⟨w, by simp, hopeless.unheld, differ.symm, name, sameName, named⟩⟩
        · exact ⟨w, later, hopeless⟩

end Settling

/-! ### The arguments of a call -/

/-- The text of a literal. -/
def literal? (t : Tree) : Option Text := if t.isA .constant then (t.field? .value).bind Tree.text? else none

/-- The literal texts that a call passes, in order. -/
def literals (call : Tree) : List Text :=
  ((call.fieldD .args).items?.getD []).filterMap literal? ++
    ((call.fieldD .keywords).items?.getD []).filterMap fun k => literal? (k.fieldD .value)

theorem literal?_eq_some {t : Tree} {v : Text} : literal? t = some v ↔ t.HoldsText v := by
  unfold literal?
  constructor
  · intro h
    split at h
    · next constant =>
      obtain ⟨w, value, text⟩ := Option.bind_eq_some_iff.1 h
      cases w with
      | text u =>
        cases text
        exact ⟨constant, value⟩
      | _ => cases text
    · cases h
  · rintro ⟨constant, value⟩
    simp [constant, value, Tree.text?]

section Loops

variable {scope : Scope} (truthy : ∀ {v id}, reusableName scope.bindings scope.defined v = some id → id.truthy = true)

include truthy

/-- How an argument is resolved: it stays if it has no text, and otherwise its text decides. -/
theorem resolve_cases (constants : Constants) {e : Tree} (h : e.Conforms) :
    literal? e = none ∧ resolve scope constants e = .ok .keep ∨
      ∃ v, literal? e = some v ∧ (resolve scope constants e = .ok .decline ∧ settle scope constants v = none ∨
        ∃ id new, resolve scope constants e = .ok (.rename id new) ∧ settle scope constants v = some new) := by
  obtain ⟨r, eq⟩ := resolve_total scope constants h
  rcases resolve_eq_ok eq with ⟨v, text, rfl⟩ | ⟨none, rfl⟩
  · refine .inr ⟨v, literal?_eq_some.2 text, ?_⟩
    rw [eq, settle]
    cases resolved : resolveText scope constants v with
    | decline => exact .inl ⟨rfl, rfl⟩
    | rename id new => exact .inr ⟨id, new, rfl, rfl⟩
    | keep =>
      obtain ⟨id, held, falsy⟩ := resolveText_eq_keep resolved
      cases (truthy held).symm.trans falsy
  · exact .inl ⟨Option.eq_none_iff_forall_ne_some.2 fun v hv => none v (literal?_eq_some.1 hv), eq⟩

/-- Going through positional arguments is going through their texts. -/
theorem extractArgs_settles {as : List Tree} (h : ∀ a ∈ as, a.Conforms) (r : Extraction) :
    extractArgs scope r as = .ok none ∧ settleAll scope r.constants (as.filterMap literal?) = none ∨
      ∃ r', extractArgs scope r as = .ok (some r') ∧ settleAll scope r.constants (as.filterMap literal?) = some r'.constants ∧
        r'.changed = r.changed + (as.filterMap literal?).length := by
  induction as generalizing r with
  | nil => exact .inr ⟨r, rfl, rfl, rfl⟩
  | cons a as ih =>
    have later := ih fun b hb => h b (List.mem_cons_of_mem a hb)
    rcases resolve_cases truthy r.constants (h a List.mem_cons_self) with
      ⟨none, eq⟩ | ⟨v, text, ⟨eq, settled⟩ | ⟨id, new, eq, settled⟩⟩
    · simp only [extractArgs, eq, ok_bind, List.filterMap_cons, none]
      exact later _
    · refine .inl ⟨by simp [extractArgs, eq], ?_⟩
      simp [settleAll, text, settled]
    · simp only [extractArgs, eq, ok_bind, List.filterMap_cons, text, settleAll, List.foldlM_cons, settled, Option.bind_eq_bind,
        Option.bind_some, List.length_cons]
      rcases later ⟨r.arguments ++ [nameInPlace id a], r.changed + 1, new⟩ with ⟨none, settled⟩ | ⟨r', some, settled, changed⟩
      · exact .inl ⟨none, settled⟩
      · simp only at changed
        exact .inr ⟨r', some, settled, by omega⟩

/-- Going through keyword arguments, in the same way. -/
theorem extractKeywords_settles {ks : List Tree} (h : ∀ k ∈ ks, ∃ e, k.field? .value = some e ∧ e.Conforms) (r : Extraction) :
    extractKeywords scope r ks = .ok none ∧ settleAll scope r.constants (ks.filterMap fun k => literal? (k.fieldD .value)) = none ∨
      ∃ r', extractKeywords scope r ks = .ok (some r') ∧
        settleAll scope r.constants (ks.filterMap fun k => literal? (k.fieldD .value)) = some r'.constants ∧
        r'.changed = r.changed + (ks.filterMap fun k => literal? (k.fieldD .value)).length := by
  induction ks generalizing r with
  | nil => exact .inr ⟨r, rfl, rfl, rfl⟩
  | cons k ks ih =>
    have later := ih fun l hl => h l (List.mem_cons_of_mem k hl)
    obtain ⟨e, value_eq, conforms⟩ := h k List.mem_cons_self
    rcases resolve_cases truthy r.constants conforms with ⟨none, eq⟩ | ⟨v, text, ⟨eq, settled⟩ | ⟨id, new, eq, settled⟩⟩
    · simp only [extractKeywords, field_eq_ok.2 value_eq, eq, ok_bind, List.filterMap_cons, Tree.fieldD_eq value_eq, none]
      exact later _
    · refine .inl ⟨by simp [extractKeywords, field_eq_ok.2 value_eq, eq], ?_⟩
      simp [settleAll, Tree.fieldD_eq value_eq, text, settled]
    · simp only [extractKeywords, field_eq_ok.2 value_eq, eq, ok_bind, List.filterMap_cons, Tree.fieldD_eq value_eq, text, settleAll,
        List.foldlM_cons, settled, Option.bind_eq_bind, Option.bind_some, List.length_cons]
      rcases later ⟨r.arguments ++ [setField k .value (nameInPlace id e)], r.changed + 1, new⟩ with
        ⟨none, settled⟩ | ⟨r', some, settled, changed⟩
      · exact .inl ⟨none, settled⟩
      · simp only at changed
        exact .inr ⟨r', some, settled, by omega⟩

/-- A call is not changed exactly if it passes no literal text, or one that is hopeless. -/
theorem extractCall_eq_none {call : Tree} (wf : call.WellFormed) (isCall : call.isA .call = true) :
    extractCall scope call = .ok none ↔ literals call = [] ∨ ∃ v ∈ literals call, Hopeless scope (literals call) v := by
  obtain ⟨as, ks, args_eq, keywords_eq, arguments, values⟩ := call_passes wf isCall
  have texts : literals call = as.filterMap literal? ++ ks.filterMap fun k => literal? (k.fieldD .value) := by
    simp only [literals, Tree.fieldD_eq args_eq, Tree.fieldD_eq keywords_eq, Tree.items?, Option.getD_some]
  have stops : settleAll scope [] (literals call) = none ↔ ∃ v ∈ literals call, Hopeless scope (literals call) v :=
    (collected_nil scope).settleAll_eq_none truthy
  rw [← stops, texts, settleAll, List.foldlM_append]
  simp only [extractCall, field_eq_ok.2 args_eq, field_eq_ok.2 keywords_eq, Tree.iterate, ok_bind]
  rcases extractArgs_settles truthy arguments ⟨[], 0, []⟩ with
    ⟨none, settled⟩ | ⟨first, eq, settled, changed⟩
  · have settled : (as.filterMap literal?).foldlM (settle scope) [] = Option.none := settled
    simp [none, settled]
  have settled : (as.filterMap literal?).foldlM (settle scope) [] = some first.constants := settled
  rcases extractKeywords_settles truthy values { first with arguments := [] } with
    ⟨none, settled'⟩ | ⟨second, eq', settled', changed'⟩
  · have settled' : (ks.filterMap fun k => literal? (k.fieldD .value)).foldlM (settle scope) first.constants = Option.none := settled'
    simp [eq, none, settled, settled']
  · have settled' : (ks.filterMap fun k => literal? (k.fieldD .value)).foldlM (settle scope) first.constants =
      some second.constants := settled'
    simp only at changed changed'
    have count : second.changed = (as.filterMap literal? ++ ks.filterMap fun k => literal? (k.fieldD .value)).length := by
      rw [List.length_append]
      omega
    have unchanged : (second.changed == 0) = true ↔ (as.filterMap literal? ++ ks.filterMap fun k => literal? (k.fieldD .value)) = [] := by
      rw [beq_iff_eq, count, List.length_eq_zero_iff]
    simp only [eq, eq', ok_bind, settled, settled', Option.bind_eq_bind, Option.bind_some, reduceCtorEq, or_false]
    rw [← unchanged]
    by_cases zero : (second.changed == 0) = true <;> simp [zero]

end Loops

theorem mem_literals {call : Tree} (wf : call.WellFormed) (isCall : call.isA .call = true) {v : Text} :
    v ∈ literals call ↔ ∃ e, call.Passes e ∧ e.HoldsText v := by
  obtain ⟨as, args_eq, -⟩ := wf.root.many isCall (f := .args) (g := .expr) (by decide)
  obtain ⟨ks, keywords_eq, -⟩ := wf.root.many isCall (f := .keywords) (g := .keyword) (by decide)
  simp only [literals, Tree.fieldD_eq args_eq, Tree.fieldD_eq keywords_eq, Tree.items?, Option.getD_some, List.mem_append,
    List.mem_filterMap, literal?_eq_some]
  constructor
  · rintro (⟨a, mem, text⟩ | ⟨k, mem, text⟩)
    · exact ⟨a, .positional args_eq mem, text⟩
    · have present : k.fieldD .value ≠ .null := fun null => by
        rw [null] at text
        cases text.isConstant
      exact ⟨_, .keyword keywords_eq mem (Tree.field?_of_fieldD rfl present), text⟩
  · rintro ⟨e, pass, text⟩
    cases pass with
    | positional args_eq' mem =>
      cases args_eq.symm.trans args_eq'
      exact .inl ⟨e, mem, text⟩
    | keyword keywords_eq' mem value =>
      cases keywords_eq.symm.trans keywords_eq'
      exact .inr ⟨_, mem, by rwa [Tree.fieldD_eq value]⟩

/-! ### The names of a module -/

/-- A text that a name holds which the module binds to it and assigns above a call. -/
def Reusable (tree call : Tree) (v : Text) : Prop :=
  ∃ n bindings, moduleBindings tree = .ok bindings ∧ bindings.valueOf? (.text n) = some (some v) ∧ AssignsAbove tree call n

/-- A name that the module binds or reads. -/
def InUse (tree : Tree) (name : List Char) : Prop :=
  (∃ bindings, moduleBindings tree = .ok bindings ∧ bindings.binds (.text (Text.ofChars name)) = true) ∨
    ∃ loaded, loadedNames tree = .ok loaded ∧ .text (Text.ofChars name) ∈ loaded

/-- The star that an import of all names binds. -/
def star : Text := Text.ofString "*"

/-- A node that has no star for a name, unless it imports. -/
structure Starless (t : Tree) : Prop where
  name : t.isA .alias = false → ∀ f ∈ [Field.id, .name, .arg], t.field? f ≠ some (.text star)
  names : ∀ names, t.field? .names = some (.list names) → .text star ∉ names

/-- All names that are assigned above a call are listed. -/
theorem definedBefore_complete {call statement id : Tree} {statements defined : List Tree}
    (h : definedBefore call statements = .ok defined) (mem : statement ∈ statements) (above : AssignedAbove call statement id) :
    id ∈ defined := by
  induction statements generalizing defined with
  | nil => cases mem
  | cons s statements ih =>
    rw [definedBefore] at h
    rcases List.mem_cons.1 mem with rfl | later
    · obtain ⟨isAssign, ⟨target, first, isName, id_eq⟩, last, line, last_eq, line_eq, less⟩ := above
      simp only [isAssign, first, isName, field_eq_ok.2 last_eq, field_eq_ok.2 line_eq, less, field_eq_ok.2 id_eq, ok_bind,
        Bool.not_true, Bool.false_eq_true, ↓reduceIte] at h
      split at h
      · cases h
      · obtain ⟨others, -, h⟩ := bind_eq_ok.1 h
        cases h
        exact List.mem_cons_self
    · have listed : ∀ {defined}, definedBefore call statements = .ok defined → id ∈ defined := fun h => ih h later
      split at h
      · exact listed h
      obtain ⟨target, -, h⟩ := bind_eq_ok.1 h
      split at h
      · exact listed h
      obtain ⟨last, -, h⟩ := bind_eq_ok.1 h
      obtain ⟨line, -, h⟩ := bind_eq_ok.1 h
      obtain ⟨less, -, h⟩ := bind_eq_ok.1 h
      split at h
      · obtain ⟨id', -, h⟩ := bind_eq_ok.1 h
        split at h
        · cases h
        · obtain ⟨others, rest, h⟩ := bind_eq_ok.1 h
          cases h
          exact List.mem_cons_of_mem _ (listed rest)
      · exact listed h

section Keys

variable {s : Text} {b b' : Bindings}

theorem foldlM_bind_key {names : List Tree} (h : names.foldlM (fun (b : Bindings) name => b.bind name none) b = .ok b')
    (key : b'.binds (.text s) = true) : b.binds (.text s) = true ∨ .text s ∈ names := by
  induction names generalizing b with
  | nil =>
    cases h
    exact .inl key
  | cons name names ih =>
    rw [List.foldlM_cons] at h
    obtain ⟨c, hc, rest⟩ := bind_eq_ok.1 h
    rcases ih rest with bound | later
    · rw [Bindings.bind_eq_record hc, Bindings.record_binds_text] at bound
      exact bound.imp id fun eq => List.mem_cons.2 (.inl eq.symm)
    · exact .inr (List.mem_cons_of_mem name later)

theorem bindConstants_key {statements : List (Tree × Nat)} {addresses : List (List Nat)}
    (h : bindConstants b statements = .ok (b', addresses)) (key : b'.binds (.text s) = true) :
    b.binds (.text s) = true ∨ ∃ statement i p, (statement, i) ∈ statements ∧ constantAssign? statement = .ok (some p) ∧ p.1 = .text s := by
  induction statements generalizing b addresses with
  | nil =>
    cases h
    exact .inl key
  | cons x statements ih =>
    obtain ⟨-, h⟩ | ⟨p, others, assign, -, h⟩ := bindConstants_cons h
    · obtain bound | ⟨statement, j, p, hs, found⟩ := ih h
      · exact .inl bound
      · exact .inr ⟨statement, j, p, List.mem_cons_of_mem _ hs, found⟩
    · obtain bound | ⟨statement, j, q, hs, found⟩ := ih h
      · exact (Bindings.record_binds_text.1 bound).imp id fun eq => ⟨x.1, x.2, p, List.mem_cons_self, assign, eq⟩
      · exact .inr ⟨statement, j, q, List.mem_cons_of_mem _ hs, found⟩

theorem bindOccurrences_key {recorded : List (List Nat)} {os : List Occurrence} (h : bindOccurrences recorded b os = .ok b')
    (key : b'.binds (.text s) = true) :
    b.binds (.text s) = true ∨ ∃ o ∈ os, ∃ names, occurrenceNames recorded o = .ok names ∧ .text s ∈ names := by
  induction os generalizing b with
  | nil =>
    cases h
    exact .inl key
  | cons o os ih =>
    rw [bindOccurrences] at h
    obtain ⟨names, names_eq, h⟩ := bind_eq_ok.1 h
    obtain ⟨c, hc, h⟩ := bind_eq_ok.1 h
    rcases ih h with bound | ⟨p, mem, rest⟩
    · exact (foldlM_bind_key hc bound).imp id fun mem => ⟨o, List.mem_cons_self, names, names_eq, mem⟩
    · exact .inr ⟨p, List.mem_cons_of_mem o mem, rest⟩

/-- Every key of the bindings is the name of a node, or one that a node binds. -/
theorem moduleBindings_key {tree : Tree} (h : moduleBindings tree = .ok b) (key : b.binds (.text s) = true) :
    ∃ a u, tree.at? a = some u ∧
      (u.isA .name = true ∧ u.field? .id = some (.text s) ∨ ∃ names, boundNames u = .ok names ∧ .text s ∈ names) := by
  obtain ⟨os, hos, h⟩ := bind_eq_ok.1 h
  obtain ⟨⟨c, recorded⟩, hc, h⟩ := bind_eq_ok.1 h
  rcases bindOccurrences_key h key with bound | ⟨o, mem, names, names_eq, listed⟩
  · rcases bindConstants_key hc bound with none | ⟨statement, i, p, hs, assign, eq⟩
    · cases none
    · obtain ⟨isAssign, target, -, targets, isName, id_eq, -⟩ := constantAssign?_eq_some assign
      have first := target_child isAssign targets isName
      have child : tree.children[i]? = some statement := List.mem_zipIdx_iff_getElem?.1 hs
      exact ⟨[i, 0], target, by simp [Tree.at?, child, first], .inl ⟨isName, eq ▸ id_eq⟩⟩
  · refine ⟨o.place, o.node, (Tree.mem_occurrences hos).1 mem, ?_⟩
    unfold occurrenceNames at names_eq
    split at names_eq
    · next isName =>
      obtain ⟨ctx, -, names_eq⟩ := bind_eq_ok.1 names_eq
      split at names_eq
      · cases names_eq
        cases listed
      · obtain ⟨id, id_eq, names_eq⟩ := bind_eq_ok.1 names_eq
        cases names_eq
        exact .inl ⟨isName, List.mem_singleton.1 listed ▸ field_eq_ok.1 id_eq⟩
    · exact .inr ⟨names, names_eq, listed⟩

/-- A node without a star for a name binds the star only by importing it. -/
theorem imports_star {u : Tree} (conforms : u.Conforms) (starless : Starless u) {names : List Tree} (h : boundNames u = .ok names)
    (mem : .text star ∈ names) : u.isA .alias = true ∧ importedName u = .ok (.text star) := by
  have single : ∀ {f}, f ∈ [Field.id, .name, .arg] → u.isA .alias = false → (u.field f >>= fun name => pure [name]) = .ok names → False := by
    intro f hf other h
    obtain ⟨name, name_eq, h⟩ := bind_eq_ok.1 h
    cases h
    exact starless.name other f hf (List.mem_singleton.1 mem ▸ field_eq_ok.1 name_eq)
  have other : ∀ {c}, u.cls? = some c → c ≠ .alias → u.isA .alias = false := fun isA ne =>
    Bool.eq_false_iff.2 fun isAlias => ne (Tree.isA_unique (isA_iff.2 isA) isAlias)
  have many : (∃ v, u.field? .names = some v ∧ Tree.Kind.identifiers.Holds v) → (u.field .names >>= Tree.iterate) = .ok names → False := by
    rintro ⟨_, names_eq, texts, rfl, -⟩ h
    rw [field_eq_ok.2 names_eq] at h
    cases h
    exact starless.names names names_eq mem
  unfold boundNames at h
  split at h
  · next isA => exact (single (by simp) (other isA (by decide)) h).elim
  · next isA => exact (single (by simp) (other isA (by decide)) h).elim
  · next isA => exact (single (by simp) (other isA (by decide)) h).elim
  · next isA => exact (single (by simp) (other isA (by decide)) h).elim
  · next isA =>
    obtain ⟨name, imported, h⟩ := bind_eq_ok.1 h
    cases h
    exact ⟨isA_iff.2 isA, List.mem_singleton.1 mem ▸ imported⟩
  · next isA => exact (many (conforms.field (isA_iff.2 isA) (by decide)) h).elim
  · next isA => exact (many (conforms.field (isA_iff.2 isA) (by decide)) h).elim
  · next isA =>
    obtain ⟨name, name_eq, h⟩ := bind_eq_ok.1 h
    cases h
    split at mem
    · exact absurd (List.mem_singleton.1 mem ▸ field_eq_ok.1 name_eq) (starless.name (other isA (by decide)) .name (by simp))
    · cases mem
  · cases h
    cases mem

/-- In a module whose names are no stars, only an import binds the star. -/
theorem binds_star_iff {tree : Tree} (wf : tree.WellFormed) (starless : tree.Everywhere Starless) (h : moduleBindings tree = .ok b) :
    b.binds (.text star) = true ↔ ∃ a u, tree.at? a = some u ∧ u.isA .alias = true ∧ importedName u = .ok (.text star) := by
  constructor
  · intro key
    obtain ⟨a, u, at_u, ⟨isName, id_eq⟩ | ⟨names, names_eq, mem⟩⟩ := moduleBindings_key h key
    · have other : u.isA .alias = false := Bool.eq_false_iff.2 fun isAlias => by cases Tree.isA_unique isName isAlias
      exact absurd id_eq ((starless.descend at_u).root.name other .id (by simp))
    · exact ⟨a, u, at_u, imports_star (wf.descend at_u).root (starless.descend at_u).root names_eq mem⟩
  · rintro ⟨a, u, at_u, isAlias, imported⟩
    refine moduleBindings_binds h at_u (introduces_of_boundNames isAlias (by decide) [.text star] ?_ (by simp))
    simp [boundNames, isA_iff.1 isAlias, imported]

end Keys

/-- There is a scope unless the star is bound. -/
theorem callScope_no_star {tree call : Tree} {scope : Scope} (h : callScope tree call = .ok (some scope)) :
    scope.bindings.binds (.text star) = false := by
  obtain ⟨bindings, -, h⟩ := bind_eq_ok.1 h
  split at h
  · cases h
  · next unbound =>
    obtain ⟨loaded, -, h⟩ := bind_eq_ok.1 h
    obtain ⟨body, -, h⟩ := bind_eq_ok.1 h
    obtain ⟨statements, -, h⟩ := bind_eq_ok.1 h
    obtain ⟨defined, -, h⟩ := bind_eq_ok.1 h
    cases h
    simpa [star] using unbound

theorem callScope_eq_none {tree call : Tree} (h : callScope tree call = .ok none) :
    ∃ bindings, moduleBindings tree = .ok bindings ∧ bindings.binds (.text star) = true := by
  obtain ⟨bindings, bindings_eq, h⟩ := bind_eq_ok.1 h
  split at h
  · next bound => exact ⟨bindings, bindings_eq, bound⟩
  · obtain ⟨loaded, -, h⟩ := bind_eq_ok.1 h
    obtain ⟨body, -, h⟩ := bind_eq_ok.1 h
    obtain ⟨statements, -, h⟩ := bind_eq_ok.1 h
    obtain ⟨defined, -, h⟩ := bind_eq_ok.1 h
    cases h

section Scope

variable {tree call : Tree} {scope : Scope} (wf : tree.WellFormed) (isModule : tree.isA .module = true)
  (scope_eq : callScope tree call = .ok (some scope)) (callWf : call.WellFormed) (isCall : call.isA .call = true)

include scope_eq in
theorem reserved_iff {name : List Char} : Reserved scope name ↔ InUse tree name := by
  obtain ⟨bindings_eq, ⟨loaded, loaded_eq, reserved_eq⟩, -⟩ := callScope_eq_some scope_eq
  have reserved : Reserved scope name ↔ .text (Text.ofChars name) ∈ scope.reserved := by
    simp only [Reserved, List.any_eq_true, Tree.same_text, exists_eq_right]
  rw [reserved, reserved_eq, List.mem_append, ← Bindings.binds_text, InUse, bindings_eq, loaded_eq]
  simp

include wf isModule scope_eq callWf isCall

/-- The texts that can be reused in the scope of a call. -/
theorem reusableName_iff {v : Text} : (∃ id, reusableName scope.bindings scope.defined v = some id) ↔ Reusable tree call v := by
  obtain ⟨bindings_eq, -, body, statements, body_eq, statements_eq, defined_eq⟩ := callScope_eq_some scope_eq
  constructor
  · rintro ⟨id, name_eq⟩
    obtain ⟨key, d, hd, same⟩ := reusableName_eq_some name_eq
    obtain ⟨n, rfl, assigned⟩ := assignsAbove_of_mem_defined wf isModule scope_eq callWf isCall hd
    obtain rfl := Tree.text_same.1 same
    exact ⟨n, _, bindings_eq, (moduleBindings_distinct bindings_eq).valueOf?_eq key, assigned⟩
  · rintro ⟨n, bindings, eq, value_eq, body', statement, target, others, body_eq', mem, isAssign, targets_eq, isName, id_eq, last, line,
      last_eq, line_eq, above⟩
    cases bindings_eq.symm.trans eq
    cases body_eq.symm.trans body_eq'
    cases statements_eq
    obtain ⟨e, found, text⟩ := Option.map_eq_some_iff.1 value_eq
    have same := List.find?_some found
    rw [Tree.same_text] at same
    have first : firstTarget statement = .ok target := by simp [firstTarget, field_eq_ok.2 targets_eq, Tree.iterate]
    have defined : .text n ∈ scope.defined := definedBefore_complete defined_eq mem
      ⟨isAssign, ⟨target, first, isName, id_eq⟩, _, _, last_eq, line_eq, Tree.less_int.2 above⟩
    have some_name : (scope.bindings.reverse.find? fun e => e.2 == some v && scope.defined.any (·.same e.1)).isSome = true := by
      rw [List.find?_isSome]
      refine ⟨e, List.mem_reverse.2 (List.mem_of_find?_eq_some found), ?_⟩
      simp only [text, same, beq_self_eq_true, Bool.true_and, List.any_eq_true]
      exact ⟨_, defined, Tree.same_text.2 rfl⟩
    obtain ⟨f, hf⟩ := Option.isSome_iff_exists.1 some_name
    exact ⟨f.1, by rw [reusableName, hf]; rfl⟩

theorem unheld_iff {v : Text} : Unheld scope v ↔ ¬ Reusable tree call v := by
  rw [← reusableName_iff wf isModule scope_eq callWf isCall, Unheld, Option.eq_none_iff_forall_ne_some, not_exists]

theorem reusableName_truthy (named : tree.Everywhere Named) {v : Text} {id : Tree}
    (h : reusableName scope.bindings scope.defined v = some id) : id.truthy = true := by
  obtain ⟨-, d, hd, same⟩ := reusableName_eq_some h
  obtain ⟨n, rfl, assigned⟩ := assignsAbove_of_mem_defined wf isModule scope_eq callWf isCall hd
  rw [Tree.text_same.1 same]
  exact Tree.truthy_text (assigned.ne_nil isModule named)

end Scope

/-! ### The reasons -/

/-- A changed call whose source cannot be read. -/
def Unreadable (changed : Tree) : Prop :=
  ∃ text source, changed.print = .ok text ∧ text.toChars? = some source ∧ Source.readTree .expression source = .error .malformed

theorem readableSource_eq_none {changed : Tree} : readableSource changed = .ok none ↔ Unreadable changed := by
  unfold readableSource Unreadable
  constructor
  · intro h
    obtain ⟨text, print_eq, h⟩ := bind_eq_ok.1 h
    split at h
    · cases h
    · next source chars =>
      split at h
      · cases h
      · next malformed => exact ⟨text, source, print_eq, chars, malformed⟩
      · cases h
  · rintro ⟨text, source, print_eq, chars, malformed⟩
    simp [print_eq, chars, malformed]

/-- Why there is no fix for what stands at a location in a module. -/
inductive Declines (tree : Tree) (location : Location) : Prop where
  /-- No call of a member stands there. -/
  | noCall (none : ∀ o : Occurrence, o.In tree → ¬ o.node.CalledAt location)
  /-- The call passes no literal text. -/
  | noLiteral {o : Occurrence} (first : FirstCall tree location o) (none : ∀ e v, o.node.Passes e → ¬ e.HoldsText v)
  /-- An import binds the star. -/
  | starImport {a : List Nat} {u : Tree} (at_u : tree.at? a = some u) (isAlias : u.isA .alias = true)
      (imported : importedName u = .ok (.text star))
  /-- A text that needs a new constant has no name, or one that is in use. -/
  | noName {o : Occurrence} {e : Tree} {v : Text} (first : FirstCall tree location o) (pass : o.node.Passes e) (text : e.HoldsText v)
      (new : ¬ Reusable tree o.node v) (noName : ∀ name, constantName v = some name → InUse tree name)
  /-- Two texts that need new constants have the same name. -/
  | sharedName {o : Occurrence} {e e' : Tree} {v v' : Text} {name : List Char} (first : FirstCall tree location o)
      (pass : o.node.Passes e) (text : e.HoldsText v) (new : ¬ Reusable tree o.node v) (named : constantName v = some name)
      (pass' : o.node.Passes e') (text' : e'.HoldsText v') (new' : ¬ Reusable tree o.node v') (named' : constantName v' = some name)
      (differ : v' ≠ v)
  /-- The source of the changed call cannot be read. -/
  | unreadable {o : Occurrence} {scope : Scope} {changed : Tree} {constants : Constants} (first : FirstCall tree location o)
      (scope_eq : callScope tree o.node = .ok (some scope))
      (changed_eq : extractCall scope o.node = .ok (some (changed, constants))) (unreadable : Unreadable changed)

section Reasons

variable {tree : Tree} {location : Location} {o : Occurrence} {scope : Scope} (wf : tree.WellFormed)
  (isModule : tree.isA .module = true) (first : FirstCall tree location o)
  (scope_eq : callScope tree o.node = .ok (some scope))

include wf isModule first scope_eq

/-- A text that is hopeless in the scope of the call is a reason. -/
theorem declines_of_hopeless {v : Text} (mem : v ∈ literals o.node) (hopeless : Hopeless scope (literals o.node) v) :
    Declines tree location := by
  obtain ⟨s, calls, -⟩ := first.called
  have callWf := wf.descend first.at_o
  have unheld : ∀ {v}, Unheld scope v → ¬ Reusable tree o.node v := (unheld_iff wf isModule scope_eq callWf calls.1).1
  obtain ⟨e, pass, text⟩ := (mem_literals callWf calls.1).1 mem
  rcases hopeless.noName with noName | ⟨other, memOther, unheldOther, differ, name, named, named'⟩
  · exact .noName first pass text (unheld hopeless.unheld) fun name named => (reserved_iff scope_eq).1 (noName name named)
  · obtain ⟨e', pass', text'⟩ := (mem_literals callWf calls.1).1 memOther
    exact .sharedName first pass text (unheld hopeless.unheld) named pass' text' (unheld unheldOther) named' differ

/-- The reasons that are left when there is a call in a scope. -/
theorem declines_iff (starless : tree.Everywhere Starless) :
    Declines tree location ↔ literals o.node = [] ∨ (∃ v ∈ literals o.node, Hopeless scope (literals o.node) v) ∨
      ∃ changed constants, extractCall scope o.node = .ok (some (changed, constants)) ∧ Unreadable changed := by
  obtain ⟨s, calls, -⟩ := first.called
  have callWf := wf.descend first.at_o
  have literal : ∀ {v}, v ∈ literals o.node ↔ ∃ e, o.node.Passes e ∧ e.HoldsText v := mem_literals callWf calls.1
  have unheld : ∀ {v}, Unheld scope v ↔ ¬ Reusable tree o.node v := unheld_iff wf isModule scope_eq callWf calls.1
  constructor
  · intro declines
    cases declines with
    | noCall none => exact absurd first.called (none o first.at_o)
    | noLiteral first' none =>
      cases first.unique first'
      refine .inl (List.eq_nil_iff_forall_not_mem.2 fun v mem => ?_)
      obtain ⟨e, pass, text⟩ := literal.1 mem
      exact none e v pass text
    | starImport at_u isAlias imported =>
      have bound := (binds_star_iff wf starless (callScope_eq_some scope_eq).1).2 ⟨_, _, at_u, isAlias, imported⟩
      cases (callScope_no_star scope_eq).symm.trans bound
    | @noName _ e v first' pass text new noName =>
      cases first.unique first'
      refine .inr (.inl ⟨v, literal.2 ⟨e, pass, text⟩, unheld.2 new, .inl fun name named => ?_⟩)
      exact (reserved_iff scope_eq).2 (noName name named)
    | @sharedName _ e e' v v' name first' pass text new named pass' text' new' named' differ =>
      cases first.unique first'
      refine .inr (.inl ⟨v, literal.2 ⟨e, pass, text⟩, unheld.2 new, .inr ?_⟩)
      exact ⟨v', literal.2 ⟨e', pass', text'⟩, unheld.2 new', differ, name, named, named'⟩
    | unreadable first' scope_eq' changed_eq unreadable =>
      cases first.unique first'
      cases scope_eq.symm.trans scope_eq'
      exact .inr (.inr ⟨_, _, changed_eq, unreadable⟩)
  · rintro (none | ⟨v, mem, hopeless⟩ | ⟨changed, constants, changed_eq, unreadable⟩)
    · refine .noLiteral first fun e v pass text => ?_
      have mem := literal.2 ⟨e, pass, text⟩
      rw [none] at mem
      cases mem
    · exact declines_of_hopeless wf isModule first scope_eq mem hopeless
    · exact .unreadable first scope_eq changed_eq unreadable

end Reasons

/-- On a well-formed module a fix is declined exactly for one of the reasons, and unless the changed call cannot be written, it is given
or declined. -/
theorem extract_declines_iff {finding : Finding} {tree : Tree} (wf : tree.WellFormed) (isModule : tree.isA .module = true)
    (named : tree.Everywhere Named) (starless : tree.Everywhere Starless) :
    (extract finding tree = .ok none ↔ Declines tree finding.location) ∧
      ((∀ changed, ¬ Blocks tree finding.location changed) → ∃ fix?, extract finding tree = .ok fix?) := by
  refine ⟨?_, fun noBlock => ?_⟩
  swap
  · cases eq : extract finding tree with
    | ok fix? => exact ⟨fix?, rfl⟩
    | error e =>
      obtain ⟨changed, blocks⟩ := ((extract_eq_error wf).1 eq).2
      exact absurd blocks (noBlock changed)
  have declined (eq : extract finding tree = .ok none) (reason : Declines tree finding.location) :
      extract finding tree = .ok none ↔ Declines tree finding.location := ⟨fun _ => reason, fun _ => eq⟩
  rcases findCall_first wf finding.location with ⟨call_eq, none⟩ | ⟨o, call_eq, first⟩
  · exact declined (by simp [extract, isModule, call_eq]) (.noCall none)
  obtain ⟨s, calls, -⟩ := first.called
  have callWf := wf.descend first.at_o
  obtain ⟨scope?, scope_eq⟩ := callScope_total wf isModule callWf calls.1
  cases scope? with
  | none =>
    obtain ⟨bindings, bindings_eq, bound⟩ := callScope_eq_none scope_eq
    obtain ⟨a, u, at_u, isAlias, imported⟩ := (binds_star_iff wf starless bindings_eq).1 bound
    exact declined (by simp [extract, isModule, call_eq, scope_eq]) (.starImport at_u isAlias imported)
  | some scope =>
    have unchanged := extractCall_eq_none (reusableName_truthy wf isModule scope_eq callWf calls.1 named) callWf calls.1
    rw [declines_iff wf isModule first scope_eq starless, ← or_assoc, ← unchanged]
    obtain ⟨changed?, changed_eq⟩ := extractCall_total scope callWf calls.1
    cases changed? with
    | none => simp [extract, isModule, call_eq, scope_eq, changed_eq]
    | some extracted =>
      obtain ⟨changed, constants⟩ := extracted
      simp only [extract, isModule, call_eq, scope_eq, changed_eq, ok_bind, Bool.not_true, Bool.false_eq_true, ↓reduceIte,
        Except.ok.injEq, reduceCtorEq, false_or, Option.some.injEq, Prod.mk.injEq]
      have unreadable : (∃ changed' constants', (changed = changed' ∧ constants = constants') ∧ Unreadable changed') ↔
          readableSource changed = .ok none := by
        rw [readableSource_eq_none]
        refine ⟨?_, fun reason => ⟨_, _, ⟨rfl, rfl⟩, reason⟩⟩
        rintro ⟨_, _, ⟨rfl, -⟩, reason⟩
        exact reason
      rw [unreadable]
      cases readableSource changed with
      | error e => simp
      | ok source? => cases source? <;> simp

/-- A node that has no star for a name, as a check. -/
def hasNoStar (t : Tree) : Bool :=
  (t.isA .alias || [Field.id, .name, .arg].all fun f => !(t.field? f).any ((Tree.text star).same ·)) &&
    !((t.field? .names).bind Tree.items?).any fun names => names.any ((Tree.text star).same ·)

theorem starless_of_hasNoStar {t : Tree} (h : hasNoStar t = true) : Starless t := by
  simp only [hasNoStar, Bool.and_eq_true, Bool.or_eq_true, List.all_eq_true, Bool.not_eq_true', Option.any_eq_false,
    List.any_eq_false] at h
  constructor
  · intro other f hf star
    have differs := h.1.resolve_left (by simp [other]) f hf _ star
    exact absurd (Tree.text_same.2 rfl) (Bool.eq_false_iff.1 differs)
  · intro names names_eq mem
    exact h.2 names (by simp [names_eq, Tree.items?]) _ mem (Tree.text_same.2 rfl)

/-- A module whose call passes two texts that have the same name in upper case. -/
def rivalTexts : List Char := "a.b('x', key='X')\n".toList

def rivalFinding : Finding := Rule.literalStrings.finding (.ofInts 1 1 1 4)

theorem extract_declines_iff_rivalTexts :
    ∃ tree, Source.readTree .module rivalTexts = .ok tree ∧ tree.Everywhere Starless ∧ extract rivalFinding tree = .ok none ∧
      Declines tree rivalFinding.location := by
  have run : ((Source.readTree .module rivalTexts).toOption.any fun tree =>
      (extract rivalFinding tree).toOption.any Option.isNone && tree.isA .module &&
        tree.walk.toOption.any fun nodes => nodes.all hasNoStar) = true := by decide +kernel
  obtain ⟨tree, read, checked⟩ := Tree.any_toOption.1 run
  simp only [Bool.and_eq_true] at checked
  obtain ⟨⟨declined, isModule⟩, walked⟩ := checked
  obtain ⟨fix?, declined, none⟩ := Tree.any_toOption.1 declined
  obtain ⟨nodes, walk, plain⟩ := Tree.any_toOption.1 walked
  rw [Option.isNone_iff_eq_none.1 none] at declined
  have stars : tree.Everywhere Starless := fun a u at_u =>
    starless_of_hasNoStar (List.all_eq_true.1 plain u ((Tree.mem_of_walk walk).2 ⟨a, at_u⟩))
  have named := Source.readTree_named read
  exact ⟨tree, read, stars, declined, (extract_declines_iff (Source.readTree_wellFormed read) isModule named stars).1.1 declined⟩

end CallLint.Fix

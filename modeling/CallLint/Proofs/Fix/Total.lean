import CallLint.Proofs.Fix.Arguments

/-!
# Steps towards a fix

On a well-formed module every step towards a proposal succeeds up to the writing of the changed call: looking for the call
(`findCall_total`), collecting the names of the module (`callScope_total`) and going through the arguments
(`extractCall_total`). None of them meets a field that is missing or of another kind.
-/

namespace CallLint.Fix

open CallLint.Tree (Fault Field Occurrence NodeClass WellFormed Conforms Category Kind bind_eq_ok map_eq_ok field_eq_ok ok_bind
  pure_eq_ok isA_iff)

/-! ### The call -/

/-- The callee of a well-formed call, if it is a member access, has a location. -/
theorem receiver?_total {t : Tree} (wf : t.WellFormed) (isCall : t.isA .call = true) :
    ∃ r, t.receiver? = .ok r ∧ ∀ receiver, r = some receiver → ∃ l, receiver.location = .ok (some l) := by
  obtain ⟨func, func_eq, -, child⟩ := wf.root.one isCall (f := .func) (g := .expr) (by decide)
  have conforms := (wf.child child).root
  obtain ⟨s, hs⟩ := conforms.measured.shape_eq_ok
  refine ⟨if s == .memberAccess then some func else none, by simp [Tree.receiver?, Tree.fieldD_eq func_eq, hs], ?_⟩
  intro receiver eq
  split at eq
  · next member =>
    cases eq
    obtain ⟨extent, has⟩ := conforms.position ((Tree.isA_of_shape hs).2 (eq_of_beq member)) rfl
    exact ⟨_, has.location_eq⟩
  · cases eq

theorem findCallIn_total (location : Location) {os : List Occurrence} (wf : ∀ o ∈ os, o.node.WellFormed) :
    ∃ r, findCallIn location os = .ok r := by
  induction os with
  | nil => exact ⟨none, rfl⟩
  | cons o os ih =>
    obtain ⟨later, hl⟩ := ih fun p hp => wf p (List.mem_cons_of_mem o hp)
    have here := wf o List.mem_cons_self
    obtain ⟨s, hs⟩ := here.root.measured.shape_eq_ok
    simp only [findCallIn, hs, ok_bind]
    split
    · exact ⟨later, hl⟩
    next notOther =>
    have isCall : o.node.isA .call = true := (Tree.isA_of_shape hs).1 (by simpa using notOther)
    obtain ⟨r, hr, located⟩ := receiver?_total here isCall
    simp only [hr, ok_bind]
    cases r with
    | none => exact ⟨later, hl⟩
    | some receiver =>
      obtain ⟨l, eq⟩ := located receiver rfl
      simp only [eq, ok_bind]
      split
      · exact ⟨some o, rfl⟩
      · exact ⟨later, hl⟩

theorem findCall_total {tree : Tree} (wf : tree.WellFormed) (location : Location) :
    ∃ r, findCall tree location = .ok r := by
  obtain ⟨os, hos, each⟩ := wf.occurrences_eq_ok wf.root.isNode
  simp only [findCall, hos, ok_bind]
  exact findCallIn_total location each

/-! ### The bindings -/

theorem foldlM_bind_total {names : List Tree} (texts : ∀ name ∈ names, ∃ n, name = .text n) (b : Bindings) :
    ∃ b', names.foldlM (fun (b : Bindings) name => b.bind name none) b = .ok b' := by
  induction names generalizing b with
  | nil => exact ⟨b, rfl⟩
  | cons name names ih =>
    obtain ⟨n, rfl⟩ := texts name List.mem_cons_self
    exact ih (fun m hm => texts m (List.mem_cons_of_mem _ hm)) (b.record (.text n) none)

theorem constantAssign?_total {statement : Tree} (wf : statement.WellFormed) :
    ∃ r, constantAssign? statement = .ok r ∧ ∀ p, r = some p → ∃ n, p.1 = .text n := by
  unfold constantAssign?
  split
  · exact ⟨none, rfl, nofun⟩
  next notOther =>
  have isAssign : statement.isA .assign = true := by simpa using notOther
  obtain ⟨target, others, targets_eq, each⟩ := wf.root.several isAssign (f := .targets) (g := .expr) (by decide)
  obtain ⟨value, value_eq, -, child⟩ := wf.root.one isAssign (f := .value) (g := .expr) (by decide)
  obtain ⟨literal, hl, -⟩ := Tree.isStringLiteral_eq (wf.child child).root.measured.value
  simp only [field_eq_ok.2 targets_eq, ok_bind, Tree.iterate]
  split
  · next single =>
    cases single
    split
    · exact ⟨none, rfl, nofun⟩
    next isName =>
    obtain ⟨n, id_eq⟩ := (wf.child (each target List.mem_cons_self).2).root.identifier (by simpa using isName) (f := .id)
      (by decide)
    simp only [field_eq_ok.2 value_eq, ok_bind, hl]
    cases literal with
    | false => exact ⟨none, rfl, nofun⟩
    | true =>
      obtain ⟨v, hv⟩ := (Tree.isStringLiteral_eq_ok hl).1 rfl
      simp only [Bool.not_true, Bool.false_eq_true, ↓reduceIte, field_eq_ok.2 id_eq, field_eq_ok.2 hv.value, ok_bind,
        Tree.text?]
      refine ⟨_, rfl, ?_⟩
      rintro p ⟨⟩
      exact ⟨n, rfl⟩
  · exact ⟨none, rfl, nofun⟩

theorem bindConstants_total {statements : List (Tree × Nat)} (wf : ∀ s ∈ statements, s.1.WellFormed) (b : Bindings) :
    ∃ r, bindConstants b statements = .ok r := by
  induction statements generalizing b with
  | nil => exact ⟨_, rfl⟩
  | cons s statements ih =>
    obtain ⟨statement, i⟩ := s
    have later := ih fun s hs => wf s (List.mem_cons_of_mem _ hs)
    obtain ⟨r, hr, texts⟩ := constantAssign?_total (wf _ List.mem_cons_self)
    simp only [bindConstants, hr, ok_bind]
    cases r with
    | none => exact later b
    | some p =>
      obtain ⟨n, name_eq⟩ := texts p rfl
      obtain ⟨p1, v⟩ := p
      cases name_eq
      obtain ⟨⟨b', addresses⟩, eq⟩ := later (b.record (.text n) (some v))
      refine ⟨(b', [0, i] :: addresses), ?_⟩
      have bound : b.bind (.text n) (some v) = .ok (b.record (.text n) (some v)) := rfl
      simp only [bound, ok_bind, eq]
      rfl

theorem importedName_total {t : Tree} (h : t.Conforms) (isAlias : t.isA .alias = true) :
    ∃ n, importedName t = .ok (.text n) := by
  obtain ⟨asname, asname_eq, asname_ok⟩ := h.optionalIdentifier isAlias (f := .asname) (by decide)
  obtain ⟨name, name_eq⟩ := h.identifier isAlias (f := .name) (by decide)
  simp only [importedName, field_eq_ok.2 asname_eq, field_eq_ok.2 name_eq, ok_bind, pure_eq_ok]
  rcases asname_ok with rfl | ⟨s, rfl⟩
  · exact ⟨_, rfl⟩
  · split <;> exact ⟨_, rfl⟩

theorem boundNames_total {t : Tree} (h : t.Conforms) :
    ∃ names, boundNames t = .ok names ∧ ∀ name ∈ names, ∃ n, name = .text n := by
  have single : ∀ {f : Field}, (∃ n, t.field? f = some (.text n)) →
      ∃ names, (t.field f >>= fun name => pure [name]) = .ok names ∧ ∀ name ∈ names, ∃ n, name = .text n := by
    rintro f ⟨n, hn⟩
    exact ⟨[.text n], by simp [field_eq_ok.2 hn], by simp⟩
  have many : (∃ v, t.field? .names = some v ∧ Kind.identifiers.Holds v) →
      ∃ names, (t.field .names >>= Tree.iterate) = .ok names ∧ ∀ name ∈ names, ∃ n, name = .text n := by
    rintro ⟨_, names_eq, names, rfl, texts⟩
    exact ⟨names, by simp [field_eq_ok.2 names_eq, Tree.iterate], texts⟩
  unfold boundNames
  split
  · next isA => exact single (h.identifier (isA_iff.2 isA) (by decide))
  · next isA => exact single (h.identifier (isA_iff.2 isA) (by decide))
  · next isA => exact single (h.identifier (isA_iff.2 isA) (by decide))
  · next isA => exact single (h.identifier (isA_iff.2 isA) (by decide))
  · next isA =>
    obtain ⟨n, hn⟩ := importedName_total h (isA_iff.2 isA)
    exact ⟨[.text n], by simp [hn], by simp⟩
  · next isA => exact many (h.field (isA_iff.2 isA) (by decide))
  · next isA => exact many (h.field (isA_iff.2 isA) (by decide))
  · next isA =>
    obtain ⟨name, name_eq, text⟩ := h.optionalIdentifier (isA_iff.2 isA) (f := .name) (by decide)
    refine ⟨if name.truthy then [name] else [], by simp [field_eq_ok.2 name_eq], ?_⟩
    rcases text with rfl | ⟨n, rfl⟩
    · intro name mem
      cases mem
    · intro name mem
      split at mem
      · exact ⟨n, List.mem_singleton.1 mem⟩
      · cases mem
  · exact ⟨[], rfl, by simp⟩

/-- The names that a node of a well-formed tree binds are texts. -/
theorem occurrenceNames_total (recorded : List (List Nat)) {o : Occurrence} (h : o.node.Conforms) :
    ∃ names, occurrenceNames recorded o = .ok names ∧ ∀ name ∈ names, ∃ n, name = .text n := by
  unfold occurrenceNames
  split
  · next isName =>
    obtain ⟨ctx, ctx_eq, -⟩ := h.one isName (f := .ctx) (g := .context) (by decide)
    obtain ⟨n, id_eq⟩ := h.identifier isName (f := .id) (by decide)
    simp only [field_eq_ok.2 ctx_eq, field_eq_ok.2 id_eq, ok_bind, pure_eq_ok]
    split
    · exact ⟨[], rfl, by simp⟩
    · exact ⟨[.text n], rfl, by simp⟩
  · exact boundNames_total h

theorem bindOccurrences_total (recorded : List (List Nat)) {os : List Occurrence} (h : ∀ o ∈ os, o.node.Conforms)
    (b : Bindings) : ∃ b', bindOccurrences recorded b os = .ok b' := by
  induction os generalizing b with
  | nil => exact ⟨b, rfl⟩
  | cons o os ih =>
    obtain ⟨names, names_eq, texts⟩ := occurrenceNames_total recorded (h o List.mem_cons_self)
    obtain ⟨b', hb⟩ := foldlM_bind_total texts b
    simp only [bindOccurrences, names_eq, hb, ok_bind]
    exact ih (fun p hp => h p (List.mem_cons_of_mem o hp)) b'

theorem moduleBindings_total {tree : Tree} (wf : tree.WellFormed) : ∃ b, moduleBindings tree = .ok b := by
  obtain ⟨os, hos, each⟩ := wf.occurrences_eq_ok wf.root.isNode
  have statements : ∀ s ∈ tree.children.zipIdx, s.1.WellFormed := fun s hs =>
    wf.child (List.mem_of_getElem? (List.mem_zipIdx_iff_getElem?.1 hs))
  obtain ⟨⟨b, recorded⟩, hb⟩ := bindConstants_total statements []
  simp only [moduleBindings, hos, hb, ok_bind]
  exact bindOccurrences_total recorded (fun o ho => (each o ho).root) b

/-! ### The scope -/

theorem loadedFrom_total {nodes : List Tree} (h : ∀ t ∈ nodes, t.Conforms) (names : List Tree) :
    ∃ r, loadedFrom names nodes = .ok r := by
  induction nodes generalizing names with
  | nil => exact ⟨names, rfl⟩
  | cons t nodes ih =>
    have later := ih fun u hu => h u (List.mem_cons_of_mem t hu)
    rw [loadedFrom]
    split
    · exact later names
    next notOther =>
    have isName : t.isA .name = true := by simpa using notOther
    obtain ⟨ctx, ctx_eq, -⟩ := (h t List.mem_cons_self).one isName (f := .ctx) (g := .context) (by decide)
    obtain ⟨n, id_eq⟩ := (h t List.mem_cons_self).identifier isName (f := .id) (by decide)
    simp only [field_eq_ok.2 ctx_eq, field_eq_ok.2 id_eq, ok_bind]
    split
    · exact later names
    · exact later (addName names (.text n))

theorem loadedNames_total {tree : Tree} (wf : tree.WellFormed) : ∃ names, loadedNames tree = .ok names := by
  obtain ⟨os, hos, each⟩ := wf.occurrences_eq_ok wf.root.isNode
  simp only [loadedNames, Tree.walk, hos, Tree.map_ok, ok_bind]
  refine loadedFrom_total ?_ []
  intro t ht
  obtain ⟨o, ho, rfl⟩ := List.mem_map.1 ht
  exact (each o ho).root

theorem definedBefore_total {call : Tree} {line : Int} (line_eq : call.field? .lineno = some (.int line))
    {statements : List Tree} (wf : ∀ s ∈ statements, s.WellFormed) : ∃ r, definedBefore call statements = .ok r := by
  induction statements with
  | nil => exact ⟨[], rfl⟩
  | cons s statements ih =>
    obtain ⟨later, hl⟩ := ih fun u hu => wf u (List.mem_cons_of_mem s hu)
    have here := wf s List.mem_cons_self
    rw [definedBefore]
    split
    · exact ⟨later, hl⟩
    next notOther =>
    have isAssign : s.isA .assign = true := by simpa using notOther
    obtain ⟨target, others, targets_eq, each⟩ := here.root.several isAssign (f := .targets) (g := .expr) (by decide)
    obtain ⟨extent, has⟩ := here.root.position isAssign rfl
    have first : firstTarget s = .ok target := by simp [firstTarget, field_eq_ok.2 targets_eq, Tree.iterate]
    simp only [first, ok_bind]
    split
    · exact ⟨later, hl⟩
    next isName =>
    obtain ⟨n, id_eq⟩ := (here.child (each target List.mem_cons_self).2).root.identifier (by simpa using isName) (f := .id)
      (by decide)
    obtain ⟨above, less⟩ : ∃ b, (Tree.int extent.endLine).less (.int line) = .ok b := ⟨_, rfl⟩
    simp only [field_eq_ok.2 has.endLine, field_eq_ok.2 line_eq, less, field_eq_ok.2 id_eq, ok_bind, hl]
    split
    · exact ⟨.text n :: later, rfl⟩
    · exact ⟨later, rfl⟩

theorem callScope_total {tree call : Tree} (wf : tree.WellFormed) (isModule : tree.isA .module = true)
    (callWf : call.WellFormed) (isCall : call.isA .call = true) : ∃ r, callScope tree call = .ok r := by
  obtain ⟨b, hb⟩ := moduleBindings_total wf
  obtain ⟨loaded, hl⟩ := loadedNames_total wf
  obtain ⟨body, body_eq, each⟩ := wf.root.many isModule (f := .body) (g := .stmt) (by decide)
  obtain ⟨extent, has⟩ := callWf.root.position isCall rfl
  obtain ⟨defined, hd⟩ := definedBefore_total has.line fun s hs => wf.child (each s hs).2
  simp only [callScope, hb, hl, field_eq_ok.2 body_eq, Tree.iterate, hd, ok_bind]
  split
  · exact ⟨none, rfl⟩
  · exact ⟨_, rfl⟩

/-! ### The arguments -/

theorem resolve_total (scope : Scope) (constants : Constants) {e : Tree} (h : e.Conforms) :
    ∃ r, resolve scope constants e = .ok r := by
  obtain ⟨literal, hl, -⟩ := Tree.isStringLiteral_eq h.measured.value
  simp only [resolve, hl, ok_bind]
  cases literal with
  | false => exact ⟨.keep, rfl⟩
  | true =>
    obtain ⟨v, hv⟩ := (Tree.isStringLiteral_eq_ok hl).1 rfl
    exact ⟨resolveText scope constants v, by simp [field_eq_ok.2 hv.value, Tree.text?]⟩

theorem extractArgs_total (scope : Scope) (r : Extraction) {as : List Tree} (h : ∀ a ∈ as, a.Conforms) :
    ∃ r', extractArgs scope r as = .ok r' := by
  induction as generalizing r with
  | nil => exact ⟨some r, rfl⟩
  | cons a as ih =>
    have later := fun r => ih r fun b hb => h b (List.mem_cons_of_mem a hb)
    obtain ⟨resolution, eq⟩ := resolve_total scope r.constants (h a List.mem_cons_self)
    simp only [extractArgs, eq, ok_bind]
    cases resolution with
    | keep => exact later _
    | decline => exact ⟨none, rfl⟩
    | rename id constants => exact later _

theorem extractKeywords_total (scope : Scope) (r : Extraction) {ks : List Tree}
    (h : ∀ k ∈ ks, ∃ e, k.field? .value = some e ∧ e.Conforms) : ∃ r', extractKeywords scope r ks = .ok r' := by
  induction ks generalizing r with
  | nil => exact ⟨some r, rfl⟩
  | cons k ks ih =>
    have later := fun r => ih r fun b hb => h b (List.mem_cons_of_mem k hb)
    obtain ⟨e, value_eq, conforms⟩ := h k List.mem_cons_self
    obtain ⟨resolution, eq⟩ := resolve_total scope r.constants conforms
    simp only [extractKeywords, field_eq_ok.2 value_eq, eq, ok_bind]
    cases resolution with
    | keep => exact later _
    | decline => exact ⟨none, rfl⟩
    | rename id constants => exact later _

/-- What a call passes in a well-formed tree conforms. -/
theorem call_passes {call : Tree} (wf : call.WellFormed) (isCall : call.isA .call = true) :
    ∃ as ks, call.field? .args = some (.list as) ∧ call.field? .keywords = some (.list ks) ∧ (∀ a ∈ as, a.Conforms) ∧
      ∀ k ∈ ks, ∃ e, k.field? .value = some e ∧ e.Conforms := by
  obtain ⟨as, args_eq, eachArg⟩ := wf.root.many isCall (f := .args) (g := .expr) (by decide)
  obtain ⟨ks, keywords_eq, eachKeyword⟩ := wf.root.many isCall (f := .keywords) (g := .keyword) (by decide)
  refine ⟨as, ks, args_eq, keywords_eq, fun a ha => (wf.child (eachArg a ha).2).root, fun k hk => ?_⟩
  have keyword := wf.child (eachKeyword k hk).2
  obtain ⟨e, value_eq, -, child⟩ := keyword.root.one (Tree.isA_keyword (eachKeyword k hk).1) (f := .value) (g := .expr)
    (by decide)
  exact ⟨e, value_eq, (keyword.child child).root⟩

theorem extractCall_total (scope : Scope) {call : Tree} (wf : call.WellFormed) (isCall : call.isA .call = true) :
    ∃ r, extractCall scope call = .ok r := by
  obtain ⟨as, ks, args_eq, keywords_eq, arguments, values⟩ := call_passes wf isCall
  obtain ⟨first, first_eq⟩ := extractArgs_total scope ⟨[], 0, []⟩ arguments
  simp only [extractCall, field_eq_ok.2 args_eq, field_eq_ok.2 keywords_eq, Tree.iterate, ok_bind, first_eq]
  cases first with
  | none => exact ⟨none, rfl⟩
  | some first =>
    obtain ⟨second, second_eq⟩ := extractKeywords_total scope { first with arguments := [] } values
    simp only [second_eq, ok_bind]
    cases second with
    | none => exact ⟨none, rfl⟩
    | some second =>
      simp only
      split
      · exact ⟨none, rfl⟩
      · exact ⟨_, rfl⟩

end CallLint.Fix

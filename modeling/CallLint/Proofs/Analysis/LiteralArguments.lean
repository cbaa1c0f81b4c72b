import CallLint.Analysis.Rule
import CallLint.Proofs.Tree.Kinds

/-!
# Calls that pass literal texts

`Flags` says of a node, in terms of its fields alone, that it is a call of a member with a literal text directly among its
positional arguments or keyword values, and where the member access stands. On trees whose nodes are measured the rule
reports exactly those nodes (`evaluate_of_flags`, `evaluate_of_not_flags`).
-/

namespace CallLint.Tree

/-- The location of an extent, with columns from 1. -/
def Extent.location (s : Extent) : Location := .ofInts s.line (s.column + 1) s.endLine (s.endColumn + 1)

/-- A constant that holds a text. -/
structure HoldsText (t : Tree) (v : Text) : Prop where
  isConstant : t.isA .constant = true
  value : t.field? .value = some (.text v)

/-- An expression that a call passes directly: an argument by position, or the value of a keyword argument. -/
inductive Passes (call e : Tree) : Prop where
  | positional {args : List Tree} (args_eq : call.field? .args = some (.list args)) (mem : e ∈ args)
  | keyword {keywords : List Tree} {k : Tree} (keywords_eq : call.field? .keywords = some (.list keywords))
      (mem : k ∈ keywords) (value : k.field? .value = some e)

/-- A call with lists of arguments and of keyword arguments. -/
structure HasArguments (call : Tree) : Prop where
  args : ∃ ts, call.field? .args = some (.list ts)
  keywords : ∃ ks, call.field? .keywords = some (.list ks)

/-- A call of a member that passes a literal text. -/
structure PassesLiteral (call receiver : Tree) : Prop where
  isCall : call.isA .call = true
  callee : call.field? .func = some receiver
  isMember : receiver.isA .member = true
  literal : ∃ e v, call.Passes e ∧ e.HoldsText v

/-- A call of a member that passes a literal text, by the position of the member access. -/
def Flags (call : Tree) (s : Extent) : Prop := ∃ receiver, call.PassesLiteral receiver ∧ receiver.HasExtent s

/-- A node with the fields that the analysis reads: constants have a value, expressions a position, and calls lists of
arguments and of keyword arguments. -/
structure Measured (t : Tree) : Prop where
  value : t.isA .constant = true → ∃ v, t.field? .value = some v
  position : t.HasCategory .expr → ∃ s, t.HasExtent s
  arguments : t.isA .call = true → ∃ args keywords, t.field? .args = some (.list args) ∧
    t.field? .keywords = some (.list keywords) ∧ ∀ k ∈ keywords, k.isA .keyword = true

theorem Conforms.measured {t : Tree} (h : t.Conforms) : t.Measured where
  value constant := by
    obtain ⟨v, hv, -⟩ := h.field constant (f := .value) (k := .plain) (by decide)
    exact ⟨v, hv⟩
  position := by
    rintro ⟨c, hc, expr⟩
    refine h.position (isA_iff.2 hc) ?_
    cases c <;> first | rfl | cases expr
  arguments call := by
    obtain ⟨_, ha, args, rfl, -⟩ := h.field call (f := .args) (k := .many .expr) (by decide)
    obtain ⟨_, hk, keywords, rfl, each⟩ := h.field call (f := .keywords) (k := .many .keyword) (by decide)
    exact ⟨args, keywords, ha, hk, fun k hk => isA_keyword (each k hk)⟩

theorem WellFormed.measured {t : Tree} (h : t.WellFormed) : t.Everywhere Measured := h.mono fun _ => Conforms.measured

theorem Flags.unique {call : Tree} {s s' : Extent} (h : call.Flags s) (h' : call.Flags s') : s = s' := by
  obtain ⟨receiver, p, hs⟩ := h
  obtain ⟨receiver', p', hs'⟩ := h'
  have same : receiver = receiver' := Option.some.inj (p.callee.symm.trans p'.callee)
  subst same
  exact hs.unique hs'

/-- The location of a node with whole numbers for its position. -/
theorem HasExtent.location_eq {t : Tree} {s : Extent} (h : t.HasExtent s) : t.location = .ok (some s.location) := by
  have noEnd : (isNull (.int s.endLine) || isNull (.int s.endColumn)) = false := rfl
  simp [location, h.line, h.column, fieldD_eq h.endLine, fieldD_eq h.endColumn, noEnd, int?, nextColumn, Coord.ofTree,
    Extent.location, Location.ofInts]

theorem shape_call {t : Tree} (h : t.isA .call = true) : t.shape = .ok .call := by simp [shape, isA_iff.1 h]

theorem shape_member {t : Tree} (h : t.isA .member = true) : t.shape = .ok .memberAccess := by
  simp [shape, isA_iff.1 h]

/-- The shape of a value, provided that a constant has a value: which class it is decides, and for a constant whether it
holds a text. -/
theorem shape_cases {t : Tree} (h : t.isA .constant = true → ∃ v, t.field? .value = some v) :
    t.isA .call = true ∧ t.shape = .ok .call ∨ t.isA .member = true ∧ t.shape = .ok .memberAccess ∨
      (∃ v, t.HoldsText v) ∧ t.shape = .ok .stringLiteral ∨
      t.isA .call = false ∧ t.isA .member = false ∧ (∀ v, ¬ t.HoldsText v) ∧ t.shape = .ok .other := by
  by_cases call : t.isA .call = true
  · exact Or.inl ⟨call, shape_call call⟩
  by_cases member : t.isA .member = true
  · exact Or.inr (Or.inl ⟨member, shape_member member⟩)
  refine Or.inr (Or.inr ?_)
  by_cases constant : t.isA .constant = true
  · obtain ⟨v, hv⟩ := h constant
    have read : t.shape = .ok (if v.text?.isSome then .stringLiteral else .other) := by
      simp [shape, isA_iff.1 constant, field_eq_ok.2 hv]
    cases v with
    | text s => exact Or.inl ⟨⟨s, constant, hv⟩, read⟩
    | _ =>
      refine Or.inr ⟨by simpa using call, by simpa using member, ?_, read⟩
      intro s hs
      rw [hs.value] at hv
      cases hv
  · refine Or.inr ⟨by simpa using call, by simpa using member, fun s hs => constant hs.isConstant, ?_⟩
    rw [isA_iff] at call member constant
    unfold shape
    split <;> simp_all

/-- A node that has the fields that the analysis reads has a shape. -/
theorem Measured.shape_eq_ok {t : Tree} (h : t.Measured) : ∃ s, t.shape = .ok s := by
  rcases shape_cases h.value with ⟨-, hs⟩ | ⟨-, hs⟩ | ⟨-, hs⟩ | ⟨-, -, -, hs⟩ <;> exact ⟨_, hs⟩

/-- The shapes of calls and member accesses belong to one class each. -/
theorem isA_of_shape {t : Tree} {s : Shape} (h : t.shape = .ok s) :
    (s = .call → t.isA .call = true) ∧ (s = .memberAccess → t.isA .member = true) := by
  unfold shape at h
  split at h
  · next call =>
    cases h
    exact ⟨fun _ => isA_iff.2 call, nofun⟩
  · next member =>
    cases h
    exact ⟨nofun, fun _ => isA_iff.2 member⟩
  · obtain ⟨v, -, h⟩ := map_eq_ok.1 h
    split at h <;> exact ⟨fun e => (by rw [e] at h; cases h), fun e => (by rw [e] at h; cases h)⟩
  · cases h
    exact ⟨nofun, nofun⟩

/-- Whether a value is a literal text can be told, provided that a constant has a value. -/
theorem isStringLiteral_eq {t : Tree} (h : t.isA .constant = true → ∃ v, t.field? .value = some v) :
    ∃ b, t.isStringLiteral = .ok b ∧ (b = true ↔ ∃ v, t.HoldsText v) := by
  have other : ∀ {c}, t.isA c = true → c ≠ .constant → ¬ ∃ v, t.HoldsText v :=
    fun hc ne ⟨v, hv⟩ => ne (isA_unique hc hv.isConstant)
  rcases shape_cases h with ⟨hc, hs⟩ | ⟨hc, hs⟩ | ⟨hv, hs⟩ | ⟨-, -, hv, hs⟩
  · exact ⟨false, by simp [isStringLiteral, hs], by simpa using other hc (by decide)⟩
  · exact ⟨false, by simp [isStringLiteral, hs], by simpa using other hc (by decide)⟩
  · exact ⟨true, by simp [isStringLiteral, hs], by simpa using hv⟩
  · exact ⟨false, by simp [isStringLiteral, hs], by simpa using hv⟩

/-- If it can be told whether a value is a literal text, the answer is right. -/
theorem isStringLiteral_eq_ok {t : Tree} {b : Bool} (h : t.isStringLiteral = .ok b) :
    b = true ↔ ∃ v, t.HoldsText v := by
  have value : t.isA .constant = true → ∃ v, t.field? .value = some v := by
    intro constant
    obtain ⟨s, hs, -⟩ := map_eq_ok.1 h
    rw [shape, isA_iff.1 constant] at hs
    obtain ⟨v, hv, -⟩ := map_eq_ok.1 hs
    exact ⟨v, field_eq_ok.1 hv⟩
  obtain ⟨b', eq, texts⟩ := isStringLiteral_eq value
  rw [h] at eq
  cases eq
  exact texts

theorem countStringLiterals_eq {ts : List Tree}
    (h : ∀ t ∈ ts, t.isA .constant = true → ∃ v, t.field? .value = some v) :
    ∃ n, countStringLiterals ts = .ok n ∧ (n = 0 ↔ ∀ t ∈ ts, ∀ v, ¬ t.HoldsText v) := by
  induction ts with
  | nil => exact ⟨0, rfl, by simp⟩
  | cons t ts ih =>
    obtain ⟨b, hb, lit⟩ := isStringLiteral_eq (h t List.mem_cons_self)
    obtain ⟨n, hn, none⟩ := ih fun u hu => h u (List.mem_cons_of_mem t hu)
    refine ⟨(if b then 1 else 0) + n, by simp [countStringLiterals, hb, hn], ?_⟩
    have split : (if b then 1 else 0) + n = 0 ↔ b = false ∧ n = 0 := by cases b <;> simp
    rw [split, none, List.forall_mem_cons, ← Bool.not_eq_true, lit, not_exists]

section Calls

variable {t : Tree}

/-- An argument of a measured call that is a constant has a value. -/
theorem Everywhere.passes_value (h : t.Everywhere Measured) (call : t.isA .call = true) {e : Tree} (pass : t.Passes e)
    (constant : e.isA .constant = true) : ∃ v, e.field? .value = some v := by
  have node := isNode_of_isA constant
  have measured : e.Measured := by
    cases pass with
    | positional args_eq mem => exact (h.child (child_of_list call (by decide) args_eq mem node)).root
    | @keyword keywords k keywords_eq mem value =>
      obtain ⟨args, keywords', -, keywords_eq', each⟩ := h.root.arguments call
      have same := keywords_eq.symm.trans keywords_eq'
      simp only [Option.some.injEq, Tree.list.injEq] at same
      subst same
      have hk := h.child (child_of_list call (by decide) keywords_eq mem (isNode_of_isA (each k mem)))
      exact (hk.child (child_of_field (each k mem) (by decide) value node)).root
  exact measured.value constant

/-- The arguments that the rule looks at are those that the call passes, but for keyword values that are absent. -/
theorem HasArguments.arguments?_eq (h : t.HasArguments) :
    ∃ es, t.arguments? = some es ∧ (∀ e ∈ es, e = null ∨ t.Passes e) ∧ ∀ e, t.Passes e → e.isNode = true → e ∈ es := by
  obtain ⟨⟨args, args_eq⟩, ⟨keywords, keywords_eq⟩⟩ := h
  refine ⟨_, by simp only [arguments?, fieldD_eq args_eq, fieldD_eq keywords_eq, items?]; rfl, ?_, ?_⟩
  · intro e he
    rcases List.mem_append.1 he with he | he
    · exact Or.inr (.positional args_eq he)
    · obtain ⟨k, hk, rfl⟩ := List.mem_map.1 (List.mem_filter.1 he).1
      cases hv : k.field? .value with
      | none => left; simp [fieldD, hv]
      | some v => right; rw [fieldD_eq hv]; exact .keyword keywords_eq hk hv
  · intro e pass node
    cases pass with
    | positional args_eq' mem =>
      have same := args_eq.symm.trans args_eq'
      simp only [Option.some.injEq, Tree.list.injEq] at same
      subst same
      exact List.mem_append_left _ mem
    | @keyword keywords' k keywords_eq' mem value =>
      have same := keywords_eq.symm.trans keywords_eq'
      simp only [Option.some.injEq, Tree.list.injEq] at same
      subst same
      refine List.mem_append_right _ (List.mem_filter.2 ⟨List.mem_map.2 ⟨k, mem, fieldD_eq value⟩, ?_⟩)
      cases e with
      | node c fs => rfl
      | _ => simp [isNode, cls?] at node

/-- How many literal texts a measured call passes can be told. -/
theorem Everywhere.literals_eq (h : t.Everywhere Measured) (call : t.isA .call = true) :
    ∃ n, countStringLiterals (t.arguments?.getD []) = .ok n ∧ (n = 0 ↔ ¬ ∃ e v, t.Passes e ∧ e.HoldsText v) := by
  obtain ⟨args, keywords, args_eq, keywords_eq, -⟩ := h.root.arguments call
  obtain ⟨es, hes, sound, complete⟩ := HasArguments.arguments?_eq ⟨⟨args, args_eq⟩, ⟨keywords, keywords_eq⟩⟩
  have values : ∀ e ∈ es, e.isA .constant = true → ∃ v, e.field? .value = some v := by
    intro e he constant
    rcases sound e he with rfl | pass
    · cases constant
    · exact h.passes_value call pass constant
  obtain ⟨n, hn, none⟩ := countStringLiterals_eq values
  refine ⟨n, by rw [hes]; exact hn, none.trans ⟨?_, ?_⟩⟩
  · rintro no ⟨e, v, pass, lit⟩
    exact no e (complete e pass (isNode_of_isA lit.isConstant)) v lit
  · intro no e he v lit
    rcases sound e he with rfl | pass
    · cases lit.isConstant
    · exact no ⟨e, v, pass, lit⟩

end Calls

end CallLint.Tree

namespace CallLint.Rule

open CallLint.Tree

variable {t : Tree}

/-- The rule reports a flagged call at its member access. -/
theorem evaluate_of_flags (r : Rule) (h : t.Everywhere Measured) {s : Extent} (flags : t.Flags s) :
    r.evaluate t = .ok (some (r.descriptor.finding s.location)) := by
  obtain ⟨receiver, pass, extent⟩ := flags
  obtain ⟨n, hn, none⟩ := h.literals_eq pass.isCall
  have some_literal : n ≠ 0 := fun zero => none.1 zero pass.literal
  simp [evaluate, shape_call pass.isCall, receiver?, fieldD_eq pass.callee, shape_member pass.isMember, hn, some_literal,
    extent.location_eq]

/-- The rule reports nothing else. -/
theorem evaluate_of_not_flags (r : Rule) (h : t.Everywhere Measured) (no : ∀ s, ¬ t.Flags s) :
    r.evaluate t = .ok none := by
  rcases shape_cases h.root.value with ⟨call, hs⟩ | ⟨-, hs⟩ | ⟨-, hs⟩ | ⟨-, -, -, hs⟩
  · -- a call: either its callee is no member access, or it passes no literal text
    cases hf : t.field? .func with
    | none =>
      have noFunc : t.fieldD .func = null := by simp [fieldD, hf]
      have noShape : shape null = .ok .other := rfl
      simp [evaluate, hs, receiver?, noFunc, noShape]
    | some receiver =>
      have measured : receiver.isA .constant = true → ∃ v, receiver.field? .value = some v := by
        intro constant
        exact (h.child (child_of_field call (by decide) hf (isNode_of_isA constant))).root.value constant
      rcases shape_cases measured with ⟨-, hr⟩ | ⟨member, hr⟩ | ⟨-, hr⟩ | ⟨-, -, -, hr⟩
      · simp [evaluate, hs, receiver?, fieldD_eq hf, hr]
      · obtain ⟨n, hn, none⟩ := h.literals_eq call
        have extent := (h.child (child_of_field call (by decide) hf (isNode_of_isA member))).root.position
          ⟨_, isA_iff.1 member, rfl⟩
        have zero : n = 0 := by
          refine none.2 fun literal => ?_
          obtain ⟨s, hs⟩ := extent
          exact no s ⟨receiver, ⟨call, hf, member, literal⟩, hs⟩
        simp [evaluate, hs, receiver?, fieldD_eq hf, hr, hn, zero]
      · simp [evaluate, hs, receiver?, fieldD_eq hf, hr]
      · simp [evaluate, hs, receiver?, fieldD_eq hf, hr]
  · simp [evaluate, hs]
  · simp [evaluate, hs]
  · simp [evaluate, hs]

end CallLint.Rule

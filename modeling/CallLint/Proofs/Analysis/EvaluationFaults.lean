import CallLint.Proofs.Analysis.LiteralArguments

/-!
# Nodes on which the rule fails

Missing fields, positions and lists of arguments are no obstacle to the rule: it reports nothing. What it cannot get past is a constant
without a value, be it the node itself, its callee or one of its arguments, and a member access that starts at whole numbers and has an
end column to which one cannot be added. `evaluate_eq_error` is the exact condition, on every value.
-/

namespace CallLint.Tree

/-- A constant without a value. -/
structure LacksValue (t : Tree) : Prop where
  isConstant : t.isA .constant = true
  noValue : t.field? .value = none

/-- Whether a value is a number. Truth values are. -/
def isNumber : Tree → Bool
  | int _ | bool _ | real _ | imaginary _ => true
  | _ => false

/-- A node that starts at whole numbers and has an end, whose column is no number. -/
structure OddEnd (t : Tree) : Prop where
  line : ∃ v n, t.field? .lineno = some v ∧ v.int? = some n
  column : ∃ v n, t.field? .colOffset = some v ∧ v.int? = some n
  endLine : t.fieldD .endLineno ≠ null
  endColumn : ∃ v, t.field? .endColOffset = some v ∧ v ≠ null ∧ v.isNumber = false

/-- Why the rule fails on a value: a constant without a value is in its way, or it flags a call whose callee has an odd end. -/
inductive EvaluationFails (t : Tree) : Fault → Prop where
  | node (lacks : t.LacksValue) : EvaluationFails t .absent
  | callee {f : Tree} (isCall : t.isA .call = true) (func : t.field? .func = some f) (lacks : f.LacksValue) : EvaluationFails t .absent
  | argument {f e : Tree} (isCall : t.isA .call = true) (func : t.field? .func = some f) (isMember : f.isA .member = true)
      (arguments : t.HasArguments) (pass : t.Passes e) (lacks : e.LacksValue) : EvaluationFails t .absent
  | endColumn {f : Tree} (literal : t.PassesLiteral f) (arguments : t.HasArguments) (told : ∀ e, t.Passes e → ¬ e.LacksValue)
      (odd : f.OddEnd) : EvaluationFails t .mismatch

section Errors

variable {α β : Type} {e : Fault}

theorem map_eq_error {x : Except Fault α} {f : α → β} : x.map f = .error e ↔ x = .error e := by
  cases x with
  | error d => simp
  | ok a => simp

variable {t u : Tree} {ts : List Tree}

theorem not_lacksValue : (¬ t.LacksValue) ↔ (t.isA .constant = true → ∃ v, t.field? .value = some v) := by
  constructor
  · intro told constant
    exact Option.ne_none_iff_exists'.1 fun none => told ⟨constant, none⟩
  · intro value lacks
    obtain ⟨v, hv⟩ := value lacks.isConstant
    cases lacks.noValue.symm.trans hv

theorem shape_eq_error : t.shape = .error e ↔ e = .absent ∧ t.LacksValue := by
  constructor
  · intro h
    by_cases lacks : t.LacksValue
    · have absent : t.shape = .error .absent := by
        simp [shape, isA_iff.1 lacks.isConstant, field, lacks.noValue]
      cases absent.symm.trans h
      exact ⟨rfl, lacks⟩
    · rcases shape_cases (not_lacksValue.1 lacks) with ⟨-, hs⟩ | ⟨-, hs⟩ | ⟨-, hs⟩ | ⟨-, -, -, hs⟩ <;> cases hs.symm.trans h
  · rintro ⟨rfl, constant, none⟩
    simp [shape, isA_iff.1 constant, field, none]

theorem receiver?_eq_error : t.receiver? = .error e ↔ e = .absent ∧ ∃ f, t.field? .func = some f ∧ f.LacksValue := by
  rw [receiver?, map_eq_error, shape_eq_error]
  refine and_congr_right fun _ => ⟨fun lacks => ⟨_, field?_of_fieldD rfl ?_, lacks⟩, ?_⟩
  · intro null
    rw [null] at lacks
    cases lacks.isConstant
  · rintro ⟨f, func, lacks⟩
    rwa [fieldD_eq func]

theorem receiver?_eq_some : t.receiver? = .ok (some u) ↔ t.field? .func = some u ∧ u.isA .member = true := by
  rw [receiver?, map_eq_ok]
  constructor
  · rintro ⟨s, shape, chosen⟩
    split at chosen
    · next member =>
      have isMember := (isA_of_shape shape).2 (by simpa using member)
      cases chosen
      exact ⟨field?_of_fieldD rfl fun null => (by rw [null] at isMember; cases isMember), isMember⟩
    · cases chosen
  · rintro ⟨func, isMember⟩
    rw [fieldD_eq func]
    exact ⟨_, shape_member isMember, rfl⟩

/-- Counting stops at the first constant without a value. -/
theorem countStringLiterals_eq_error : countStringLiterals ts = .error e ↔ e = .absent ∧ ∃ t ∈ ts, t.LacksValue := by
  induction ts with
  | nil => simp [countStringLiterals]
  | cons t ts ih =>
    have first : t.isStringLiteral = .error e ↔ e = .absent ∧ t.LacksValue := by rw [isStringLiteral, map_eq_error, shape_eq_error]
    simp only [countStringLiterals, bind_eq_error, first, ih, pure_eq_ok, reduceCtorEq, and_false, exists_false, or_false, List.mem_cons,
      exists_eq_or_imp]
    constructor
    · rintro (⟨rfl, lacks⟩ | ⟨b, -, rfl, later⟩)
      · exact ⟨rfl, .inl lacks⟩
      · exact ⟨rfl, .inr later⟩
    · rintro ⟨rfl, lacks | later⟩
      · exact .inl ⟨rfl, lacks⟩
      · by_cases lacks : t.LacksValue
        · exact .inl ⟨rfl, lacks⟩
        · obtain ⟨b, hb, -⟩ := isStringLiteral_eq (not_lacksValue.1 lacks)
          exact .inr ⟨b, hb, rfl, later⟩

theorem items?_eq_some : t.items? = some ts ↔ t = .list ts := by
  cases t <;> simp [items?]

theorem arguments?_eq_none (h : ¬ t.HasArguments) : t.arguments? = none := by
  unfold arguments?
  split
  · next args keywords ha hk =>
    refine absurd ⟨⟨args, ?_⟩, ⟨keywords, ?_⟩⟩ h
    · exact field?_of_fieldD (items?_eq_some.1 ha) nofun
    · exact field?_of_fieldD (items?_eq_some.1 hk) nofun
  · rfl

/-- The nodes among the arguments that the rule looks at: those that a call with both lists passes. -/
theorem mem_arguments (node : u.isNode = true) : u ∈ t.arguments?.getD [] ↔ t.HasArguments ∧ t.Passes u := by
  by_cases lists : t.HasArguments
  · obtain ⟨es, hes, sound, complete⟩ := lists.arguments?_eq
    rw [hes, Option.getD_some]
    refine ⟨fun mem => ⟨lists, (sound u mem).resolve_left fun null => ?_⟩, fun pass => complete u pass.2 node⟩
    rw [null] at node
    cases node
  · simp [arguments?_eq_none lists, lists]

/-- How many literal texts a call passes can be told if its arguments have their values. -/
theorem literals_told (t : Tree) (told : ∀ u, t.Passes u → ¬ u.LacksValue) :
    ∃ n, countStringLiterals (t.arguments?.getD []) = .ok n ∧
      (n = 0 ↔ ¬ (t.HasArguments ∧ ∃ u v, t.Passes u ∧ u.HoldsText v)) := by
  have values : ∀ u ∈ t.arguments?.getD [], u.isA .constant = true → ∃ v, u.field? .value = some v := by
    intro u mem constant
    have pass := ((mem_arguments (isNode_of_isA constant)).1 mem).2
    exact not_lacksValue.1 (told u pass) constant
  obtain ⟨n, counted, none⟩ := countStringLiterals_eq values
  refine ⟨n, counted, none.trans ⟨?_, ?_⟩⟩
  · rintro no ⟨arguments, u, v, pass, text⟩
    exact no u ((mem_arguments (isNode_of_isA text.isConstant)).2 ⟨arguments, pass⟩) v text
  · intro no u mem v text
    obtain ⟨arguments, pass⟩ := (mem_arguments (isNode_of_isA text.isConstant)).1 mem
    exact no ⟨arguments, u, v, pass, text⟩

/-- What is known of a call when literal texts have been counted among its arguments. -/
theorem of_counted {n : Nat} (counted : countStringLiterals (t.arguments?.getD []) = .ok n) (some_literal : n ≠ 0) :
    t.HasArguments ∧ (∀ u, t.Passes u → ¬ u.LacksValue) ∧ ∃ u v, t.Passes u ∧ u.HoldsText v := by
  have arguments : t.HasArguments := Classical.byContradiction fun none => by
    rw [arguments?_eq_none none] at counted
    cases counted
    exact some_literal rfl
  have told : ∀ u, t.Passes u → ¬ u.LacksValue := fun u pass lacks => by
    have mem := (mem_arguments (isNode_of_isA lacks.isConstant)).2 ⟨arguments, pass⟩
    cases counted.symm.trans (countStringLiterals_eq_error.2 ⟨rfl, u, mem, lacks⟩)
  obtain ⟨m, counted', none⟩ := t.literals_told told
  cases counted.symm.trans counted'
  exact ⟨arguments, told, Classical.byContradiction fun no => some_literal (none.2 fun both => no both.2)⟩

theorem nextColumn_eq_error : nextColumn t = .error e ↔ e = .mismatch ∧ t.isNumber = false := by
  cases t <;> simp [nextColumn, isNumber, eq_comm]

theorem isNull_eq_false : t.isNull = false ↔ t ≠ null := by
  cases t <;> simp [isNull]

theorem isNumber_of_int? {n : Int} (h : t.int? = some n) : t.isNumber = true := by
  cases t <;> first | rfl | cases h

/-- A location cannot be given only if one cannot be added to the end column. -/
theorem location_eq_error : t.location = .error e ↔ e = .mismatch ∧ t.OddEnd := by
  constructor
  · intro h
    unfold location at h
    split at h
    · next line column line_eq column_eq =>
      split at h
      · cases h
      · next whole =>
        simp only [Bool.or_eq_true, Option.isNone_iff_eq_none, not_or, Option.ne_none_iff_exists'] at whole
        obtain ⟨⟨l, hl⟩, ⟨c, hc⟩⟩ := whole
        simp only [bind_eq_error, nextColumn_eq_error, isNumber_of_int? hc, pure_eq_ok, reduceCtorEq, and_false, exists_false, or_false,
          false_or] at h
        obtain ⟨_, -, rfl, noNumber⟩ := h
        split at noNumber
        · cases (isNumber_of_int? hc).symm.trans noNumber
        · next ends =>
          simp only [Bool.or_eq_true, not_or, Bool.not_eq_true, isNull_eq_false] at ends
          exact ⟨rfl, ⟨line, l, line_eq, hl⟩, ⟨column, c, column_eq, hc⟩, ends.1, _, field?_of_fieldD rfl ends.2, ends.2, noNumber⟩
    · cases h
  · rintro ⟨rfl, ⟨line, l, line_eq, hl⟩, ⟨column, c, column_eq, hc⟩, endLine, endColumn, endColumn_eq, given, noNumber⟩
    obtain ⟨first, hfirst⟩ : ∃ first, nextColumn column = .ok first := by
      cases next : nextColumn column with
      | ok first => exact ⟨first, rfl⟩
      | error e => cases (isNumber_of_int? hc).symm.trans (nextColumn_eq_error.1 next).2
    simp [location, line_eq, column_eq, hl, hc, fieldD_eq endColumn_eq, isNull_eq_false.2 endLine, isNull_eq_false.2 given, hfirst,
      nextColumn_eq_error.2 ⟨rfl, noNumber⟩]

end Errors

end CallLint.Tree

namespace CallLint.Rule

open CallLint.Tree

/-- The rule fails on a value exactly for one of four reasons. -/
theorem evaluate_eq_error (r : Rule) (t : Tree) (e : Fault) : r.evaluate t = .error e ↔ t.EvaluationFails e := by
  constructor
  · intro h
    obtain unshaped | ⟨s, shape, h⟩ := bind_eq_error.1 h
    · obtain ⟨rfl, lacks⟩ := shape_eq_error.1 unshaped
      exact .node lacks
    split at h
    · cases h
    next call =>
    have isCall := (isA_of_shape shape).1 (by simpa using call)
    obtain unshaped | ⟨receiver?, receiver_eq, h⟩ := bind_eq_error.1 h
    · obtain ⟨rfl, f, func, lacks⟩ := receiver?_eq_error.1 unshaped
      exact .callee isCall func lacks
    cases receiver? with
    | none => cases h
    | some receiver =>
      obtain ⟨func, isMember⟩ := receiver?_eq_some.1 receiver_eq
      obtain uncounted | ⟨n, counted, h⟩ := bind_eq_error.1 h
      · obtain ⟨rfl, u, mem, lacks⟩ := countStringLiterals_eq_error.1 uncounted
        obtain ⟨arguments, pass⟩ := (mem_arguments (isNode_of_isA lacks.isConstant)).1 mem
        exact .argument isCall func isMember arguments pass lacks
      split at h
      · cases h
      next some_literal =>
      obtain ⟨arguments, told, literal⟩ := of_counted counted (by simpa using some_literal)
      obtain unplaced | ⟨_, -, h⟩ := bind_eq_error.1 h
      · obtain ⟨rfl, odd⟩ := location_eq_error.1 unplaced
        exact .endColumn ⟨isCall, func, isMember, literal⟩ arguments told odd
      · cases h
  · intro fails
    cases fails with
    | node lacks => simp [evaluate, shape_eq_error.2 ⟨rfl, lacks⟩]
    | callee isCall func lacks => simp [evaluate, shape_call isCall, receiver?_eq_error.2 ⟨rfl, _, func, lacks⟩]
    | argument isCall func isMember arguments pass lacks =>
      have mem := (mem_arguments (isNode_of_isA lacks.isConstant)).2 ⟨arguments, pass⟩
      simp [evaluate, shape_call isCall, receiver?_eq_some.2 ⟨func, isMember⟩, countStringLiterals_eq_error.2 ⟨rfl, _, mem, lacks⟩]
    | endColumn literal arguments told odd =>
      obtain ⟨n, counted, none⟩ := t.literals_told told
      have some_literal : n ≠ 0 := fun zero => none.1 zero ⟨arguments, literal.literal⟩
      simp [evaluate, shape_call literal.isCall, receiver?_eq_some.2 ⟨literal.callee, literal.isMember⟩, counted, some_literal,
        location_eq_error.2 ⟨rfl, odd⟩]

/-- A call of a member without a value among its arguments: `a.b(…)` where the argument is a constant. -/
def valuelessCall : Tree :=
  .node .call [(.func, .node .member [(.lineno, .int 1), (.colOffset, .int 0)]), (.args, .list [.node .constant []]), (.keywords, .list [])]

/-- A call of a member with a literal text, where the end column of the callee is a text. -/
def oddEndCall : Tree :=
  .node .call [(.func, .node .member [(.lineno, .int 1), (.colOffset, .int 0), (.endLineno, .int 1), (.endColOffset, .text [])]),
    (.args, .list [.node .constant [(.value, .text [])]]), (.keywords, .list [])]

theorem evaluate_not_total :
    Rule.evaluate ⟨literalStrings⟩ valuelessCall = .error .absent ∧ Rule.evaluate ⟨literalStrings⟩ oddEndCall = .error .mismatch :=
  ⟨rfl, rfl⟩

end CallLint.Rule

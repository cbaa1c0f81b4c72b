import CallLint.Proofs.Printer.Steps

/-!
# Writers

Each rule of the printer, given a writer that serves all that stands below a node, writes the node. What may hinder it is a
format string, or a whole number of too many digits (`Hinders`): nothing else in a well-formed expression does.
-/

namespace CallLint.Tree

/-- What stands below the root of a tree. -/
def Under (t u : Tree) : Prop := ∃ a, a ≠ [] ∧ t.at? a = some u

theorem under_of_child {t u : Tree} (h : u ∈ t.children) : t.Under u := by
  obtain ⟨i, hi⟩ := List.mem_iff_getElem?.1 h
  exact ⟨[i], by simp, at?_cons_eq_some.2 ⟨u, hi, rfl⟩⟩

theorem Under.child {t u v : Tree} (h : t.Under u) (hv : v ∈ u.children) : t.Under v := by
  obtain ⟨a, -, ha⟩ := h
  obtain ⟨i, hi⟩ := List.mem_iff_getElem?.1 hv
  exact ⟨a ++ [i], by simp, at?_snoc_eq_some.2 ⟨u, ha, hi⟩⟩

/-- A node that may hinder writing: a format string or a part of one, or a whole number with too many digits. -/
inductive Hinders (t : Tree) : Prop where
  | joined (isJoined : t.isA .joinedStr = true)
  | formatted (isFormatted : t.isA .formattedValue = true)
  | long {n : Int} (isConstant : t.isA .constant = true) (value : t.field? .value = some (.int n))
      (digits : Printer.maxDigits < (Decimal.digitsOf n.natAbs).length)

/-- A tree in which something may hinder writing. -/
def Hindered (t : Tree) : Prop := ∃ a u, t.at? a = some u ∧ u.Hinders

theorem Hinders.hindered {t : Tree} (h : t.Hinders) : t.Hindered := ⟨[], t, rfl, h⟩

theorem Under.hindered {t u : Tree} (h : t.Under u) (hu : u.Hindered) : t.Hindered := by
  obtain ⟨a, -, ha⟩ := h
  obtain ⟨b, v, hb, hinders⟩ := hu
  exact ⟨a ++ b, v, by rw [at?_append, ha]; exact hb, hinders⟩

/-- The groups of classes that are written. -/
def Category.isWritten : Category → Bool
  | .expr | .keyword | .comprehension | .arguments | .arg => true
  | _ => false

/-- A node of a class that is written. -/
def Written (t : Tree) : Prop := ∃ c, t.HasCategory c ∧ c.isWritten = true

theorem HasCategory.written {t : Tree} {c : Category} (h : t.HasCategory c) (hc : c.isWritten = true) : t.Written :=
  ⟨c, h, hc⟩

theorem HasCategory.truthy {t : Tree} {c : Category} (h : t.HasCategory c) : t.truthy = true := by
  obtain ⟨k, hk, -⟩ := h
  cases t with
  | node d fs => rfl
  | _ => cases hk

end CallLint.Tree

namespace CallLint.Printer

open CallLint.Tree (Fault NodeClass Field Category HasCategory Conforms WellFormed Hindered Under under_of_child field_eq_ok
  ok_bind pure_eq_ok)

/-- A writer that serves all that stands below a node. Parts of a format string need no reason: there is one where they
stand. -/
structure Serves (write : Writer) (t : Tree) : Prop where
  expr : ∀ {u}, t.Under u → u.Written → ∀ avoid place, Writes t.Hindered (write (.expr avoid place) u) Full
  part : ∀ {u}, t.Under u → Writes True (write .part u) Full

section Rules

variable {write : Writer} {t : Tree} (serves : Serves write t) (h : t.Conforms) (avoid : Bool) (place : Precedence)

include serves

theorem Serves.inner {u : Tree} {c : Category} (hu : u.HasCategory c ∧ u ∈ t.children) (hc : c.isWritten = true) :
    Writes t.Hindered (inner write avoid place u) Full :=
  serves.expr (under_of_child hu.2) (hu.1.written hc) avoid place

theorem Serves.innerAt {u : Tree} (hu : u.HasCategory .expr ∧ u ∈ t.children) :
    Writes t.Hindered (innerAt write avoid place u) Full := by
  rw [Printer.innerAt, requirePlace_eq_ok hu.1]
  exact serves.inner avoid place hu rfl

/-! ### Operations -/

theorem writeBoolOp_go_writes (word : String) (level : Precedence) {vs : List Tree}
    (each : ∀ v ∈ vs, v.HasCategory .expr ∧ v ∈ t.children) :
    Writes t.Hindered (writeBoolOp.go write avoid word level vs) Full := by
  induction vs generalizing level with
  | nil => exact .ok full_nil
  | cons v vs ih =>
    rw [writeBoolOp.go]
    refine (serves.innerAt avoid _ (each v List.mem_cons_self)).bind fun first hf => ?_
    split
    · exact .ok hf
    · refine (ih level.next fun u hu => each u (List.mem_cons_of_mem v hu)).bind fun rest hr => ?_
      exact .ok (by simp [hf, hr])

include h

theorem writeBoolOp_writes (isA : t.isA .boolOp = true) : Writes t.Hindered (writeBoolOp write avoid place t) Full := by
  obtain ⟨op, op_eq, opc, -⟩ := h.one isA (f := .op) (g := .boolOp) (by decide)
  obtain ⟨vs, vs_eq, each⟩ := h.many isA (f := .values) (g := .expr) (by decide)
  obtain ⟨⟨word, own⟩, spelled⟩ := spelling_connective opc
  simp only [writeBoolOp, field_eq_ok.2 op_eq, field_eq_ok.2 vs_eq, ok_bind, spelled, Tree.iterate]
  refine (writeBoolOp_go_writes serves avoid word own each).bind fun ps hps => ?_
  exact .ok (by simp [hps])

theorem writeNamed_writes (isA : t.isA .namedExpr = true) : Writes t.Hindered (writeNamed write avoid place t) Full := by
  obtain ⟨target, target_eq, target_ok⟩ := h.one isA (f := .target) (g := .expr) (by decide)
  obtain ⟨value, value_eq, value_ok⟩ := h.one isA (f := .value) (g := .expr) (by decide)
  simp only [writeNamed, field_eq_ok.2 target_eq, field_eq_ok.2 value_eq, ok_bind, requirePlace_eq_ok target_ok.1,
    requirePlace_eq_ok value_ok.1]
  refine (serves.inner avoid _ target_ok rfl).bind fun left hl => ?_
  refine (serves.inner avoid _ value_ok rfl).bind fun right hr => ?_
  exact .ok (by simp [hl, hr])

theorem writeBinOp_writes (isA : t.isA .binOp = true) : Writes t.Hindered (writeBinOp write avoid place t) Full := by
  obtain ⟨left, left_eq, left_ok⟩ := h.one isA (f := .left) (g := .expr) (by decide)
  obtain ⟨op, op_eq, opc, -⟩ := h.one isA (f := .op) (g := .operator) (by decide)
  obtain ⟨right, right_eq, right_ok⟩ := h.one isA (f := .right) (g := .expr) (by decide)
  obtain ⟨⟨word, own⟩, spelled⟩ := spelling_operator opc
  simp only [writeBinOp, field_eq_ok.2 op_eq, field_eq_ok.2 left_eq, field_eq_ok.2 right_eq, ok_bind, spelled]
  refine (serves.innerAt avoid _ left_ok).bind fun left hl => ?_
  refine (serves.innerAt avoid _ right_ok).bind fun right hr => ?_
  exact .ok (by simp [hl, hr])

theorem writeUnaryOp_writes (isA : t.isA .unaryOp = true) :
    Writes t.Hindered (writeUnaryOp write avoid place t) Full := by
  obtain ⟨op, op_eq, opc, -⟩ := h.one isA (f := .op) (g := .unaryOp) (by decide)
  obtain ⟨operand, operand_eq, operand_ok⟩ := h.one isA (f := .operand) (g := .expr) (by decide)
  obtain ⟨⟨word, own⟩, spelled⟩ := spelling_sign opc
  simp only [writeUnaryOp, field_eq_ok.2 op_eq, field_eq_ok.2 operand_eq, ok_bind, spelled]
  refine (serves.innerAt avoid _ operand_ok).bind fun ps hps => ?_
  exact .ok (by simp [hps])

theorem writeCompare_writes (isA : t.isA .compare = true) :
    Writes t.Hindered (writeCompare write avoid place t) Full := by
  obtain ⟨left, left_eq, left_ok⟩ := h.one isA (f := .left) (g := .expr) (by decide)
  obtain ⟨ops, ops_eq, eachOp⟩ := h.many isA (f := .ops) (g := .compareOp) (by decide)
  obtain ⟨es, es_eq, each⟩ := h.many isA (f := .comparators) (g := .expr) (by decide)
  simp only [writeCompare, field_eq_ok.2 left_eq, field_eq_ok.2 ops_eq, field_eq_ok.2 es_eq, ok_bind, Tree.iterate,
    requirePlace_eq_ok left_ok.1, forM_requirePlace_eq_ok fun e he => (each e he).1]
  refine (serves.inner avoid _ left_ok rfl).bind fun first hf => ?_
  have links : ∀ p ∈ ops.zip es, Writes t.Hindered (do
      let word ← spelling comparison? p.1
      return Pieces.ofString (" " ++ word ++ " ") ++ (← Printer.inner write avoid (Precedence.compare).next p.2)) Full := by
    rintro ⟨op, e⟩ hp
    obtain ⟨ho, he⟩ := List.of_mem_zip hp
    obtain ⟨word, spelled⟩ := spelling_comparison (eachOp op ho).1
    simp only [spelled, ok_bind]
    refine (serves.inner avoid _ (each e he) rfl).bind fun ps hps => ?_
    exact .ok (by simp [hps])
  refine (Writes.mapM links).bind fun pss hpss => ?_
  exact .ok (by simp [hf, full_flatten hpss])

theorem writeIfExp_writes (isA : t.isA .ifExp = true) : Writes t.Hindered (writeIfExp write avoid place t) Full := by
  obtain ⟨test, test_eq, test_ok⟩ := h.one isA (f := .test) (g := .expr) (by decide)
  obtain ⟨body, body_eq, body_ok⟩ := h.one isA (f := .body) (g := .expr) (by decide)
  obtain ⟨orelse, orelse_eq, orelse_ok⟩ := h.one isA (f := .orelse) (g := .expr) (by decide)
  simp only [writeIfExp, field_eq_ok.2 body_eq, field_eq_ok.2 test_eq, field_eq_ok.2 orelse_eq, ok_bind,
    requirePlace_eq_ok body_ok.1, requirePlace_eq_ok test_ok.1]
  refine (serves.inner avoid _ body_ok rfl).bind fun body hb => ?_
  refine (serves.inner avoid _ test_ok rfl).bind fun test ht => ?_
  refine (serves.innerAt avoid _ orelse_ok).bind fun orelse ho => ?_
  exact .ok (by simp [hb, ht, ho])

/-! ### Displays and comprehensions -/

theorem writeDict_writes (isA : t.isA .dict = true) : Writes t.Hindered (writeDict write avoid t) Full := by
  obtain ⟨ks, ks_eq, eachKey⟩ := h.manyOptional isA (f := .keys) (g := .expr) (by decide)
  obtain ⟨vs, vs_eq, each⟩ := h.many isA (f := .values) (g := .expr) (by decide)
  simp only [writeDict, field_eq_ok.2 ks_eq, field_eq_ok.2 vs_eq, ok_bind, Tree.iterate]
  refine (Writes.mapM (P := Full) ?_).bind fun pss hpss => .ok ?_
  · rintro ⟨k, v⟩ hp
    obtain ⟨hk, hv⟩ := List.of_mem_zip hp
    rcases eachKey k hk with rfl | key_ok
    · -- an unpacked mapping
      refine (serves.innerAt avoid _ (each v hv)).bind fun ps hps => ?_
      exact .ok (by simp [hps])
    · obtain ⟨c, fs, rfl⟩ := Tree.exists_node key_ok.1.isNode
      refine (serves.inner avoid _ key_ok rfl).bind fun key hkey => ?_
      refine (serves.inner avoid _ (each v hv) rfl).bind fun value hvalue => ?_
      exact .ok (by simp [hkey, hvalue])
  · simpa using full_intersperse (full_ofString _) hpss

theorem writeSet_writes (isA : t.isA .set = true) : Writes t.Hindered (writeSet write avoid t) Full := by
  obtain ⟨es, es_eq, each⟩ := h.many isA (f := .elts) (g := .expr) (by decide)
  simp only [writeSet, field_eq_ok.2 es_eq, ok_bind, Tree.iterate]
  split
  · exact .ok (full_ofString _)
  · refine (separated_writes _ fun e he => serves.inner avoid _ (each e he) rfl).bind fun ps hps => ?_
    exact .ok (by simp [hps])

theorem writeClauses_writes {c : NodeClass} (isA : t.isA c = true)
    (generators : (.generators, .many .comprehension) ∈ c.signature) :
    Writes t.Hindered (writeClauses write avoid t) Full := by
  obtain ⟨gs, gs_eq, each⟩ := h.many isA generators
  simp only [writeClauses, field_eq_ok.2 gs_eq, ok_bind, Tree.iterate]
  exact consecutive_writes fun g hg => serves.inner avoid _ (each g hg) rfl

theorem writeComp_writes (left right : String) {c : NodeClass} (isA : t.isA c = true)
    (elt : (.elt, .one .expr) ∈ c.signature) (generators : (.generators, .many .comprehension) ∈ c.signature) :
    Writes t.Hindered (writeComp write avoid left right t) Full := by
  obtain ⟨e, e_eq, e_ok⟩ := h.one isA elt
  simp only [writeComp, field_eq_ok.2 e_eq, ok_bind]
  refine (serves.inner avoid _ e_ok rfl).bind fun ps hps => ?_
  refine (writeClauses_writes serves h avoid isA generators).bind fun qs hqs => ?_
  exact .ok (by simp [hps, hqs])

theorem writeDictComp_writes (isA : t.isA .dictComp = true) : Writes t.Hindered (writeDictComp write avoid t) Full := by
  obtain ⟨key, key_eq, key_ok⟩ := h.one isA (f := .key) (g := .expr) (by decide)
  obtain ⟨value, value_eq, value_ok⟩ := h.one isA (f := .value) (g := .expr) (by decide)
  simp only [writeDictComp, field_eq_ok.2 key_eq, field_eq_ok.2 value_eq, ok_bind]
  refine (serves.inner avoid _ key_ok rfl).bind fun ks hks => ?_
  refine (serves.inner avoid _ value_ok rfl).bind fun vs hvs => ?_
  refine (writeClauses_writes serves h avoid isA (by decide)).bind fun qs hqs => ?_
  exact .ok (by simp [hks, hvs, hqs])

theorem writeClause_writes (isA : t.isA .comprehension = true) : Writes t.Hindered (writeClause write avoid t) Full := by
  obtain ⟨isAsync, isAsync_eq, -⟩ := h.field isA (f := .isAsync) (k := .whole) (by decide)
  obtain ⟨target, target_eq, target_ok⟩ := h.one isA (f := .target) (g := .expr) (by decide)
  obtain ⟨iter, iter_eq, iter_ok⟩ := h.one isA (f := .iter) (g := .expr) (by decide)
  obtain ⟨ifs, ifs_eq, each⟩ := h.many isA (f := .ifs) (g := .expr) (by decide)
  simp only [writeClause, field_eq_ok.2 isAsync_eq, field_eq_ok.2 target_eq, field_eq_ok.2 iter_eq, field_eq_ok.2 ifs_eq,
    ok_bind, Tree.iterate, requirePlace_eq_ok iter_ok.1, forM_requirePlace_eq_ok fun e he => (each e he).1]
  refine (serves.innerAt avoid _ target_ok).bind fun target ht => ?_
  refine (serves.inner avoid _ iter_ok rfl).bind fun iter hi => ?_
  refine (Writes.mapM (P := Full) ?_).bind fun pss hpss => .ok ?_
  · intro e he
    refine (serves.inner avoid _ (each e he) rfl).bind fun ps hps => ?_
    exact .ok (by simp [hps])
  · simp [ht, hi, full_flatten hpss]

/-! ### Keywords, calls, members -/

omit h in
theorem writeKeyword_writes (word : String) (own : Precedence) {v : Tree} (v_eq : t.field? .value = some v)
    (v_ok : v = .null ∨ v.HasCategory .expr ∧ v ∈ t.children) :
    Writes t.Hindered (writeKeyword write avoid word own place t) Full := by
  simp only [writeKeyword, field_eq_ok.2 v_eq, ok_bind]
  rcases v_ok with rfl | v_ok
  · exact .ok (by simp)
  · simp only [v_ok.1.truthy, ↓reduceIte]
    refine (serves.innerAt avoid _ v_ok).bind fun ps hps => ?_
    exact .ok (by simp [hps])

theorem writeYieldFrom_writes (isA : t.isA .yieldFrom = true) :
    Writes t.Hindered (writeYieldFrom write avoid place t) Full := by
  obtain ⟨v, v_eq, v_ok⟩ := h.one isA (f := .value) (g := .expr) (by decide)
  simp only [writeYieldFrom, field_eq_ok.2 v_eq, ok_bind, v_ok.1.truthy, Bool.not_true, Bool.false_eq_true, ↓reduceIte]
  refine (serves.innerAt avoid _ v_ok).bind fun ps hps => ?_
  exact .ok (by simp [hps])

theorem writeCall_writes (isA : t.isA .call = true) : Writes t.Hindered (writeCall write avoid t) Full := by
  obtain ⟨func, func_eq, func_ok⟩ := h.one isA (f := .func) (g := .expr) (by decide)
  obtain ⟨as, as_eq, each⟩ := h.many isA (f := .args) (g := .expr) (by decide)
  obtain ⟨ks, ks_eq, eachKeyword⟩ := h.many isA (f := .keywords) (g := .keyword) (by decide)
  simp only [writeCall, field_eq_ok.2 func_eq, field_eq_ok.2 as_eq, field_eq_ok.2 ks_eq, ok_bind, Tree.iterate]
  refine (serves.innerAt avoid _ func_ok).bind fun func hf => ?_
  refine (Writes.mapM fun a ha => serves.inner avoid _ (each a ha) rfl).bind fun pss hpss => ?_
  refine (Writes.mapM fun k hk => serves.inner avoid _ (eachKeyword k hk) rfl).bind fun qss hqss => ?_
  have all : ∀ ps ∈ pss ++ qss, Full ps := by
    intro ps hps
    rcases List.mem_append.1 hps with hps | hps
    · exact hpss ps hps
    · exact hqss ps hps
  exact .ok (by simpa [hf] using full_intersperse (full_ofString ", ") all)

theorem writeKeywordArg_writes (isA : t.isA .keyword = true) : Writes t.Hindered (writeKeywordArg write avoid t) Full := by
  obtain ⟨arg, arg_eq, arg_ok⟩ := h.optionalIdentifier isA (f := .arg) (by decide)
  obtain ⟨value, value_eq, value_ok⟩ := h.one isA (f := .value) (g := .expr) (by decide)
  simp only [writeKeywordArg, field_eq_ok.2 arg_eq, field_eq_ok.2 value_eq, ok_bind]
  refine (serves.inner avoid _ value_ok rfl).bind fun ps hps => ?_
  rcases arg_ok with rfl | ⟨s, rfl⟩
  · exact .ok (by simp [hps])
  · exact .ok (by simp [hps])

theorem writeStarred_writes (isA : t.isA .starred = true) :
    Writes t.Hindered (do return Pieces.ofString "*" ++ (← innerAt write avoid .bitOr (← t.field .value))) Full := by
  obtain ⟨value, value_eq, value_ok⟩ := h.one isA (f := .value) (g := .expr) (by decide)
  simp only [field_eq_ok.2 value_eq, ok_bind]
  refine (serves.innerAt avoid _ value_ok).bind fun ps hps => ?_
  exact .ok (by simp [hps])

theorem writeMember_writes (below : ∀ u ∈ t.children, u.Conforms) (isA : t.isA .member = true) :
    Writes t.Hindered (writeMember write avoid t) Full := by
  obtain ⟨value, value_eq, value_ok⟩ := h.one isA (f := .value) (g := .expr) (by decide)
  obtain ⟨attr, attr_eq⟩ := h.identifier isA (f := .attr) (by decide)
  simp only [writeMember, field_eq_ok.2 value_eq, field_eq_ok.2 attr_eq, ok_bind]
  refine (serves.innerAt avoid _ value_ok).bind fun left hl => ?_
  split
  · next constant =>
    obtain ⟨v, v_eq, -⟩ := (below value value_ok.2).field constant (f := .value) (k := .plain) (by decide)
    simp only [field_eq_ok.2 v_eq, ok_bind]
    exact .ok (by simp [hl])
  · exact .ok (by simp [hl])

omit h in
theorem writeBound_writes (opening : String) {v : Tree} (v_ok : v = .null ∨ v.HasCategory .expr ∧ v ∈ t.children) :
    Writes t.Hindered (writeBound write avoid opening v) Full := by
  unfold writeBound
  rcases v_ok with rfl | v_ok
  · exact .ok full_nil
  · simp only [v_ok.1.truthy, ↓reduceIte]
    refine (serves.inner avoid _ v_ok rfl).bind fun ps hps => ?_
    exact .ok (by simp [hps])

theorem writeSlice_writes (isA : t.isA .slice = true) : Writes t.Hindered (writeSlice write avoid t) Full := by
  obtain ⟨lower, lower_eq, lower_ok⟩ := h.optional isA (f := .lower) (g := .expr) (by decide)
  obtain ⟨upper, upper_eq, upper_ok⟩ := h.optional isA (f := .upper) (g := .expr) (by decide)
  obtain ⟨step, step_eq, step_ok⟩ := h.optional isA (f := .step) (g := .expr) (by decide)
  simp only [writeSlice, field_eq_ok.2 lower_eq, field_eq_ok.2 upper_eq, field_eq_ok.2 step_eq, ok_bind]
  refine (writeBound_writes serves avoid "" lower_ok).bind fun ls hl => ?_
  refine (writeBound_writes serves avoid "" upper_ok).bind fun us hu => ?_
  refine (writeBound_writes serves avoid ":" step_ok).bind fun ss hs => ?_
  exact .ok (by simp [hl, hu, hs])

omit h in
theorem tupleItems_writes {es : List Tree} (each : ∀ e ∈ es, e.HasCategory .expr ∧ t.Under e) :
    Writes t.Hindered (tupleItems write avoid (.list es)) Full := by
  have write_ok : ∀ e ∈ es, Writes t.Hindered (Printer.inner write avoid .test e) Full :=
    fun e he => serves.expr (each e he).2 ((each e he).1.written rfl) avoid .test
  simp only [tupleItems, Tree.iterate, ok_bind]
  split
  · next item =>
    refine (write_ok item (List.mem_singleton.2 rfl)).bind fun ps hps => ?_
    exact .ok (by simp [hps])
  · exact separated_writes _ write_ok

theorem writeSubscript_writes (below : ∀ u ∈ t.children, u.Conforms) (isA : t.isA .subscript = true) :
    Writes t.Hindered (writeSubscript write avoid t) Full := by
  obtain ⟨value, value_eq, value_ok⟩ := h.one isA (f := .value) (g := .expr) (by decide)
  obtain ⟨index, index_eq, index_ok⟩ := h.one isA (f := .slice) (g := .expr) (by decide)
  simp only [writeSubscript, field_eq_ok.2 value_eq, field_eq_ok.2 index_eq, ok_bind]
  refine (serves.innerAt avoid _ value_ok).bind fun left hl => ?_
  have whole : Writes t.Hindered (do
      let index ← Printer.inner write avoid .test index
      return left ++ delimited "[" "]" index) Full := by
    refine (serves.inner avoid _ index_ok rfl).bind fun ps hps => ?_
    exact .ok (by simp [hl, hps])
  split
  · next isTuple =>
    obtain ⟨es, es_eq, each⟩ := (below index index_ok.2).many isTuple (f := .elts) (g := .expr) (by decide)
    simp only [field_eq_ok.2 es_eq, ok_bind, pure_eq_ok]
    split
    · refine (tupleItems_writes serves avoid fun e he =>
        ⟨(each e he).1, (under_of_child index_ok.2).child (each e he).2⟩).bind fun ps hps => ?_
      exact .ok (by simp [hl, hps])
    · exact whole
  · exact whole

/-! ### Parameters -/

omit h in
/-- An annotation of a parameter, which may be the node itself or stand below it. -/
theorem writeAnnot_writes {p : Tree} (hp : p.Conforms) (isArg : p.isA .arg = true)
    (below : ∀ u ∈ p.children, t.Under u) : Writes t.Hindered (writeAnnot write avoid p) Full := by
  obtain ⟨annot, annot_eq, annot_ok⟩ := hp.optional isArg (f := .annot) (g := .expr) (by decide)
  simp only [writeAnnot, field_eq_ok.2 annot_eq, ok_bind]
  rcases annot_ok with rfl | annot_ok
  · exact .ok full_nil
  · simp only [annot_ok.1.truthy, ↓reduceIte]
    refine (serves.expr (below annot annot_ok.2) (annot_ok.1.written rfl) avoid .test).bind fun ps hps => ?_
    exact .ok (by simp [hps])

theorem writeParam_writes (isA : t.isA .arg = true) : Writes t.Hindered (writeParam write avoid t) Full := by
  obtain ⟨id, id_eq⟩ := h.identifier isA (f := .arg) (by decide)
  simp only [writeParam, field_eq_ok.2 id_eq, ok_bind]
  refine (writeAnnot_writes serves avoid h isA fun u hu => under_of_child hu).bind fun ps hps => ?_
  exact .ok (by simp [hps])

omit h in
theorem writeDefaulted_writes {p d : Tree} (hp : p.HasCategory .arg ∧ p ∈ t.children)
    (hd : d = .null ∨ d.HasCategory .expr ∧ d ∈ t.children) :
    Writes t.Hindered (writeDefaulted write avoid p d) Full := by
  unfold writeDefaulted
  refine (serves.inner avoid _ hp rfl).bind fun ps hps => ?_
  rcases hd with rfl | hd
  · exact .ok hps
  · simp only [hd.1.truthy, ↓reduceIte]
    refine (serves.inner avoid _ hd rfl).bind fun ds hds => ?_
    exact .ok (by simp [hps, hds])

theorem positionalItems_writes (isA : t.isA .arguments = true) :
    Writes t.Hindered (positionalItems write avoid t) fun pss => ∀ ps ∈ pss, Full ps := by
  obtain ⟨posonly, posonly_eq, eachPosonly⟩ := h.many isA (f := .posonlyargs) (g := .arg) (by decide)
  obtain ⟨args, args_eq, eachArg⟩ := h.many isA (f := .args) (g := .arg) (by decide)
  obtain ⟨defaults, defaults_eq, eachDefault⟩ := h.many isA (f := .defaults) (g := .expr) (by decide)
  simp only [positionalItems, field_eq_ok.2 posonly_eq, field_eq_ok.2 args_eq, field_eq_ok.2 defaults_eq, appended,
    elementCount, Tree.iterate, Tree.map_ok, pure_eq_ok, ok_bind]
  refine Writes.mapM ?_
  rintro ⟨⟨p, d⟩, i⟩ mem
  obtain ⟨hp, hd⟩ := List.of_mem_zip (List.mem_of_getElem? (List.mem_zipIdx_iff_getElem?.1 mem))
  have param_ok : p.HasCategory .arg ∧ p ∈ t.children := by
    rcases List.mem_append.1 hp with hp | hp
    · exact eachPosonly p hp
    · exact eachArg p hp
  have default_ok : d = .null ∨ d.HasCategory .expr ∧ d ∈ t.children := by
    rcases List.mem_append.1 hd with hd | hd
    · exact Or.inl (List.eq_of_mem_replicate hd)
    · exact Or.inr (eachDefault d hd)
  refine (writeDefaulted_writes serves avoid param_ok default_ok).bind fun ps hps => .ok ?_
  split
  · simp [hps]
  · exact hps

theorem starItems_writes (below : ∀ u ∈ t.children, u.Conforms) (isA : t.isA .arguments = true) :
    Writes t.Hindered (starItems write avoid t) fun pss => ∀ ps ∈ pss, Full ps := by
  obtain ⟨vararg, vararg_eq, vararg_ok⟩ := h.optional isA (f := .vararg) (g := .arg) (by decide)
  obtain ⟨kwonly, kwonly_eq, -⟩ := h.many isA (f := .kwonlyargs) (g := .arg) (by decide)
  simp only [starItems, field_eq_ok.2 vararg_eq, field_eq_ok.2 kwonly_eq, ok_bind]
  rcases vararg_ok with rfl | ⟨category, child⟩
  · refine .ok ?_
    split <;> simp
  · have isArg := Tree.isA_arg category
    obtain ⟨id, id_eq⟩ := (below vararg child).identifier isArg (f := .arg) (by decide)
    simp only [category.truthy, ↓reduceIte, field_eq_ok.2 id_eq, ok_bind]
    refine (writeAnnot_writes serves avoid (below vararg child) isArg fun u => (under_of_child child).child).bind ?_
    exact fun ps hps => .ok (by simp [hps])

theorem keywordOnlyItems_writes (isA : t.isA .arguments = true) :
    Writes t.Hindered (keywordOnlyItems write avoid t) fun pss => ∀ ps ∈ pss, Full ps := by
  obtain ⟨kwonly, kwonly_eq, each⟩ := h.many isA (f := .kwonlyargs) (g := .arg) (by decide)
  obtain ⟨kwDefaults, kwDefaults_eq, eachDefault⟩ := h.manyOptional isA (f := .kwDefaults) (g := .expr) (by decide)
  simp only [keywordOnlyItems, field_eq_ok.2 kwonly_eq, field_eq_ok.2 kwDefaults_eq, ok_bind, Tree.iterate]
  split
  · exact .ok (by simp)
  · refine Writes.mapM ?_
    rintro ⟨p, d⟩ mem
    obtain ⟨hp, hd⟩ := List.of_mem_zip mem
    exact writeDefaulted_writes serves avoid (each p hp) (eachDefault d hd)

theorem doubleStarItems_writes (below : ∀ u ∈ t.children, u.Conforms) (isA : t.isA .arguments = true) :
    Writes t.Hindered (doubleStarItems write avoid t) fun pss => ∀ ps ∈ pss, Full ps := by
  obtain ⟨kwarg, kwarg_eq, kwarg_ok⟩ := h.optional isA (f := .kwarg) (g := .arg) (by decide)
  simp only [doubleStarItems, field_eq_ok.2 kwarg_eq, ok_bind]
  rcases kwarg_ok with rfl | ⟨category, child⟩
  · exact .ok (by simp)
  · have isArg := Tree.isA_arg category
    obtain ⟨id, id_eq⟩ := (below kwarg child).identifier isArg (f := .arg) (by decide)
    simp only [category.truthy, Bool.not_true, Bool.false_eq_true, ↓reduceIte, field_eq_ok.2 id_eq, ok_bind, Tree.text?]
    refine (writeAnnot_writes serves avoid (below kwarg child) isArg fun u => (under_of_child child).child).bind ?_
    exact fun ps hps => .ok (by simp [hps])

theorem writeParams_writes (below : ∀ u ∈ t.children, u.Conforms) (isA : t.isA .arguments = true) :
    Writes t.Hindered (writeParams write avoid t) Full := by
  unfold writeParams paramItems
  refine Writes.bind (P := fun pss => ∀ ps ∈ pss, Full ps) ?_ fun pss hpss => ?_
  · refine (positionalItems_writes serves h avoid isA).bind fun positional hp => ?_
    refine (starItems_writes serves h avoid below isA).bind fun star hs => ?_
    refine (keywordOnlyItems_writes serves h avoid isA).bind fun keywordOnly hk => ?_
    refine (doubleStarItems_writes serves h avoid below isA).bind fun doubleStar hd => .ok ?_
    simp only [List.mem_append]
    rintro ps (((hps | hps) | hps) | hps)
    · exact hp ps hps
    · exact hs ps hps
    · exact hk ps hps
    · exact hd ps hps
  · exact .ok (full_intersperse (full_ofString _) hpss)

theorem writeLambda_writes (isA : t.isA .lambda = true) : Writes t.Hindered (writeLambda write avoid place t) Full := by
  obtain ⟨args, args_eq, args_ok⟩ := h.one isA (f := .args) (g := .arguments) (by decide)
  obtain ⟨body, body_eq, body_ok⟩ := h.one isA (f := .body) (g := .expr) (by decide)
  simp only [writeLambda, field_eq_ok.2 args_eq, field_eq_ok.2 body_eq, ok_bind]
  refine (serves.inner avoid _ args_ok rfl).bind fun ps hps => ?_
  refine (serves.innerAt avoid _ body_ok).bind fun qs hqs => .ok ?_
  cases ps with
  | nil => simp [hqs]
  | cons p ps => simpa [hqs] using hps

/-! ### Constants and format strings -/

omit serves h in
/-- The value of a constant is written, but for a whole number with too many digits. -/
theorem writeConstant_writes {v : Tree} (plain : v.items? = none ∧ v.isNode = false) :
    Writes (∃ n, v = .int n ∧ maxDigits < (Decimal.digitsOf n.natAbs).length) (writeConstant avoid v) fun _ => True := by
  cases v with
  | int n =>
    by_cases long : maxDigits < (Decimal.digitsOf n.natAbs).length
    · have failed : writeConstant avoid (.int n) = .error .unwritable := by
        simp [writeConstant, writeValue, writeInt, long]
      rw [failed]
      exact .unwritable ⟨n, rfl, long⟩
    · have written : writeConstant avoid (.int n) =
          .ok (if n < 0 then '-' :: Decimal.digitsOf n.natAbs else Decimal.digitsOf n.natAbs) := by
        simp [writeConstant, writeValue, writeInt, long]
      rw [written]
      exact .ok trivial
  | text s => cases avoid <;> exact .ok trivial
  | list ts => cases plain.1
  | node c fs => cases plain.2
  | _ => exact .ok trivial

omit serves in
theorem writeConstantNode_writes (isA : t.isA .constant = true) : Writes t.Hindered (writeConstantNode avoid t) Full := by
  obtain ⟨v, v_eq, plain⟩ := h.field isA (f := .value) (k := .plain) (by decide)
  obtain ⟨kind, kind_eq, -⟩ := h.field isA (f := .kind) (k := .optionalText) (by decide)
  have body : Writes t.Hindered (writeConstant avoid v) fun _ => True := by
    refine (writeConstant_writes avoid plain).because ?_
    rintro ⟨n, rfl, long⟩
    exact (Tree.Hinders.long isA v_eq long).hindered
  simp only [writeConstantNode, field_eq_ok.2 v_eq, ok_bind]
  split
  · exact .ok (full_ofString _)
  · simp only [field_eq_ok.2 kind_eq, ok_bind]
    refine body.bind fun cs _ => .ok ?_
    split <;> simp

omit serves h in
theorem conversionText_writes (n : Int) : Writes True (conversionText (.int n)) fun _ => True := by
  simp only [conversionText, Tree.int?]
  split
  · exact .ok trivial
  · exact .unwritable trivial

omit serves in
theorem writeConversion_writes (isA : t.isA .formattedValue = true) : Writes True (writeConversion t) Full := by
  obtain ⟨_, conversion_eq, n, rfl⟩ := h.field isA (f := .conversion) (k := .whole) (by decide)
  simp only [writeConversion, field_eq_ok.2 conversion_eq, ok_bind]
  split
  · exact .ok full_nil
  · exact (conversionText_writes n).bind fun c _ => .ok (by simp)

theorem writeFormatSpec_writes (isA : t.isA .formattedValue = true) : Writes True (writeFormatSpec write t) Full := by
  obtain ⟨spec, spec_eq, spec_ok⟩ := h.optional isA (f := .formatSpec) (g := .expr) (by decide)
  simp only [writeFormatSpec, field_eq_ok.2 spec_eq, ok_bind]
  rcases spec_ok with rfl | ⟨category, child⟩
  · exact .ok full_nil
  · simp only [category.truthy, ↓reduceIte]
    exact (serves.part (under_of_child child)).bind fun ps hps => .ok (by simp [hps])

theorem writeField_writes (isA : t.isA .formattedValue = true) : Writes True (writeField write t) Full := by
  obtain ⟨value, value_eq, category, child⟩ := h.one isA (f := .value) (g := .expr) (by decide)
  simp only [writeField, field_eq_ok.2 value_eq, ok_bind, requirePlace_eq_ok category]
  refine ((serves.expr (under_of_child child) (category.written rfl) true _).because fun _ => trivial).bind fun ps hps => ?_
  obtain ⟨e, joined⟩ := join_eq_ok hps
  simp only [joined, ok_bind]
  split
  · exact .unwritable trivial
  · refine (writeConversion_writes h isA).bind fun conversion hc => ?_
    refine (writeFormatSpec_writes serves h isA).bind fun spec hs => .ok ?_
    simp only [full_delimited, full_append, full_cons, full_nil]
    exact ⟨⟨⟨full_ite (full_ofString _) full_nil, by simp⟩, hc⟩, hs⟩

/-- A part of a format string. -/
theorem writePart_writes : Writes True (writePart write t) Full := by
  obtain ⟨c, hc⟩ := Option.isSome_iff_exists.1 h.isNode
  have isA : t.isA c = true := Tree.isA_iff.2 hc
  unfold writePart
  rw [hc]
  split
  · next eq =>
    cases eq
    obtain ⟨vs, vs_eq, each⟩ := h.many isA (f := .values) (g := .expr) (by decide)
    simp only [field_eq_ok.2 vs_eq, ok_bind, Tree.iterate]
    exact consecutive_writes fun v hv => serves.part (under_of_child (each v hv).2)
  · next eq =>
    cases eq
    obtain ⟨v, v_eq, -⟩ := h.field isA (f := .value) (k := .plain) (by decide)
    simp only [field_eq_ok.2 v_eq, ok_bind]
    split
    · exact .ok (by simp)
    · exact .unwritable trivial
  · next eq =>
    cases eq
    exact writeField_writes serves h isA
  · exact .unwritable trivial

/-- A format string. Where backslashes are to be avoided it is written as a part of itself. -/
theorem writeJoined_writes (own : Writes True (write .part t) Full) (isA : t.isA .joinedStr = true) :
    Writes t.Hindered (writeJoined write avoid t) Full := by
  have why : True → t.Hindered := fun _ => (Tree.Hinders.joined isA).hindered
  unfold writeJoined
  split
  · refine (own.because why).bind fun ps hps => ?_
    obtain ⟨e, joined⟩ := join_eq_ok hps
    simp only [joined, ok_bind]
    exact .ok (by simp)
  · obtain ⟨vs, vs_eq, each⟩ := h.many isA (f := .values) (g := .expr) (by decide)
    simp only [field_eq_ok.2 vs_eq, ok_bind, Tree.iterate]
    refine (Writes.mapM (P := fun _ => True) fun v hv => ?_).bind fun parts _ => .ok (by simp)
    refine ((serves.part (under_of_child (each v hv).2)).because why).bind fun ps hps => ?_
    obtain ⟨e, joined⟩ := join_eq_ok hps
    simp only [joined, ok_bind]
    exact .ok trivial

/-! ### Nodes -/

theorem writeSequence_writes {c : NodeClass} (isA : t.isA c = true) (elts : (.elts, .many .expr) ∈ c.signature) :
    ∃ es, t.field? .elts = some (.list es) ∧ Writes t.Hindered (tupleItems write avoid (.list es)) Full ∧
      Writes t.Hindered (separated ", " (Printer.inner write avoid .test) es) Full := by
  obtain ⟨es, es_eq, each⟩ := h.many isA elts
  refine ⟨es, es_eq, tupleItems_writes serves avoid fun e he => ⟨(each e he).1, under_of_child (each e he).2⟩, ?_⟩
  exact separated_writes _ fun e he => serves.inner avoid _ (each e he) rfl

/-- A node is written if what stands below it is. -/
theorem writeNode_writes (below : ∀ u ∈ t.children, u.Conforms) (own : Writes True (write .part t) Full)
    (written : t.Written) : Writes t.Hindered (writeNode write avoid place t) Full := by
  obtain ⟨g, ⟨c, hc, rfl⟩, isWritten⟩ := written
  have isA : t.isA c = true := Tree.isA_iff.2 hc
  unfold writeNode
  rw [hc]
  cases c with
  | name =>
    obtain ⟨id, id_eq⟩ := h.identifier isA (f := .id) (by decide)
    simp only [field_eq_ok.2 id_eq, ok_bind]
    exact .ok (by simp)
  | member => exact writeMember_writes serves h avoid below isA
  | call => exact writeCall_writes serves h avoid isA
  | keyword => exact writeKeywordArg_writes serves h avoid isA
  | constant => exact writeConstantNode_writes h avoid isA
  | starred => exact writeStarred_writes serves h avoid isA
  | subscript => exact writeSubscript_writes serves h avoid below isA
  | slice => exact writeSlice_writes serves h avoid isA
  | list =>
    obtain ⟨es, es_eq, -, items⟩ := writeSequence_writes serves h avoid isA (by decide)
    simp only [field_eq_ok.2 es_eq, ok_bind, Tree.iterate]
    exact items.bind fun ps hps => .ok (by simp [hps])
  | tuple =>
    obtain ⟨es, es_eq, items, -⟩ := writeSequence_writes serves h avoid isA (by decide)
    simp only [field_eq_ok.2 es_eq, ok_bind, elementCount, Tree.iterate, Tree.map_ok]
    exact items.bind fun ps hps => .ok (by simp [hps])
  | set => exact writeSet_writes serves h avoid isA
  | dict => exact writeDict_writes serves h avoid isA
  | listComp => exact writeComp_writes serves h avoid _ _ isA (by decide) (by decide)
  | setComp => exact writeComp_writes serves h avoid _ _ isA (by decide) (by decide)
  | generatorExp => exact writeComp_writes serves h avoid _ _ isA (by decide) (by decide)
  | dictComp => exact writeDictComp_writes serves h avoid isA
  | comprehension => exact writeClause_writes serves h avoid isA
  | boolOp => exact writeBoolOp_writes serves h avoid place isA
  | namedExpr => exact writeNamed_writes serves h avoid place isA
  | binOp => exact writeBinOp_writes serves h avoid place isA
  | unaryOp => exact writeUnaryOp_writes serves h avoid place isA
  | compare => exact writeCompare_writes serves h avoid place isA
  | ifExp => exact writeIfExp_writes serves h avoid place isA
  | lambda => exact writeLambda_writes serves h avoid place isA
  | arguments => exact writeParams_writes serves h avoid below isA
  | arg => exact writeParam_writes serves h avoid isA
  | await =>
    obtain ⟨v, v_eq, v_ok⟩ := h.one isA (f := .value) (g := .expr) (by decide)
    exact writeKeyword_writes serves avoid place _ _ v_eq (Or.inr v_ok)
  | yield =>
    obtain ⟨v, v_eq, v_ok⟩ := h.optional isA (f := .value) (g := .expr) (by decide)
    exact writeKeyword_writes serves avoid place _ _ v_eq v_ok
  | yieldFrom => exact writeYieldFrom_writes serves h avoid place isA
  | joinedStr => exact writeJoined_writes serves h avoid own isA
  | formattedValue =>
    exact (writeField_writes serves h isA).because fun _ => (Tree.Hinders.formatted isA).hindered
  | _ => cases isWritten

end Rules

end CallLint.Printer

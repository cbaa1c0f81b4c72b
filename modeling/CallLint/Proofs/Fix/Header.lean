import CallLint.Fix.Bindings
import CallLint.Proofs.Analysis.LiteralArguments
import CallLint.Proofs.Source.Layout
import CallLint.Proofs.Tree.BreadthFirst

/-!
# The end of the header

New constants go behind the last line of the header. That line may hold more than the header: a statement can follow an import on its
line, call a member there or go on over the next lines. These are the only modules where the line does not separate the header from
what follows (`headerEnd_separates`).
-/

namespace CallLint.Fix

open CallLint.Tree
open Source

/-- A call of a member. -/
structure MemberCall (t : Tree) : Prop where
  isCall : t.isA .call = true
  callee : ∃ f, t.field? .func = some f ∧ f.isA .member = true

/-- Each statement ends with line `k` or before it, or starts behind it. -/
def Parts (k : Int) (body : List Tree) : Prop := ∀ s ∈ body, ∀ x, s.HasExtent x → x.endLine ≤ k ∨ k < x.line

/-- Each call of a member starts behind line `k`. -/
def CallsBehind (k : Int) (tree : Tree) : Prop := tree.Everywhere fun c => MemberCall c → ∀ x, c.HasExtent x → k < x.line

/-- A statement that ends on line `k` and calls no member there, if it starts there. -/
def ClearsLine (k : Int) (s : Tree) : Prop := ∀ x, s.HasExtent x → x.line = k →
  x.endLine = k ∧ s.Everywhere fun c => MemberCall c → ∀ y, c.HasExtent y → y.line ≠ k

/-- The statements behind the header that some statements start with. -/
def behindHeader (first : Bool) : List Tree → List Tree
  | [] => []
  | statement :: rest =>
    match isHeader first statement with
    | .ok true => behindHeader false rest
    | _ => statement :: rest

/-! ### Statements of the header -/

/-- No node is a call. -/
abbrev NoCall (t : Tree) : Prop := t.Everywhere fun u => u.isA .call = false

theorem noCall_of_below {c : NodeClass} {fs : List (Field × Tree)} (h : Below (fun u => u.isA .call = false) (.node c fs)) :
    NoCall (.node c fs) :=
  h _ List.mem_cons_self

theorem alias_noCall (a : Alias) : Below (fun u => u.isA .call = false) a.toTree :=
  below_located rfl (.field (below_of_no_nodes rfl) (.field (below_optText _) .nil))

theorem docstring_noCall {s : Span} {e : Expr} {v : Text} (h : e.toTree.HoldsText v) : NoCall (Stmt.exprStmt s e).toTree := by
  have isConstant := h.isConstant
  cases e with
  | constant s v unicode =>
    refine noCall_of_below (below_located rfl (.field ?_ .nil))
    refine below_located rfl (.field (below_literal v) (.field ?_ .nil))
    cases unicode <;> exact below_of_no_nodes rfl
  | _ => cases isConstant

/-- Each statement is one of the header or not; those of the header hold no call. -/
theorem isHeader_toTree (first : Bool) (s : Stmt) :
    ∃ b, isHeader first s.toTree = .ok b ∧ (b = true → NoCall s.toTree) := by
  cases s with
  | importStmt s ns =>
    refine ⟨true, by cases first <;> rfl, fun _ => ?_⟩
    exact noCall_of_below (below_located rfl (.field (below_map alias_noCall ns) .nil))
  | importFrom s m ns level =>
    refine ⟨true, by cases first <;> rfl, fun _ => ?_⟩
    exact noCall_of_below (below_located rfl (.field (below_optText m) (.field (below_map alias_noCall ns)
      (.field (below_of_no_nodes rfl) .nil))))
  | exprStmt s e =>
    cases first with
    | false => exact ⟨false, rfl, nofun⟩
    | true =>
      obtain ⟨isExpr, wellFormed⟩ := e.toTree_fits
      have measured := (wellFormed e.toTree (by rw [nodesIn_of_isNode isExpr.isNode]; exact List.mem_cons_self)).root.measured
      obtain ⟨b, literal, text⟩ := Tree.isStringLiteral_eq measured.value
      refine ⟨b, ?_, fun h => ?_⟩
      · have value : (Stmt.exprStmt s e).toTree.field .value = .ok e.toTree := rfl
        have isExprStmt : (Stmt.exprStmt s e).toTree.isA .exprStmt = true := rfl
        have noImport : (Stmt.exprStmt s e).toTree.isA .importStmt = false ∧ (Stmt.exprStmt s e).toTree.isA .importFrom = false :=
          ⟨rfl, rfl⟩
        simp only [isHeader, isExprStmt, noImport, value, Bool.and_self, if_true]
        change Except.bind e.toTree.isStringLiteral _ = _
        rw [literal]
        simp [Except.bind, pure, Except.pure]
      · obtain ⟨v, holds⟩ := text.1 h
        exact docstring_noCall holds
  | functionDef s isAsync => cases isAsync <;> cases first <;> exact ⟨false, rfl, nofun⟩
  | forStmt s isAsync => cases isAsync <;> cases first <;> exact ⟨false, rfl, nofun⟩
  | withStmt s isAsync => cases isAsync <;> cases first <;> exact ⟨false, rfl, nofun⟩
  | tryStmt s star => cases star <;> cases first <;> exact ⟨false, rfl, nofun⟩
  | _ => cases first <;> exact ⟨false, rfl, nofun⟩

/-- The header of statements laid out behind line `l`: it ends on line `k`, its statements end there or before and hold no call, and
the others are laid out behind it. -/
theorem headerEndFrom_layout {l : Nat} {ss : List Stmt} (h : Layout l ss) (first : Bool) :
    ∃ (k : Nat) (hs rs : List Stmt), ss = hs ++ rs ∧ l ≤ k ∧ headerEndFrom first (.int l) (ss.map Stmt.toTree) = .ok (.int k) ∧
      behindHeader first (ss.map Stmt.toTree) = rs.map Stmt.toTree ∧ Layout k rs ∧
      ∀ s ∈ hs, s.span.stop.line ≤ k ∧ NoCall s.toTree := by
  induction h generalizing first with
  | @nil l => exact ⟨l, [], [], rfl, Nat.le_refl _, rfl, rfl, .nil, nofun⟩
  | @cons l m s ss behind own starts stops nodes rest ih =>
    obtain ⟨b, isHeader_eq, noCall⟩ := isHeader_toTree first s
    cases b with
    | false =>
      refine ⟨l, [], s :: ss, rfl, Nat.le_refl _, ?_, ?_, .cons behind own starts stops nodes rest, nofun⟩
      · simp only [List.map_cons, headerEndFrom, isHeader_eq]
        rfl
      · simp only [List.map_cons, behindHeader, isHeader_eq]
    | true =>
      obtain ⟨k, hs, rs, rfl, le, header, behindEq, layout, each⟩ := ih false
      have endLine : s.toTree.field .endLineno = .ok (.int s.span.stop.line) := by
        rw [Tree.field, s.toTree_hasExtent.endLine]
        rfl
      refine ⟨k, s :: hs, rs, rfl, by omega, ?_, ?_, layout, List.forall_mem_cons.2 ⟨⟨le, noCall rfl⟩, each⟩⟩
      · simp only [List.map_cons, headerEndFrom, isHeader_eq, endLine]
        exact header
      · simp only [List.map_cons, behindHeader, isHeader_eq]
        exact behindEq

/-- A call of a member in what stands from line `m` on starts there or behind. -/
theorem respects_memberCall (m : Nat) : Respects m fun c => MemberCall c → ∀ x, c.HasExtent x → (m : Int) ≤ x.line where
  other call _ member := absurd (isA_iff.1 member.isCall) (by simpa [cls?] using call)
  call := by
    intro s f as ks here _ x extent
    have line : m ≤ s.start.line := here.1
    have same := extent.line.symm.trans (show (Expr.call s f as ks).toTree.field? .lineno = some (.int s.start.line) from rfl)
    simp only [Option.some.injEq, Tree.int.injEq] at same
    omega
  name _ member := by cases member.isCall

/-- Statements behind line `k` call members on that line or behind it, and behind it if they start there. -/
theorem calls_of_layout {k : Nat} {rs : List Stmt} (h : Layout k rs) {s : Stmt} (hs : s ∈ rs) :
    (s.toTree.Everywhere fun c => MemberCall c → ∀ x, c.HasExtent x → (k : Int) ≤ x.line) ∧
      (k < s.span.start.line → s.toTree.Everywhere fun c => MemberCall c → ∀ x, c.HasExtent x → (k : Int) < x.line) := by
  obtain ⟨-, m, behind, -, own, nodes⟩ := h.forall_mem s hs
  have calls := Stmt.everywhere_of_below (nodes (respects_memberCall m))
  refine ⟨calls.mono fun c call member x extent => ?_, fun starts => calls.mono fun c call member x extent => ?_⟩
  · have := call member x extent
    omega
  · have := call member x extent
    omega

/-- Statements behind line `k` keep off it if those that start there end there and call no member there. -/
theorem layout_separates {k : Nat} {rs : List Stmt} (h : Layout k rs) (clear : ∀ s ∈ rs, ClearsLine k s.toTree) {s : Stmt}
    (hs : s ∈ rs) : (s.span.stop.line ≤ k ∨ k < s.span.start.line) ∧ CallsBehind k s.toTree := by
  obtain ⟨lines, m, behind, starts, -⟩ := h.forall_mem s hs
  obtain ⟨onLine, behindLine⟩ := calls_of_layout h hs
  by_cases first : s.span.start.line = k
  · obtain ⟨stop, noCall⟩ := clear s hs _ s.toTree_hasExtent (by simp [Span.extent, first])
    simp only [Span.extent] at stop
    refine ⟨by omega, fun a c at_c member x extent => ?_⟩
    have := onLine a c at_c member x extent
    have := noCall a c at_c member x extent
    omega
  · exact ⟨by omega, behindLine (by omega)⟩

/-- The header of a module that is read. -/
theorem headerEnd_layout {source : List Char} {tree : Tree} (h : readTree .module source = .ok tree) :
    ∃ (k : Nat) (hs rs : List Stmt), tree = (Program.module (hs ++ rs)).toTree ∧ headerEnd tree = .ok (.int k) ∧
      tree.field? .body = some (.list ((hs ++ rs).map Stmt.toTree)) ∧
      behindHeader true ((hs ++ rs).map Stmt.toTree) = rs.map Stmt.toTree ∧ Layout k rs ∧
      ∀ s ∈ hs, s.span.stop.line ≤ k ∧ NoCall s.toTree := by
  obtain ⟨ss, rfl, layout⟩ := readTree_layout h
  obtain ⟨k, hs, rs, rfl, -, header, behind, layout, inHeader⟩ := headerEndFrom_layout layout true
  have body : (Program.module (hs ++ rs)).toTree.field? .body = some (.list ((hs ++ rs).map Stmt.toTree)) := by
    rw [← stmtTrees_eq_map]
    rfl
  refine ⟨k, hs, rs, rfl, ?_, body, behind, layout, inHeader⟩
  rw [headerEnd, Tree.field, body]
  exact header

/-- The last line of the header separates it from what follows, unless a statement behind the header starts on that line and goes on
behind it, or calls a member on it. -/
theorem headerEnd_separates {source : List Char} {tree : Tree} (h : readTree .module source = .ok tree) :
    ∃ k body, headerEnd tree = .ok (.int k) ∧ tree.field? .body = some (.list body) ∧
      (Parts k body ∧ CallsBehind k tree ↔ ∀ s ∈ behindHeader true body, ClearsLine k s) := by
  obtain ⟨k, hs', rs, rfl, ends, body, behind, layout, inHeader⟩ := headerEnd_layout h
  refine ⟨k, _, ends, body, ?_⟩
  rw [behind]
  constructor
  · rintro ⟨parts, calls⟩
    refine List.forall_mem_map.2 fun s hs x extent line => ?_
    have mem : s.toTree ∈ (hs' ++ rs).map Stmt.toTree := List.mem_map_of_mem (List.mem_append_right _ hs)
    have part := parts _ mem x extent
    have lines := (layout.forall_mem s hs).1
    obtain rfl := extent.unique s.toTree_hasExtent
    refine ⟨?_, (calls.child (module_children.2 mem)).mono fun c call member y extent => ?_⟩
    · simp only [Span.extent] at line part ⊢
      omega
    · exact Int.ne_of_gt (call member y extent)
  · intro clear
    have separate := fun s hs => layout_separates layout (List.forall_mem_map.1 clear) (s := s) hs
    refine ⟨List.forall_mem_map.2 fun s hs x extent => ?_, everywhere_of_children nofun fun u hu => ?_⟩
    · obtain rfl := extent.unique s.toTree_hasExtent
      simp only [Span.extent]
      rcases List.mem_append.1 hs with hs | hs
      · have := (inHeader s hs).1
        omega
      · have := (separate s hs).1
        omega
    · obtain ⟨s, hs, rfl⟩ := List.mem_map.1 (module_children.1 hu)
      rcases List.mem_append.1 hs with hs | hs
      · refine (inHeader s hs).2.mono fun c noCall member => ?_
        rw [member.isCall] at noCall
        cases noCall
      · exact (separate s hs).2

/-- A module whose header shares its last line with another statement. -/
def sharedHeader : List Char := "'''d'''\nimport os; x = f(1)\n@a.b('y')\ndef g(): pass\n".toList

theorem headerEnd_separates_shared :
    ∃ tree body, readTree .module sharedHeader = .ok tree ∧ headerEnd tree = .ok (.int 2) ∧
      tree.field? .body = some (.list body) ∧ Parts 2 body ∧ CallsBehind 2 tree := by
  have run : ((readTree .module sharedHeader).toOption.any fun tree =>
      (headerEnd tree).toOption.any (·.int? == some 2) && (tree.fieldD .body).items?.any fun body =>
        (behindHeader true body).all fun s => (s.fieldD .lineno).int? != some 2 ||
          ((s.fieldD .endLineno).int? == some 2 && s.walk.toOption.any fun nodes =>
            nodes.all fun c => !(c.isA .call && (c.fieldD .func).isA .member))) = true := by decide +kernel
  obtain ⟨tree, read, run⟩ := Tree.any_toOption.1 run
  obtain ⟨k, body, ends, body_eq, separates⟩ := headerEnd_separates read
  simp only [ends, fieldD_eq body_eq, Bool.and_eq_true, Except.toOption, Option.any_some, beq_iff_eq, Tree.int?, Tree.items?,
    Option.some.injEq, List.all_eq_true, Bool.or_eq_true, bne_iff_ne] at run
  obtain ⟨rfl, checked⟩ := run
  refine ⟨tree, body, read, ends, body_eq, separates.2 fun s hs x extent line => ?_⟩
  rcases checked s hs with other | ⟨stop, walked⟩
  · rw [fieldD_eq extent.line] at other
    exact absurd (congrArg some line) other
  · rw [fieldD_eq extent.endLine] at stop
    obtain ⟨nodes, walk, noMember⟩ := Tree.any_toOption.1 walked
    refine ⟨Option.some.inj stop, fun a c at_c member => ?_⟩
    obtain ⟨f, func, isMember⟩ := member.callee
    have checked := List.all_eq_true.1 noMember c ((mem_of_walk walk).2 ⟨a, at_c⟩)
    rw [member.isCall, fieldD_eq func, isMember] at checked
    cases checked

/-- A module that calls a member on the last line of its header. -/
def crowdedHeader : List Char := "import a; a.b('x')\n".toList

theorem headerEnd_not_separates : ∃ tree, readTree .module crowdedHeader = .ok tree ∧ headerEnd tree = .ok (.int 1) ∧
    ¬ CallsBehind 1 tree := by
  have run : ((readTree .module crowdedHeader).toOption.any fun tree =>
      (headerEnd tree).toOption.any (·.int? == some 1) && tree.walk.toOption.any fun nodes =>
        nodes.any fun c => c.isA .call && (c.fieldD .func).isA .member && (c.fieldD .lineno).int? == some 1) = true := by
    decide +kernel
  obtain ⟨tree, read, run⟩ := Tree.any_toOption.1 run
  obtain ⟨k, -, -, -, ends, -⟩ := headerEnd_layout read
  simp only [ends, Bool.and_eq_true, Except.toOption, Option.any_some, beq_iff_eq, Tree.int?, Option.some.injEq] at run
  obtain ⟨first, walked⟩ := run
  obtain ⟨nodes, walk, found⟩ := Tree.any_toOption.1 walked
  obtain ⟨c, mem, checked⟩ := List.any_eq_true.1 found
  simp only [Bool.and_eq_true, beq_iff_eq] at checked
  obtain ⟨⟨isCall, isMember⟩, line⟩ := checked
  obtain ⟨a, at_c⟩ := (mem_of_walk walk).1 mem
  have conforms := (readTree_wellFormed read) a c at_c
  obtain ⟨x, extent⟩ := conforms.position isCall rfl
  obtain ⟨f, func, -⟩ := conforms.one isCall (f := .func) (g := .expr) (by decide)
  rw [fieldD_eq func] at isMember
  rw [fieldD_eq extent.line] at line
  rw [first] at ends
  refine ⟨tree, read, ends, fun behind => ?_⟩
  have := behind a c at_c ⟨isCall, f, func, isMember⟩ x extent
  have := Option.some.inj line
  omega

end CallLint.Fix

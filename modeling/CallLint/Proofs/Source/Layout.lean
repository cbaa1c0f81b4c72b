import CallLint.Proofs.Source.PlacedTree
import CallLint.Proofs.Source.StmtSound
import CallLint.Proofs.Source.WellFormed

/-!
# The layout of a module

The statements of a module follow each other line by line, each on the lines of its tokens (`Layout`). A statement may start on the
line where the one before it ends, but then it begins with its own first line: decorators stand before the line of their definition,
and only a line break ends the statement before them.
-/

namespace CallLint.Source

open Parse Grammar CallLint.Tree

/-- The span of a statement. -/
def Stmt.span : Stmt → Span
  | .functionDef s .. | .classDef s .. | .returnStmt s .. | .delete s .. | .assign s .. | .augAssign s .. | .annAssign s ..
  | .forStmt s .. | .whileStmt s .. | .ifStmt s .. | .withStmt s .. | .matchStmt s .. | .raiseStmt s .. | .tryStmt s ..
  | .assertStmt s .. | .importStmt s .. | .importFrom s .. | .globalStmt s .. | .nonlocalStmt s .. | .exprStmt s ..
  | .passStmt s | .breakStmt s | .continueStmt s => s

/-- The lines and columns of a span. -/
def Span.extent (s : Span) : Extent := ⟨s.start.line, s.start.column, s.stop.line, s.stop.column⟩

theorem Stmt.toTree_hasExtent (x : Stmt) : x.toTree.HasExtent x.span.extent := by
  cases x with
  | functionDef s isAsync | forStmt s isAsync | withStmt s isAsync | tryStmt s isAsync =>
    cases isAsync <;> exact ⟨rfl, rfl, rfl, rfl⟩
  | _ => exact ⟨rfl, rfl, rfl, rfl⟩

/-! ### Ends of lines -/

/-- Tokens that end a line, with nothing but marks behind its end. -/
def EndsLine (ts : List Token) : Prop := ∃ us n vs, ts = us ++ n :: vs ∧ n.kind = .newline ∧ ∀ t ∈ vs, isMark t.kind = true

section EndsLine

variable {ts us : List Token}

theorem EndsLine.behind (h : EndsLine us) (ts : List Token) : EndsLine (ts ++ us) := by
  obtain ⟨before, n, vs, rfl, kind, marks⟩ := h
  exact ⟨ts ++ before, n, vs, (List.append_assoc ..).symm, kind, marks⟩

theorem EndsLine.cons (h : EndsLine ts) (t : Token) : EndsLine (t :: ts) := h.behind [t]

theorem EndsLine.mark (h : EndsLine ts) {t : Token} (mark : isMark t.kind = true) : EndsLine (ts ++ [t]) := by
  obtain ⟨before, n, vs, rfl, kind, marks⟩ := h
  refine ⟨before, n, vs ++ [t], by simp, kind, List.forall_mem_append.2 ⟨marks, List.forall_mem_singleton.2 mark⟩⟩

theorem LinePhrase.endsLine {ss : List Stmt} (h : LinePhrase ts ss) : EndsLine ts := by
  obtain @⟨ts, cs, -, -, p, -, -⟩ := h
  exact ⟨ts ++ cs, ⟨.newline, p⟩, [], (List.append_assoc ..).symm, rfl, nofun⟩

/-- What follows an end of line starts behind the line. -/
theorem EndsLine.exists_line (h : EndsLine ts) (on : ∀ t ∈ ts, t.On 0) (ordered : (ts ++ us).Pairwise Token.Precedes) :
    ∃ n, (∀ t ∈ ts, isMark t.kind = false → t.span.stop.line ≤ n) ∧ ∀ u ∈ us, n < u.span.start.line := by
  obtain ⟨before, n, vs, rfl, kind, marks⟩ := h
  obtain ⟨inner, -, across⟩ := List.pairwise_append.1 ordered
  refine ⟨n.span.stop.line, fun t ht solid => ?_, fun u hu => ?_⟩
  · rcases List.mem_append.1 ht with ht | ht
    · have precedes := (List.pairwise_append.1 inner).2.2 t ht n List.mem_cons_self
      have := (on n (List.mem_append_right _ List.mem_cons_self)).ordered
      have := precedes.line
      omega
    · rcases List.mem_cons.1 ht with rfl | ht
      · exact Nat.le_refl _
      · rw [marks t ht] at solid
        cases solid
  · exact (across n (List.mem_append_right _ List.mem_cons_self) u hu).newline kind

end EndsLine

/-- Whether statements of a form may have no tokens. -/
def StmtForm.isOptional : StmtForm → Bool
  | statements | orelse _ | branches | handlers _ | cases => true
  | _ => false

/-- Tokens that end a line, or no tokens where a form allows it. -/
inductive StmtForm.Ends (f : StmtForm) (ts : List Token) : Prop where
  | none (optional : f.isOptional = true) (h : ts = []) : Ends f ts
  | line (h : EndsLine ts) : Ends f ts

theorem StmtForm.Ends.required {f : StmtForm} {ts : List Token} (h : f.Ends ts) (required : f.isOptional = false) :
    EndsLine ts := by
  cases h with
  | none optional => cases required.symm.trans optional
  | line h => exact h

theorem StmtForm.Ends.behind {f : StmtForm} {ts us : List Token} (h : f.Ends us) (first : EndsLine ts) : EndsLine (ts ++ us) := by
  cases h with
  | none _ h =>
    rw [h, List.append_nil]
    exact first
  | line h => exact h.behind ts

/-- Statements end a line. -/
theorem StmtPhrase.ends {f : StmtForm} {ts : List Token} {v : f.Value} (h : StmtPhrase f ts v) : f.Ends ts := by
  induction h with
  | line h | inline h => exact .line h.endsLine
  | compound _ ih => exact .line (ih.required rfl)
  | noStatement | noOrelse | noHandler | noCase => exact .none rfl rfl
  | furtherStatement _ _ ih ih' | furtherHandler _ _ ih ih' | furtherCase _ _ ih ih' => exact .line (ih'.behind (ih.required rfl))
  | indented p q r _ _ ih ih' =>
    have closed := (ih'.behind (ih.required rfl)).mark (t := ⟨.dedent, r⟩) rfl
    rw [List.append_assoc] at closed
    exact .line ((closed.cons _).cons _)
  | orelse _ _ _ ih | catchAll _ _ _ ih => exact .line (((ih.required rfl).cons _).cons _)
  | definition _ _ ih => exact .line ((ih.required rfl).behind _)
  | lastBranch _ ih =>
    cases ih with
    | none _ h => exact .none rfl h
    | line h => exact .line h
  | tryFinally _ _ _ _ _ ih ih' => exact .line (((ih'.behind (ih.required rfl)).cons _).cons _)
  | tryExcept _ _ _ _ _ _ _ ih ih' ih₂ ih₃ =>
    have closed := ih₃.behind (ih₂.behind (ih'.behind (ih.required rfl)))
    simp only [List.append_assoc] at closed
    exact .line ((closed.cons _).cons _)
  | conditional _ _ _ _ _ ih ih' | whileLoop _ _ _ _ _ ih ih' | branch _ _ _ _ _ ih ih' =>
    exact .line ((((ih'.behind (ih.required rfl)).cons _).behind _).cons _)
  | ofClass _ _ _ _ _ _ ih => exact .line (((((ih.required rfl).cons _).behind _).cons _).cons _)
  | case _ _ _ _ _ ih => exact .line (((((ih.required rfl).cons _).behind _).behind _).cons _)
  | catch_ _ _ _ _ _ _ ih => exact .line ((((((ih.required rfl).cons _).behind _).behind _).behind _).cons _)
  | withBlock _ _ _ _ _ ih => exact .line (((((ih.required rfl).cons _).behind _).cons _).behind _)
  | forLoop _ _ _ _ _ _ _ _ _ ih ih' =>
    exact .line (((((((ih'.behind (ih.required rfl)).cons _).behind _).cons _).behind _).cons _).behind _)
  | function _ _ _ _ _ _ _ _ _ _ ih =>
    exact .line (((((((((ih.required rfl).cons _).behind _).cons _).behind _).cons _).cons _).cons _).behind _)
  | matching _ _ _ _ r _ _ _ _ ih ih' =>
    have closed := (ih'.behind (ih.required rfl)).mark (t := ⟨.dedent, r⟩) rfl
    rw [List.append_assoc] at closed
    exact .line (((((closed.cons _).cons _).cons _).behind _).cons _)

/-! ### Spans of statements -/

/-- An end is the one before the tokens, or that of one of them that is no mark. -/
theorem endOf_mem (last : Pos) (ts : List Token) :
    endOf last ts = last ∨ ∃ t ∈ ts, isMark t.kind = false ∧ endOf last ts = t.span.stop := by
  induction ts generalizing last with
  | nil => exact .inl rfl
  | cons t ts ih =>
    rcases ih (if isMark t.kind then last else t.span.stop) with eq | ⟨u, hu, solid, eq⟩
    · cases mark : isMark t.kind with
      | false =>
        rw [mark] at eq
        exact .inr ⟨t, List.mem_cons_self, mark, by rw [endOf, List.foldl_cons, mark]; exact eq⟩
      | true =>
        rw [mark] at eq
        exact .inl (by rw [endOf, List.foldl_cons, mark]; exact eq)
    · exact .inr ⟨u, List.mem_cons_of_mem t hu, solid, eq⟩

/-- Tokens end where one of them does that is no mark. -/
theorem spanOf_stop {ts : List Token} (h : Solid ts) : ∃ t ∈ ts, isMark t.kind = false ∧ (spanOf ts).stop = t.span.stop := by
  obtain ⟨t, ht, solid⟩ := h
  obtain ⟨before, behind, rfl⟩ := List.append_of_mem ht
  have eq : (spanOf (before ++ t :: behind)).stop = endOf t.span.stop behind := by
    rw [spanOf, endOf_append, endOf, List.foldl_cons, solid]
    rfl
  rw [eq]
  rcases endOf_mem t.span.stop behind with eq | ⟨u, hu, solid, eq⟩
  · exact ⟨t, ht, ‹_›, eq⟩
  · exact ⟨u, List.mem_append_right _ (List.mem_cons_of_mem t hu), solid, eq⟩

/-- Ordered tokens all stand on the line of the first one or behind it. -/
theorem on_first {t : Token} {ts : List Token} (on : ∀ u ∈ t :: ts, u.On 0) (ordered : (t :: ts).Pairwise Token.Precedes) :
    ∀ u ∈ t :: ts, u.On t.span.start.line := by
  obtain ⟨precedes, -⟩ := List.pairwise_cons.1 ordered
  obtain ⟨first, rest⟩ := List.forall_mem_cons.1 on
  refine List.forall_mem_cons.2 ⟨⟨Nat.le_refl _, first.ordered, first.name⟩, fun u hu => ?_⟩
  have := first.ordered
  have := (precedes u hu).line
  exact ⟨by omega, (rest u hu).ordered, (rest u hu).name⟩

/-- Where a definition stands is where its tokens are, decorators apart. -/
theorem StmtPhrase.definition_span {es : List Expr} {ts : List Token} {s : Stmt} (h : StmtPhrase (.definition es) ts s) :
    Solid ts ∧ s.span = spanOf ts := by
  cases h with
  | function => exact ⟨(solid_cons rfl).right, rfl⟩
  | ofClass => exact ⟨solid_cons rfl, rfl⟩

theorem SimplePhrase.span_eq {ts : List Token} {s : Stmt} (h : SimplePhrase ts s) : Solid ts ∧ s.span = spanOf ts := by
  cases h with
  | @word w f p h => cases w <;> cases h <;> exact ⟨solid_cons rfl, rfl⟩
  | @declaration w f ts ns p h => cases w <;> cases h <;> exact ⟨solid_cons rfl, rfl⟩
  | expression h => exact ⟨h.solid, rfl⟩
  | augmented p target => exact ⟨(target.solid rfl).left, rfl⟩
  | annotated p target => exact ⟨(target.solid rfl).left, rfl⟩
  | assign _ value => exact ⟨value.solid.right, rfl⟩
  | _ => exact ⟨solid_cons rfl, rfl⟩

/-- A compound statement is a definition behind its decorators, or stands where its tokens are. -/
theorem StmtPhrase.compound_span {ts : List Token} {s : Stmt} (h : StmtPhrase .compound ts s) :
    ∃ ds us, ts = ds ++ us ∧ Solid us ∧ s.span = spanOf us := by
  cases h with
  | @definition ds us es s _ inner => exact ⟨ds, us, rfl, inner.definition_span⟩
  | _ => exact ⟨[], _, rfl, by first | exact solid_cons rfl | exact (solid_cons rfl).right, rfl⟩

theorem spanOf_lines {ts : List Token} (solid : Solid ts) (on : ∀ t ∈ ts, t.On 0) (ordered : ts.Pairwise Token.Precedes) :
    (spanOf ts).start.line ≤ (spanOf ts).stop.line := by
  obtain ⟨u, hu, -, stop⟩ := spanOf_stop solid
  cases ts with
  | nil => cases hu
  | cons t ts =>
    have onFirst := on_first on ordered u hu
    rw [stop]
    exact Nat.le_trans onFirst.line onFirst.ordered

/-! ### Statements line by line -/

/-- Statements line by line behind the end of something on line `l`. A statement begins on line `m`, with its decorators if it has
some; those stand on lines of their own. -/
inductive Layout : Nat → List Stmt → Prop where
  | nil {l : Nat} : Layout l []
  | cons {l m : Nat} {s : Stmt} {ss : List Stmt} (behind : l ≤ m) (own : l < m ∨ m = s.span.start.line)
      (starts : m ≤ s.span.start.line) (stops : s.span.start.line ≤ s.span.stop.line)
      (nodes : ∀ {P}, Respects m P → Below P s.toTree) (rest : Layout s.span.stop.line ss) : Layout l (s :: ss)

section Layout

variable {l n : Nat} {ts us : List Token} {s : Stmt} {ss rs : List Stmt}

theorem Layout.mono (h : Layout n ss) (le : l ≤ n) : Layout l ss := by
  cases h with
  | nil => exact .nil
  | cons behind own starts stops nodes rest =>
    exact .cons (Nat.le_trans le behind) (own.imp_left (Nat.lt_of_le_of_lt le)) starts stops nodes rest

/-- What the layout says of each statement. -/
theorem Layout.forall_mem (h : Layout l ss) : ∀ s ∈ ss, s.span.start.line ≤ s.span.stop.line ∧
    ∃ m, l ≤ m ∧ m ≤ s.span.start.line ∧ (l < m ∨ m = s.span.start.line) ∧ ∀ {P}, Respects m P → Below P s.toTree := by
  induction h with
  | nil => nofun
  | @cons l m s ss behind own starts stops nodes rest ih =>
    refine List.forall_mem_cons.2 ⟨⟨stops, m, behind, starts, own, nodes⟩, fun u hu => ?_⟩
    obtain ⟨lines, m', behind', starts', own', nodes'⟩ := ih u hu
    exact ⟨lines, m', by omega, starts', by omega, nodes'⟩

theorem SimplePhrase.layout (h : SimplePhrase ts s) (on : ∀ t ∈ ts, t.On 0) (ordered : ts.Pairwise Token.Precedes)
    (behind : ∀ t ∈ ts, l ≤ t.span.start.line) (rest : Layout s.span.stop.line ss) : Layout l (s :: ss) := by
  obtain ⟨solid, span⟩ := h.span_eq
  have lines := spanOf_lines solid on ordered
  cases ts with
  | nil =>
    obtain ⟨_, mem, -⟩ := solid
    cases mem
  | cons t ts =>
    have start : s.span.start.line = t.span.start.line := by rw [span]; rfl
    exact .cons (m := t.span.start.line) (behind t List.mem_cons_self) (.inr start.symm) (Nat.le_of_eq start.symm)
      (by rw [span]; exact lines) (fun ok => h.below_tree ok (on_first on ordered)) rest

theorem SimplePhrase.exists_stop (h : SimplePhrase ts s) : ∃ t ∈ ts, isMark t.kind = false ∧ s.span.stop = t.span.stop := by
  obtain ⟨solid, span⟩ := h.span_eq
  rw [span]
  exact spanOf_stop solid

theorem Each.layout (h : Each (.punct .semicolon) SimplePhrase ts ss) (on : ∀ t ∈ ts, t.On 0)
    (ordered : ts.Pairwise Token.Precedes) (behind : ∀ t ∈ ts, l ≤ t.span.start.line)
    (stops : ∀ t ∈ ts, isMark t.kind = false → t.span.stop.line ≤ n) (le : l ≤ n) (rest : Layout n rs) : Layout l (ss ++ rs) := by
  induction h generalizing l with
  | nil => exact rest.mono le
  | @cons ts us s ss p first further ih =>
    simp only [List.forall_mem_cons, List.forall_mem_append] at on behind stops
    obtain ⟨inFirst, inRest, across⟩ := List.pairwise_append.1 (List.pairwise_cons.1 ordered).2
    obtain ⟨t, ht, solid, stop⟩ := first.exists_stop
    refine first.layout on.2.1 inFirst behind.2.1 (ih on.2.2 inRest (fun u hu => ?_) stops.2.2 ?_)
    · rw [stop]
      exact (across t ht u hu).line
    · rw [stop]
      exact stops.2.1 t ht solid

theorem LinePhrase.layout (h : LinePhrase ts ss) (on : ∀ t ∈ ts, t.On 0) (ordered : ts.Pairwise Token.Precedes)
    (behind : ∀ t ∈ ts, l ≤ t.span.start.line) (stops : ∀ t ∈ ts, isMark t.kind = false → t.span.stop.line ≤ n)
    (rest : Layout n rs) : Layout l (ss ++ rs) := by
  obtain @⟨ts, cs, ss, b, p, ⟨first, further⟩, -⟩ := h
  simp only [List.forall_mem_append] at on behind stops
  obtain ⟨inFirst, inRest, across⟩ := List.pairwise_append.1 (List.pairwise_append.1 ordered).1
  obtain ⟨t, ht, solid, stop⟩ := first.exists_stop
  refine first.layout on.1.1 inFirst behind.1.1 (further.layout on.1.2 inRest (fun u hu => ?_) stops.1.2 ?_ rest)
  · rw [stop]
    exact (across t ht u hu).line
  · rw [stop]
    exact stops.1.1 t ht solid

theorem StmtPhrase.compound_layout (h : StmtPhrase .compound ts s) (on : ∀ t ∈ ts, t.On 0)
    (ordered : ts.Pairwise Token.Precedes) (behind : ∀ t ∈ ts, l < t.span.start.line)
    (stops : ∀ t ∈ ts, isMark t.kind = false → t.span.stop.line ≤ n) (rest : Layout n ss) : Layout l (s :: ss) := by
  obtain ⟨ds, us, rfl, solid, span⟩ := h.compound_span
  have lines := spanOf_lines solid (List.forall_mem_append.1 on).2 (List.pairwise_append.1 ordered).2.1
  obtain ⟨u, hu, notMark, stop⟩ := spanOf_stop solid
  cases tokens : ds ++ us with
  | nil =>
    rw [(List.append_eq_nil_iff.1 tokens).2] at hu
    cases hu
  | cons t ts =>
    rw [tokens] at on ordered
    have onFirst := on_first on ordered
    rw [← tokens] at onFirst
    have below : l < t.span.start.line := behind t (by rw [tokens]; exact List.mem_cons_self)
    refine .cons (m := t.span.start.line) (Nat.le_of_lt below) (.inl below) ?_ (by rw [span]; exact lines)
      (fun ok => h.trees_below ok onFirst nofun _ List.mem_cons_self) (rest.mono ?_)
    · rw [span]
      exact line_le_spanOf (List.ne_nil_of_mem hu) (List.forall_mem_append.1 onFirst).2
    · rw [span, stop]
      exact stops u (List.mem_append_right _ hu) notMark

theorem StmtPhrase.shorter {ts : List Token} {ss : List Stmt} (h : StmtPhrase .statement ts ss) (us : List Token) :
    us.length < (ts ++ us).length := by
  obtain ⟨before, n, marks, rfl, -, -⟩ := h.ends.required rfl
  simp only [List.length_append, List.length_cons]
  omega

/-- The statements of a module are laid out line by line. -/
theorem StmtPhrase.layout {ts : List Token} {ss : List Stmt} {l : Nat} (h : StmtPhrase .statements ts ss) (on : ∀ t ∈ ts, t.On 0)
    (ordered : ts.Pairwise Token.Precedes) (behind : ∀ t ∈ ts, l < t.span.start.line) : Layout l ss := by
  cases h with
  | noStatement => exact .nil
  | @furtherStatement ts us ss rs first rest =>
    obtain ⟨onFirst, onRest⟩ := List.forall_mem_append.1 on
    obtain ⟨inFirst, inRest, -⟩ := List.pairwise_append.1 ordered
    obtain ⟨behindFirst, -⟩ := List.forall_mem_append.1 behind
    obtain ⟨n, stops, starts⟩ := (first.ends.required rfl).exists_line onFirst ordered
    have shorter := first.shorter us
    have later := rest.layout onRest inRest starts
    cases first with
    | line h => exact h.layout onFirst inFirst (fun t ht => Nat.le_of_lt (behindFirst t ht)) stops later
    | compound h => exact h.compound_layout onFirst inFirst behindFirst stops later
termination_by ts.length

end Layout

/-- What a module that is read stands for, with its tokens. -/
theorem readTree_module {source : List Char} {tree : Tree} (h : readTree .module source = .ok tree) :
    ∃ ts ss rest, lex ⟨1, 0⟩ (Mode.prepare .module source) = some (ts ++ rest) ∧ StmtPhrase .statements ts ss ∧
      tree = (Program.module ss).toTree := by
  obtain ⟨tokens, program, s', lexed, run, rfl⟩ := readTree_eq_ok h
  obtain ⟨ts, ss, p, taken, stmts, rfl⟩ := moduleRule_reads run
  refine ⟨ts, ss, ⟨.stop, p⟩ :: s'.tokens, ?_, stmts, rfl⟩
  rw [lexed, List.append_cons]
  exact congrArg some taken.tokens

/-- The statements of a module that is read are laid out line by line. -/
theorem readTree_layout {source : List Char} {tree : Tree} (h : readTree .module source = .ok tree) :
    ∃ ss, tree = (Program.module ss).toTree ∧ Layout 0 ss := by
  obtain ⟨ts, ss, rest, lexed, stmts, rfl⟩ := readTree_module h
  obtain ⟨on, ordered⟩ := lex_ordered lexed
  have onFirst := (List.forall_mem_append.1 on).1
  exact ⟨ss, rfl, stmts.layout (fun t ht => (onFirst t ht).mono (Nat.zero_le _)) (List.pairwise_append.1 ordered).1
    fun t ht => (onFirst t ht).line⟩

theorem Stmt.everywhere_of_below {P : Tree → Prop} {s : Stmt} (h : Below P s.toTree) : s.toTree.Everywhere P :=
  h _ (by rw [nodesIn_of_isNode s.toTree_fits.1.isNode]; exact List.mem_cons_self)

theorem module_children {ss : List Stmt} {u : Tree} : u ∈ (Program.module ss).toTree.children ↔ u ∈ ss.map Stmt.toTree := by
  have nodes : ∀ u ∈ ss.map Stmt.toTree, u.isNode = true := List.forall_mem_map.2 fun s _ => s.toTree_fits.1.isNode
  have eq : (Program.module ss).toTree.children = nodesIn (.list (stmtTrees ss)) ++ (nodesIn (.list []) ++ []) := rfl
  rw [eq, stmtTrees_eq_map]
  simp only [nodesIn, List.filter_nil, List.append_nil, List.mem_filter]
  exact ⟨And.left, fun mem => ⟨mem, nodes u mem⟩⟩

/-- What asks only that names are in normal form holds everywhere in a module that is read. -/
theorem readTree_everywhere {source : List Char} {tree : Tree} {P : Tree → Prop} (h : readTree .module source = .ok tree)
    (ok : ∀ l : Nat, Respects l P) : tree.Everywhere P := by
  obtain ⟨ss, rfl, layout⟩ := readTree_layout h
  refine everywhere_of_children ((ok 0).other (by decide) (by decide)) fun u hu => ?_
  obtain ⟨s, hs, rfl⟩ := List.mem_map.1 (module_children.1 hu)
  obtain ⟨-, m, -, -, -, nodes⟩ := layout.forall_mem s hs
  exact Stmt.everywhere_of_below (nodes (ok m))

/-- The names of a module that is read are in normal form. -/
theorem readTree_names {source : List Char} {tree : Tree} (h : readTree .module source = .ok tree) :
    tree.Everywhere fun u => u.isA .name = true → ∃ id, u.field? .id = some (.text id) ∧ IsName id :=
  readTree_everywhere h fun _ =>
    { other := fun _ name isName => absurd (isA_iff.1 isName) (by simpa [cls?] using name)
      call := fun _ isName => by cases isName
      name := fun {_ id _} here _ => ⟨id, rfl, here.2 _ _ _ rfl⟩ }

end CallLint.Source

import CallLint.Proofs.Tree.Kinds
import CallLint.Source.Program

/-!
# Trees of sources are well formed

Each constructor of the syntax writes the fields of its class in visiting order, each of its kind, so the tree of a
program is well formed by induction over the program (`Program.toTree_wellFormed`), and so is every tree that is read
(`readTree_wellFormed`).
-/

namespace CallLint.Source

open CallLint.Tree

theorem located_wellFormed (s : Span) {c : NodeClass} {fs : List (Field × Tree)} (h : Fitting c.signature fs) :
    (located s c fs).WellFormed := by
  refine wellFormed_node h fun _ => ⟨⟨s.start.line, s.start.column, s.stop.line, s.stop.column⟩, ?_⟩
  obtain ⟨line, column, endLine, endColumn⟩ := c.position_not_field
  rw [← c.signature_fields] at line column endLine endColumn
  constructor
  · rw [field?, h.lookup_behind line]; rfl
  · rw [field?, h.lookup_behind column]; rfl
  · rw [field?, h.lookup_behind endLine]; rfl
  · rw [field?, h.lookup_behind endColumn]; rfl

theorem unlocated_wellFormed {c : NodeClass} {fs : List (Field × Tree)} (h : Fitting c.signature fs) (no : c.positioned = false) :
    (Tree.node c fs).WellFormed := by
  rw [← List.append_nil fs]
  exact wellFormed_node h fun yes => absurd (no.symm.trans yes) (by decide)

theorem marker_wellFormed {c : NodeClass} (sig : c.signature = []) (no : c.positioned = false) :
    (marker c).WellFormed :=
  unlocated_wellFormed (by rw [sig]; exact .nil) no

theorem located_fits (s : Span) {c : NodeClass} {g : Category} {fs : List (Field × Tree)} (group : c.category = g)
    (h : Fitting c.signature fs) : (Kind.one g).Fits (located s c fs) :=
  Kind.fits_one ⟨c, rfl, group⟩ (located_wellFormed s h)

theorem unlocated_fits {c : NodeClass} {g : Category} {fs : List (Field × Tree)} (group : c.category = g)
    (no : c.positioned = false) (h : Fitting c.signature fs) : (Kind.one g).Fits (.node c fs) :=
  Kind.fits_one ⟨c, rfl, group⟩ (unlocated_wellFormed h no)

section Leaves

theorem Context.toTree_fits (c : Context) : (Kind.one .context).Fits c.toTree := by
  cases c <;> exact Kind.fits_one ⟨_, rfl, rfl⟩ (marker_wellFormed rfl rfl)

theorem BoolOp.toTree_fits (op : BoolOp) : (Kind.one .boolOp).Fits op.toTree := by
  cases op <;> exact Kind.fits_one ⟨_, rfl, rfl⟩ (marker_wellFormed rfl rfl)

theorem BinOp.toTree_fits (op : BinOp) : (Kind.one .operator).Fits op.toTree := by
  cases op <;> exact Kind.fits_one ⟨_, rfl, rfl⟩ (marker_wellFormed rfl rfl)

theorem UnaryOp.toTree_fits (op : UnaryOp) : (Kind.one .unaryOp).Fits op.toTree := by
  cases op <;> exact Kind.fits_one ⟨_, rfl, rfl⟩ (marker_wellFormed rfl rfl)

theorem compareOps_fit (ops : List CompareOp) : (Kind.many .compareOp).Fits (.list (ops.map CompareOp.toTree)) := by
  refine Kind.fits_map (fun op => ?_) ops
  cases op <;> exact Kind.fits_one ⟨_, rfl, rfl⟩ (marker_wellFormed rfl rfl)

theorem Literal.toTree_fits (v : Literal) : Kind.plain.Fits v.toTree := by
  cases v <;> exact Kind.fits_of_no_nodes ⟨rfl, rfl⟩ rfl

theorem identifier_fits (t : Text) : Kind.identifier.Fits (.text t) := Kind.fits_of_no_nodes ⟨t, rfl⟩ rfl

theorem identifiers_fit (ts : List Text) : Kind.identifiers.Fits (.list (ts.map .text)) := by
  have each : ∀ u ∈ ts.map Tree.text, ∃ s, u = .text s := by
    intro u hu
    obtain ⟨s, -, rfl⟩ := List.mem_map.1 hu
    exact ⟨s, rfl⟩
  refine Kind.fits_of_no_nodes ⟨_, rfl, each⟩ (List.filter_eq_nil_iff.2 fun u hu => ?_)
  obtain ⟨s, rfl⟩ := each u hu
  exact Bool.false_ne_true

theorem optText_fits (t : Option Text) : Kind.optionalIdentifier.Fits (optText t) := by
  cases t with
  | none => exact Kind.fits_of_no_nodes (Or.inl rfl) rfl
  | some t => exact Kind.fits_of_no_nodes (Or.inr ⟨t, rfl⟩) rfl

theorem noComment_fits : Kind.optionalText.Fits .null := Kind.fits_of_no_nodes (Or.inl rfl) rfl

theorem kind_fits (unicode : Bool) : Kind.optionalText.Fits (if unicode then .text [.scalar 'u'] else .null) := by
  cases unicode with
  | false => exact noComment_fits
  | true => exact Kind.fits_of_no_nodes (Or.inr ⟨_, rfl⟩) rfl

theorem whole_fits (n : Int) : Kind.whole.Fits (.int n) := Kind.fits_of_no_nodes ⟨n, rfl⟩ rfl

end Leaves

mutual

theorem Expr.toTree_fits : (e : Expr) → (Kind.one .expr).Fits e.toTree
  | .boolOp s op vs => by
    rw [Expr.toTree]
    exact located_fits s rfl (.field op.toTree_fits (.field (exprTrees_fit vs) .nil))
  | .named s t v => by
    rw [Expr.toTree]
    exact located_fits s rfl (.field t.toTree_fits (.field v.toTree_fits .nil))
  | .binOp s l op r => by
    rw [Expr.toTree]
    exact located_fits s rfl (.field l.toTree_fits (.field op.toTree_fits (.field r.toTree_fits .nil)))
  | .unaryOp s op e => by
    rw [Expr.toTree]
    exact located_fits s rfl (.field op.toTree_fits (.field e.toTree_fits .nil))
  | .lambda s ps b => by
    rw [Expr.toTree]
    exact located_fits s rfl (.field ps.toTree_fits (.field b.toTree_fits .nil))
  | .ifExp s t b o => by
    rw [Expr.toTree]
    exact located_fits s rfl (.field t.toTree_fits (.field b.toTree_fits (.field o.toTree_fits .nil)))
  | .dict s ks vs => by
    rw [Expr.toTree]
    exact located_fits s rfl (.field (optExprTrees_fit ks) (.field (exprTrees_fit vs) .nil))
  | .set s es => by
    rw [Expr.toTree]
    exact located_fits s rfl (.field (exprTrees_fit es) .nil)
  | .listComp s e gs => by
    rw [Expr.toTree]
    exact located_fits s rfl (.field e.toTree_fits (.field (comprehensionTrees_fit gs) .nil))
  | .setComp s e gs => by
    rw [Expr.toTree]
    exact located_fits s rfl (.field e.toTree_fits (.field (comprehensionTrees_fit gs) .nil))
  | .dictComp s k v gs => by
    rw [Expr.toTree]
    exact located_fits s rfl (.field k.toTree_fits (.field v.toTree_fits (.field (comprehensionTrees_fit gs) .nil)))
  | .generator s e gs => by
    rw [Expr.toTree]
    exact located_fits s rfl (.field e.toTree_fits (.field (comprehensionTrees_fit gs) .nil))
  | .await s e => by
    rw [Expr.toTree]
    exact located_fits s rfl (.field e.toTree_fits .nil)
  | .yield s e => by
    rw [Expr.toTree]
    exact located_fits s rfl (.field (optExprTree_fits e) .nil)
  | .yieldFrom s e => by
    rw [Expr.toTree]
    exact located_fits s rfl (.field e.toTree_fits .nil)
  | .compare s l ops cs => by
    rw [Expr.toTree]
    exact located_fits s rfl (.field l.toTree_fits (.field (compareOps_fit ops) (.field (exprTrees_fit cs) .nil)))
  | .call s f as ks => by
    rw [Expr.toTree]
    exact located_fits s rfl (.field f.toTree_fits (.field (exprTrees_fit as) (.field (keywordTrees_fit ks) .nil)))
  | .formatted s e conversion spec => by
    rw [Expr.toTree]
    exact located_fits s rfl (.field e.toTree_fits (.field (whole_fits conversion) (.field (optExprTree_fits spec) .nil)))
  | .joined s vs => by
    rw [Expr.toTree]
    exact located_fits s rfl (.field (exprTrees_fit vs) .nil)
  | .constant s v unicode => by
    rw [Expr.toTree]
    exact located_fits s rfl (.field v.toTree_fits (.field (kind_fits unicode) .nil))
  | .member s e a c => by
    rw [Expr.toTree]
    exact located_fits s rfl (.field e.toTree_fits (.field (identifier_fits a) (.field c.toTree_fits .nil)))
  | .subscript s e i c => by
    rw [Expr.toTree]
    exact located_fits s rfl (.field e.toTree_fits (.field i.toTree_fits (.field c.toTree_fits .nil)))
  | .starred s e c => by
    rw [Expr.toTree]
    exact located_fits s rfl (.field e.toTree_fits (.field c.toTree_fits .nil))
  | .name s i c => by
    rw [Expr.toTree]
    exact located_fits s rfl (.field (identifier_fits i) (.field c.toTree_fits .nil))
  | .list s es c => by
    rw [Expr.toTree]
    exact located_fits s rfl (.field (exprTrees_fit es) (.field c.toTree_fits .nil))
  | .tuple s es c => by
    rw [Expr.toTree]
    exact located_fits s rfl (.field (exprTrees_fit es) (.field c.toTree_fits .nil))
  | .slice s l u t => by
    rw [Expr.toTree]
    exact located_fits s rfl (.field (optExprTree_fits l) (.field (optExprTree_fits u) (.field (optExprTree_fits t) .nil)))

theorem Keyword.toTree_fits : (k : Keyword) → (Kind.one .keyword).Fits k.toTree
  | .mk s a v => by
    rw [Keyword.toTree]
    exact located_fits s rfl (.field (optText_fits a) (.field v.toTree_fits .nil))

theorem Comprehension.toTree_fits : (g : Comprehension) → (Kind.one .comprehension).Fits g.toTree
  | .mk t i ifs isAsync => by
    rw [Comprehension.toTree]
    exact unlocated_fits rfl rfl (.field t.toTree_fits (.field i.toTree_fits (.field (exprTrees_fit ifs) (.field (whole_fits _) .nil))))

theorem Param.toTree_fits : (p : Param) → (Kind.one .arg).Fits p.toTree
  | .mk s n a => by
    rw [Param.toTree]
    exact located_fits s rfl (.field (identifier_fits n) (.field (optExprTree_fits a) (.field noComment_fits .nil)))

theorem Params.toTree_fits : (ps : Params) → (Kind.one .arguments).Fits ps.toTree
  | .mk posonly args vararg kwonly kwDefaults kwarg defaults => by
    rw [Params.toTree]
    exact unlocated_fits rfl rfl (.field (paramTrees_fit posonly) (.field (paramTrees_fit args)
      (.field (optParamTree_fits vararg) (.field (paramTrees_fit kwonly) (.field (optExprTrees_fit kwDefaults)
        (.field (optParamTree_fits kwarg) (.field (exprTrees_fit defaults) .nil)))))))

theorem exprTrees_fit : (es : List Expr) → (Kind.many .expr).Fits (.list (exprTrees es))
  | [] => by rw [exprTrees]; exact Kind.fits_nil
  | e :: es => by rw [exprTrees]; exact e.toTree_fits.cons (exprTrees_fit es)

theorem optExprTree_fits : (e : Option Expr) → (Kind.optional .expr).Fits (optExprTree e)
  | none => by rw [optExprTree]; exact Kind.fits_null
  | some e => by rw [optExprTree]; exact e.toTree_fits.optional

theorem optExprTrees_fit : (es : List (Option Expr)) → (Kind.manyOptional .expr).Fits (.list (optExprTrees es))
  | [] => by rw [optExprTrees]; exact Kind.fits_nil_optional
  | e :: es => by rw [optExprTrees]; exact (optExprTree_fits e).cons_optional (optExprTrees_fit es)

theorem keywordTrees_fit : (ks : List Keyword) → (Kind.many .keyword).Fits (.list (keywordTrees ks))
  | [] => by rw [keywordTrees]; exact Kind.fits_nil
  | k :: ks => by rw [keywordTrees]; exact k.toTree_fits.cons (keywordTrees_fit ks)

theorem comprehensionTrees_fit : (gs : List Comprehension) →
    (Kind.many .comprehension).Fits (.list (comprehensionTrees gs))
  | [] => by rw [comprehensionTrees]; exact Kind.fits_nil
  | g :: gs => by rw [comprehensionTrees]; exact g.toTree_fits.cons (comprehensionTrees_fit gs)

theorem paramTrees_fit : (ps : List Param) → (Kind.many .arg).Fits (.list (paramTrees ps))
  | [] => by rw [paramTrees]; exact Kind.fits_nil
  | p :: ps => by rw [paramTrees]; exact p.toTree_fits.cons (paramTrees_fit ps)

theorem optParamTree_fits : (p : Option Param) → (Kind.optional .arg).Fits (optParamTree p)
  | none => by rw [optParamTree]; exact Kind.fits_null
  | some p => by rw [optParamTree]; exact p.toTree_fits.optional

end

mutual

theorem Pattern.toTree_fits : (p : Pattern) → (Kind.one .pattern).Fits p.toTree
  | .value s e => by
    rw [Pattern.toTree]
    exact located_fits s rfl (.field e.toTree_fits .nil)
  | .singleton s v => by
    rw [Pattern.toTree]
    exact located_fits s rfl (.field v.toTree_fits .nil)
  | .sequence s ps => by
    rw [Pattern.toTree]
    exact located_fits s rfl (.field (patternTrees_fit ps) .nil)
  | .mapping s ks ps rest => by
    rw [Pattern.toTree]
    exact located_fits s rfl (.field (exprTrees_fit ks) (.field (patternTrees_fit ps)
      (.field (optText_fits rest) .nil)))
  | .ofClass s c ps attrs aps => by
    rw [Pattern.toTree]
    exact located_fits s rfl (.field c.toTree_fits (.field (patternTrees_fit ps)
      (.field (identifiers_fit attrs) (.field (patternTrees_fit aps) .nil))))
  | .star s n => by
    rw [Pattern.toTree]
    exact located_fits s rfl (.field (optText_fits n) .nil)
  | .alias s p n => by
    rw [Pattern.toTree]
    exact located_fits s rfl (.field (optPatternTree_fits p) (.field (optText_fits n) .nil))
  | .either s ps => by
    rw [Pattern.toTree]
    exact located_fits s rfl (.field (patternTrees_fit ps) .nil)

theorem patternTrees_fit : (ps : List Pattern) → (Kind.many .pattern).Fits (.list (patternTrees ps))
  | [] => by rw [patternTrees]; exact Kind.fits_nil
  | p :: ps => by rw [patternTrees]; exact p.toTree_fits.cons (patternTrees_fit ps)

theorem optPatternTree_fits : (p : Option Pattern) → (Kind.optional .pattern).Fits (optPatternTree p)
  | none => by rw [optPatternTree]; exact Kind.fits_null
  | some p => by rw [optPatternTree]; exact p.toTree_fits.optional

end

theorem Alias.toTree_fits (a : Alias) : (Kind.one .alias).Fits a.toTree :=
  located_fits a.span rfl (.field (identifier_fits a.name) (.field (optText_fits a.asname) .nil))

theorem WithItem.toTree_fits (w : WithItem) : (Kind.one .withitem).Fits w.toTree :=
  unlocated_fits rfl rfl (.field w.context.toTree_fits (.field (optExprTree_fits w.target) .nil))

theorem level_fits (level : Nat) : Kind.optionalWhole.Fits (.int level) :=
  Kind.fits_of_no_nodes (Or.inr ⟨level, rfl⟩) rfl

mutual

theorem Stmt.toTree_fits : (x : Stmt) → (Kind.one .stmt).Fits x.toTree
  | .functionDef s isAsync n ps b ds r => by
    rw [Stmt.toTree]
    cases isAsync <;>
      exact located_fits s rfl (.field (identifier_fits n) (.field ps.toTree_fits (.field (stmtTrees_fit b)
        (.field (exprTrees_fit ds) (.field (optExprTree_fits r) (.field noComment_fits .nil))))))
  | .forStmt s isAsync t i b o => by
    rw [Stmt.toTree]
    cases isAsync <;>
      exact located_fits s rfl (.field t.toTree_fits (.field i.toTree_fits (.field (stmtTrees_fit b)
        (.field (stmtTrees_fit o) (.field noComment_fits .nil)))))
  | .withStmt s isAsync is b => by
    rw [Stmt.toTree]
    cases isAsync <;>
      exact located_fits s rfl (.field (Kind.fits_map WithItem.toTree_fits is) (.field (stmtTrees_fit b)
        (.field noComment_fits .nil)))
  | .tryStmt s star b hs o f => by
    rw [Stmt.toTree]
    cases star <;>
      exact located_fits s rfl (.field (stmtTrees_fit b) (.field (handlerTrees_fit hs) (.field (stmtTrees_fit o)
        (.field (stmtTrees_fit f) .nil))))
  | .classDef s n bs ks b ds => by
    rw [Stmt.toTree]
    exact located_fits s rfl (.field (identifier_fits n) (.field (exprTrees_fit bs)
      (.field (keywordTrees_fit ks) (.field (stmtTrees_fit b) (.field (exprTrees_fit ds) .nil)))))
  | .returnStmt s e => by
    rw [Stmt.toTree]
    exact located_fits s rfl (.field (optExprTree_fits e) .nil)
  | .delete s ts => by
    rw [Stmt.toTree]
    exact located_fits s rfl (.field (exprTrees_fit ts) .nil)
  | .assign s t ts e => by
    rw [Stmt.toTree]
    exact located_fits s rfl (.field ((t.toTree_fits.cons (exprTrees_fit ts)).several) (.field e.toTree_fits
      (.field noComment_fits .nil)))
  | .augAssign s t op e => by
    rw [Stmt.toTree]
    exact located_fits s rfl (.field t.toTree_fits (.field op.toTree_fits (.field e.toTree_fits .nil)))
  | .annAssign s t a e simple => by
    rw [Stmt.toTree]
    exact located_fits s rfl (.field t.toTree_fits (.field a.toTree_fits (.field (optExprTree_fits e)
      (.field (whole_fits _) .nil))))
  | .whileStmt s t b o => by
    rw [Stmt.toTree]
    exact located_fits s rfl (.field t.toTree_fits (.field (stmtTrees_fit b) (.field (stmtTrees_fit o) .nil)))
  | .ifStmt s t b o => by
    rw [Stmt.toTree]
    exact located_fits s rfl (.field t.toTree_fits (.field (stmtTrees_fit b) (.field (stmtTrees_fit o) .nil)))
  | .matchStmt s e cs => by
    rw [Stmt.toTree]
    exact located_fits s rfl (.field e.toTree_fits (.field (caseTrees_fit cs) .nil))
  | .raiseStmt s e c => by
    rw [Stmt.toTree]
    exact located_fits s rfl (.field (optExprTree_fits e) (.field (optExprTree_fits c) .nil))
  | .assertStmt s t m => by
    rw [Stmt.toTree]
    exact located_fits s rfl (.field t.toTree_fits (.field (optExprTree_fits m) .nil))
  | .importStmt s ns => by
    rw [Stmt.toTree]
    exact located_fits s rfl (.field (Kind.fits_map Alias.toTree_fits ns) .nil)
  | .importFrom s m ns level => by
    rw [Stmt.toTree]
    exact located_fits s rfl (.field (optText_fits m) (.field (Kind.fits_map Alias.toTree_fits ns)
      (.field (level_fits level) .nil)))
  | .globalStmt s ns => by
    rw [Stmt.toTree]
    exact located_fits s rfl (.field (identifiers_fit ns) .nil)
  | .nonlocalStmt s ns => by
    rw [Stmt.toTree]
    exact located_fits s rfl (.field (identifiers_fit ns) .nil)
  | .exprStmt s e => by
    rw [Stmt.toTree]
    exact located_fits s rfl (.field e.toTree_fits .nil)
  | .passStmt s => by
    rw [Stmt.toTree]
    exact located_fits s rfl .nil
  | .breakStmt s => by
    rw [Stmt.toTree]
    exact located_fits s rfl .nil
  | .continueStmt s => by
    rw [Stmt.toTree]
    exact located_fits s rfl .nil

theorem Handler.toTree_fits : (h : Handler) → (Kind.one .handler).Fits h.toTree
  | .mk s t n b => by
    rw [Handler.toTree]
    exact located_fits s rfl (.field (optExprTree_fits t) (.field (optText_fits n) (.field (stmtTrees_fit b) .nil)))

theorem Case.toTree_fits : (c : Case) → (Kind.one .matchCase).Fits c.toTree
  | .mk p g b => by
    rw [Case.toTree]
    exact unlocated_fits rfl rfl (.field p.toTree_fits (.field (optExprTree_fits g) (.field (stmtTrees_fit b) .nil)))

theorem stmtTrees_fit : (xs : List Stmt) → (Kind.many .stmt).Fits (.list (stmtTrees xs))
  | [] => by rw [stmtTrees]; exact Kind.fits_nil
  | x :: xs => by rw [stmtTrees]; exact x.toTree_fits.cons (stmtTrees_fit xs)

theorem handlerTrees_fit : (hs : List Handler) → (Kind.many .handler).Fits (.list (handlerTrees hs))
  | [] => by rw [handlerTrees]; exact Kind.fits_nil
  | h :: hs => by rw [handlerTrees]; exact h.toTree_fits.cons (handlerTrees_fit hs)

theorem caseTrees_fit : (cs : List Case) → (Kind.many .matchCase).Fits (.list (caseTrees cs))
  | [] => by rw [caseTrees]; exact Kind.fits_nil
  | c :: cs => by rw [caseTrees]; exact c.toTree_fits.cons (caseTrees_fit cs)

end

/-- The tree of a program is well formed. -/
theorem Program.toTree_wellFormed (p : Program) : p.toTree.WellFormed := by
  cases p with
  | module body => exact unlocated_wellFormed (.field (stmtTrees_fit body) (.field Kind.fits_nil .nil)) rfl
  | expression e => exact unlocated_wellFormed (.field e.toTree_fits .nil) rfl

/-- A source is cut into tokens, which the rule of the mode reads. -/
theorem readTree_eq_ok {mode : Mode} {source : List Char} {tree : Tree} (h : readTree mode source = .ok tree) :
    ∃ tokens program s, lex ⟨1, 0⟩ (mode.prepare source) = some tokens ∧
      mode.rule (source.length + 2) ⟨tokens, ⟨1, 0⟩⟩ = some (program, s) ∧ tree = program.toTree := by
  unfold readTree Program.read at h
  split at h
  · cases h
  split at h
  · cases h
  next tokens lexed =>
  split at h
  · cases h
  next program s run =>
  cases h
  exact ⟨tokens, program, s, lexed, run, rfl⟩

/-- What is read from a source is well formed. -/
theorem readTree_wellFormed {mode : Mode} {source : List Char} {tree : Tree} (h : readTree mode source = .ok tree) :
    tree.WellFormed := by
  obtain ⟨-, program, -, -, -, rfl⟩ := readTree_eq_ok h
  exact program.toTree_wellFormed

end CallLint.Source

import CallLint.Proofs.Source.Placed
import CallLint.Proofs.Source.StmtPhrase
import CallLint.Proofs.Tree.Kinds
import CallLint.Source.ToTree

/-!
# Where the nodes of a tree stand

The calls and names in the tree of a phrase are in the region of its tokens. This is said once for all properties of nodes that ask no
more (`Respects`): such a property holds everywhere in the trees of expressions, patterns and statements.
-/

namespace CallLint.Source

open CallLint.Tree

/-- A property of nodes that asks nothing but what holds of the calls and names in a region. -/
structure Respects (l : Region) (P : Tree → Prop) : Prop where
  other : ∀ {c fs}, c ≠ .call → c ≠ .name → P (.node c fs)
  call : ∀ {s f as ks}, l.At (.call s f as ks) → P (Expr.call s f as ks).toTree
  name : ∀ {s id c}, l.At (.name s id c) → P (Expr.name s id c).toTree

/-- A property of the nodes of a field, at whatever depth. -/
def Below (P : Tree → Prop) (t : Tree) : Prop := ∀ u ∈ nodesIn t, u.Everywhere P

/-- A property of the nodes of some fields. -/
def BelowAll (P : Tree → Prop) (fs : List (Field × Tree)) : Prop := ∀ p ∈ fs, Below P p.2

section Below

variable {l : Region} {P : Tree → Prop}

theorem BelowAll.nil : BelowAll P [] := nofun

theorem BelowAll.field {f : Field} {t : Tree} {fs : List (Field × Tree)} (first : Below P t) (rest : BelowAll P fs) :
    BelowAll P ((f, t) :: fs) :=
  List.forall_mem_cons.2 ⟨first, rest⟩

theorem below_of_no_nodes {t : Tree} (h : nodesIn t = []) : Below P t := by
  intro u hu
  rw [h] at hu
  cases hu

theorem below_node {c : NodeClass} {fs : List (Field × Tree)} (hP : P (.node c fs)) (fields : BelowAll P fs) :
    Below P (.node c fs) := by
  refine List.forall_mem_singleton.2 (everywhere_of_children hP fun u hu => ?_)
  obtain ⟨d, f, -, -, mem⟩ := mem_children.1 hu
  cases found : fs.lookup f with
  | none =>
    have absent : (Tree.node c fs).fieldD f = .null := by
      simp only [fieldD, field?, found]
      cases c.defaults f <;> rfl
    rw [absent] at mem
    cases mem
  | some v =>
    have stored : (Tree.node c fs).fieldD f = v := by simp [fieldD, field?, found]
    rw [stored] at mem
    obtain ⟨before, behind, rfl, -⟩ := List.lookup_eq_some_iff.1 found
    exact fields (f, v) (List.mem_append_right _ List.mem_cons_self) u mem

theorem below_located {s : Span} {c : NodeClass} {fs : List (Field × Tree)} (hP : P (located s c fs))
    (fields : BelowAll P fs) : Below P (located s c fs) := by
  refine below_node hP (List.forall_mem_append.2 ⟨fields, ?_⟩)
  simp only [List.forall_mem_cons]
  exact ⟨below_of_no_nodes rfl, below_of_no_nodes rfl, below_of_no_nodes rfl, below_of_no_nodes rfl, nofun⟩

theorem below_list {ts : List Tree} (h : ∀ t ∈ ts, Below P t) : Below P (.list ts) := by
  intro u hu
  obtain ⟨mem, node⟩ := List.mem_filter.1 hu
  exact h u mem u (by rw [nodesIn_of_isNode node]; exact List.mem_cons_self)

theorem below_cons {t : Tree} {ts : List Tree} (first : Below P t) (rest : Below P (.list ts)) : Below P (.list (t :: ts)) := by
  intro u hu
  obtain ⟨mem, node⟩ := List.mem_filter.1 hu
  rcases List.mem_cons.1 mem with rfl | mem
  · exact first u (by rw [nodesIn_of_isNode node]; exact List.mem_cons_self)
  · exact rest u (List.mem_filter.2 ⟨mem, node⟩)

theorem below_map {α : Type} {g : α → Tree} (h : ∀ a, Below P (g a)) (as : List α) : Below P (.list (as.map g)) := by
  refine below_list fun t ht => ?_
  obtain ⟨a, -, rfl⟩ := List.mem_map.1 ht
  exact h a

theorem below_optText (n : Option Text) : Below P (optText n) := by
  cases n <;> exact below_of_no_nodes rfl

theorem below_texts (ns : List Text) : Below P (.list (ns.map .text)) := by
  refine below_list fun t ht => ?_
  obtain ⟨n, -, rfl⟩ := List.mem_map.1 ht
  exact below_of_no_nodes rfl

theorem below_literal (v : Literal) : Below P v.toTree := by
  cases v <;> exact below_of_no_nodes rfl

variable (ok : Respects l P)

include ok

theorem below_marker {c : NodeClass} (call : c ≠ .call) (name : c ≠ .name) : Below P (marker c) :=
  below_node (ok.other call name) nofun

theorem below_context (c : Context) : Below P c.toTree := by
  cases c <;> exact below_marker ok (by decide) (by decide)

theorem below_binOp (op : BinOp) : Below P op.toTree := by
  cases op <;> exact below_marker ok (by decide) (by decide)

theorem below_boolOp (op : BoolOp) : Below P op.toTree := by
  cases op <;> exact below_marker ok (by decide) (by decide)

theorem below_unaryOp (op : UnaryOp) : Below P op.toTree := by
  cases op <;> exact below_marker ok (by decide) (by decide)

theorem below_compareOp (op : CompareOp) : Below P op.toTree := by
  cases op <;> exact below_marker ok (by decide) (by decide)

/-- A node of another class holds of what its fields hold. -/
theorem below_other {s : Span} {c : NodeClass} {fs : List (Field × Tree)} (call : c ≠ .call) (name : c ≠ .name)
    (fields : BelowAll P fs) : Below P (located s c fs) :=
  below_located (ok.other call name) fields

end Below

section Exprs

variable {l : Region} {P : Tree → Prop}

mutual

theorem Expr.toTree_below (ok : Respects l P) : (e : Expr) → e.Placed l → Below P e.toTree
  | .boolOp s op vs, h => by
    rw [Expr.toTree]
    exact below_other ok (by decide) (by decide) (.field (below_boolOp ok op) (.field (exprTrees_below ok vs fun _ => h.part) .nil))
  | .named s t v, h => by
    rw [Expr.toTree]
    exact below_other ok (by decide) (by decide) (.field (Expr.toTree_below ok t (h.part List.mem_cons_self))
      (.field (Expr.toTree_below ok v (h.part (by simp [Expr.parts]))) .nil))
  | .binOp s l op r, h => by
    rw [Expr.toTree]
    exact below_other ok (by decide) (by decide) (.field (Expr.toTree_below ok l (h.part List.mem_cons_self))
      (.field (below_binOp ok op) (.field (Expr.toTree_below ok r (h.part (by simp [Expr.parts]))) .nil)))
  | .unaryOp s op e, h => by
    rw [Expr.toTree]
    exact below_other ok (by decide) (by decide) (.field (below_unaryOp ok op)
      (.field (Expr.toTree_below ok e (h.part List.mem_cons_self)) .nil))
  | .lambda s ps b, h => by
    rw [Expr.toTree]
    exact below_other ok (by decide) (by decide)
      (.field (Params.toTree_below ok ps fun _ he => h.part (List.mem_cons_of_mem _ he))
      (.field (Expr.toTree_below ok b (h.part List.mem_cons_self)) .nil))
  | .ifExp s t b o, h => by
    rw [Expr.toTree]
    exact below_other ok (by decide) (by decide) (.field (Expr.toTree_below ok t (h.part List.mem_cons_self))
      (.field (Expr.toTree_below ok b (h.part (by simp [Expr.parts])))
      (.field (Expr.toTree_below ok o (h.part (by simp [Expr.parts]))) .nil)))
  | .dict s ks vs, h => by
    rw [Expr.toTree]
    exact below_other ok (by decide) (by decide)
      (.field (optExprTrees_below ok ks fun _ he => h.part (List.mem_append_left _ he))
      (.field (exprTrees_below ok vs fun _ he => h.part (List.mem_append_right _ he)) .nil))
  | .set s es, h => by
    rw [Expr.toTree]
    exact below_other ok (by decide) (by decide) (.field (exprTrees_below ok es fun _ => h.part) .nil)
  | .listComp s e gs, h => by
    rw [Expr.toTree]
    exact below_other ok (by decide) (by decide) (.field (Expr.toTree_below ok e (h.part List.mem_cons_self))
      (.field (comprehensionTrees_below ok gs fun _ he => h.part (List.mem_cons_of_mem _ he)) .nil))
  | .setComp s e gs, h => by
    rw [Expr.toTree]
    exact below_other ok (by decide) (by decide) (.field (Expr.toTree_below ok e (h.part List.mem_cons_self))
      (.field (comprehensionTrees_below ok gs fun _ he => h.part (List.mem_cons_of_mem _ he)) .nil))
  | .dictComp s k v gs, h => by
    rw [Expr.toTree]
    exact below_other ok (by decide) (by decide) (.field (Expr.toTree_below ok k (h.part List.mem_cons_self))
      (.field (Expr.toTree_below ok v (h.part (by simp [Expr.parts])))
      (.field (comprehensionTrees_below ok gs fun _ he => h.part (List.mem_cons_of_mem _ (List.mem_cons_of_mem _ he))) .nil)))
  | .generator s e gs, h => by
    rw [Expr.toTree]
    exact below_other ok (by decide) (by decide) (.field (Expr.toTree_below ok e (h.part List.mem_cons_self))
      (.field (comprehensionTrees_below ok gs fun _ he => h.part (List.mem_cons_of_mem _ he)) .nil))
  | .await s e, h => by
    rw [Expr.toTree]
    exact below_other ok (by decide) (by decide) (.field (Expr.toTree_below ok e (h.part List.mem_cons_self)) .nil)
  | .yield s e, h => by
    rw [Expr.toTree]
    exact below_other ok (by decide) (by decide) (.field (optExprTree_below ok e fun _ => h.part) .nil)
  | .yieldFrom s e, h => by
    rw [Expr.toTree]
    exact below_other ok (by decide) (by decide) (.field (Expr.toTree_below ok e (h.part List.mem_cons_self)) .nil)
  | .compare s l ops cs, h => by
    rw [Expr.toTree]
    exact below_other ok (by decide) (by decide) (.field (Expr.toTree_below ok l (h.part List.mem_cons_self))
      (.field (below_map (below_compareOp ok) ops)
      (.field (exprTrees_below ok cs fun _ he => h.part (List.mem_cons_of_mem _ he)) .nil)))
  | .formatted s e conversion spec, h => by
    rw [Expr.toTree]
    exact below_other ok (by decide) (by decide) (.field (Expr.toTree_below ok e (h.part List.mem_cons_self))
      (.field (below_of_no_nodes rfl) (.field (optExprTree_below ok spec fun _ he => h.part (List.mem_cons_of_mem _ he)) .nil)))
  | .joined s vs, h => by
    rw [Expr.toTree]
    exact below_other ok (by decide) (by decide) (.field (exprTrees_below ok vs fun _ => h.part) .nil)
  | .constant s v unicode, h => by
    rw [Expr.toTree]
    exact below_other ok (by decide) (by decide) (.field (below_literal v)
      (.field (by cases unicode <;> exact below_of_no_nodes rfl) .nil))
  | .member s e a c, h => by
    rw [Expr.toTree]
    exact below_other ok (by decide) (by decide) (.field (Expr.toTree_below ok e (h.part List.mem_cons_self))
      (.field (below_of_no_nodes rfl) (.field (below_context ok c) .nil)))
  | .subscript s e i c, h => by
    rw [Expr.toTree]
    exact below_other ok (by decide) (by decide) (.field (Expr.toTree_below ok e (h.part List.mem_cons_self))
      (.field (Expr.toTree_below ok i (h.part (by simp [Expr.parts]))) (.field (below_context ok c) .nil)))
  | .starred s e c, h => by
    rw [Expr.toTree]
    exact below_other ok (by decide) (by decide) (.field (Expr.toTree_below ok e (h.part List.mem_cons_self))
      (.field (below_context ok c) .nil))
  | .list s es c, h => by
    rw [Expr.toTree]
    exact below_other ok (by decide) (by decide) (.field (exprTrees_below ok es fun _ => h.part) (.field (below_context ok c) .nil))
  | .tuple s es c, h => by
    rw [Expr.toTree]
    exact below_other ok (by decide) (by decide) (.field (exprTrees_below ok es fun _ => h.part) (.field (below_context ok c) .nil))
  | .slice s l u t, h => by
    rw [Expr.toTree]
    exact below_other ok (by decide) (by decide)
      (.field (optExprTree_below ok l fun _ he => h.part (List.mem_append_left _ (List.mem_append_left _ he)))
      (.field (optExprTree_below ok u fun _ he => h.part (List.mem_append_left _ (List.mem_append_right _ he)))
      (.field (optExprTree_below ok t fun _ he => h.part (List.mem_append_right _ he)) .nil)))
  | .call s f as ks, h => by
    rw [Expr.toTree]
    exact below_located (ok.call h.here) (.field (Expr.toTree_below ok f (h.part List.mem_cons_self))
      (.field (exprTrees_below ok as fun _ he => h.part (List.mem_cons_of_mem _ (List.mem_append_left _ he)))
        (.field (keywordTrees_below ok ks fun _ he => h.part (List.mem_cons_of_mem _ (List.mem_append_right _ he))) .nil)))
  | .name s id c, h => by
    rw [Expr.toTree]
    exact below_located (ok.name h.here) (.field (below_of_no_nodes rfl) (.field (below_context ok c) .nil))

theorem exprTrees_below (ok : Respects l P) : (es : List Expr) → (∀ e ∈ es, e.Placed l) → Below P (.list (exprTrees es))
  | [], _ => below_of_no_nodes rfl
  | e :: es, h => by
    obtain ⟨first, rest⟩ := List.forall_mem_cons.1 h
    exact below_cons (Expr.toTree_below ok e first) (exprTrees_below ok es rest)

theorem optExprTree_below (ok : Respects l P) : (o : Option Expr) → (∀ e ∈ o.toList, e.Placed l) → Below P (optExprTree o)
  | none, _ => below_of_no_nodes rfl
  | some e, h => Expr.toTree_below ok e (h e List.mem_cons_self)

theorem optExprTrees_below (ok : Respects l P) : (os : List (Option Expr)) → (∀ e ∈ os.filterMap id, e.Placed l) →
    Below P (.list (optExprTrees os))
  | [], _ => below_of_no_nodes rfl
  | o :: os, h => by
    refine below_cons (optExprTree_below ok o fun e he => h e ?_) (optExprTrees_below ok os fun e he => h e ?_)
    · exact List.mem_filterMap.2 ⟨o, List.mem_cons_self, Option.mem_toList.1 he⟩
    · obtain ⟨o', mem, eq⟩ := List.mem_filterMap.1 he
      exact List.mem_filterMap.2 ⟨o', List.mem_cons_of_mem _ mem, eq⟩

theorem Keyword.toTree_below (ok : Respects l P) : (k : Keyword) → k.value.Placed l → Below P k.toTree
  | .mk s a v, h => by
    rw [Keyword.toTree]
    exact below_other ok (by decide) (by decide) (.field (below_optText a) (.field (Expr.toTree_below ok v h) .nil))

theorem keywordTrees_below (ok : Respects l P) : (ks : List Keyword) → (∀ e ∈ ks.map Keyword.value, e.Placed l) →
    Below P (.list (keywordTrees ks))
  | [], _ => below_of_no_nodes rfl
  | k :: ks, h => by
    obtain ⟨first, rest⟩ := List.forall_mem_cons.1 h
    exact below_cons (Keyword.toTree_below ok k first) (keywordTrees_below ok ks rest)

theorem Comprehension.toTree_below (ok : Respects l P) : (g : Comprehension) → (∀ e ∈ g.exprs, e.Placed l) → Below P g.toTree
  | .mk t i ifs isAsync, h => by
    obtain ⟨target, rest⟩ := List.forall_mem_cons.1 h
    obtain ⟨iter, tests⟩ := List.forall_mem_cons.1 rest
    rw [Comprehension.toTree]
    exact below_node (ok.other (by decide) (by decide)) (.field (Expr.toTree_below ok t target)
      (.field (Expr.toTree_below ok i iter)
      (.field (exprTrees_below ok ifs tests) (.field (below_of_no_nodes rfl) .nil))))

theorem comprehensionTrees_below (ok : Respects l P) : (gs : List Comprehension) →
    (∀ e ∈ gs.flatMap Comprehension.exprs, e.Placed l) → Below P (.list (comprehensionTrees gs))
  | [], _ => below_of_no_nodes rfl
  | g :: gs, h => by
    obtain ⟨first, rest⟩ := List.forall_mem_append.1 h
    exact below_cons (Comprehension.toTree_below ok g first) (comprehensionTrees_below ok gs rest)

theorem Param.toTree_below (ok : Respects l P) : (p : Param) → (∀ e ∈ p.annot?.toList, e.Placed l) → Below P p.toTree
  | .mk s n a, h => by
    rw [Param.toTree]
    exact below_other ok (by decide) (by decide)
      (.field (below_of_no_nodes rfl) (.field (optExprTree_below ok a h) (.field (below_of_no_nodes rfl) .nil)))

theorem optParamTree_below (ok : Respects l P) : (o : Option Param) → (∀ e ∈ o.toList.filterMap Param.annot?, e.Placed l) →
    Below P (optParamTree o)
  | none, _ => below_of_no_nodes rfl
  | some p, h => Param.toTree_below ok p fun e he => h e (by simpa using he)

theorem paramTrees_below (ok : Respects l P) : (ps : List Param) → (∀ e ∈ ps.filterMap Param.annot?, e.Placed l) →
    Below P (.list (paramTrees ps))
  | [], _ => below_of_no_nodes rfl
  | p :: ps, h => by
    refine below_cons (Param.toTree_below ok p fun e he => h e ?_) (paramTrees_below ok ps fun e he => h e ?_)
    · exact List.mem_filterMap.2 ⟨p, List.mem_cons_self, Option.mem_toList.1 he⟩
    · obtain ⟨p', mem, eq⟩ := List.mem_filterMap.1 he
      exact List.mem_filterMap.2 ⟨p', List.mem_cons_of_mem _ mem, eq⟩

theorem Params.toTree_below (ok : Respects l P) : (ps : Params) → (∀ e ∈ ps.exprs, e.Placed l) → Below P ps.toTree
  | .mk posonly args vararg kwonly kwDefaults kwarg defaults, h => by
    simp only [Params.exprs, List.filterMap_append, List.forall_mem_append] at h
    obtain ⟨⟨⟨⟨⟨⟨h₁, h₂⟩, h₃⟩, h₄⟩, h₅⟩, h₆⟩, h₇⟩ := h
    rw [Params.toTree]
    exact below_node (ok.other (by decide) (by decide)) (.field (paramTrees_below ok posonly h₁)
      (.field (paramTrees_below ok args h₂) (.field (optParamTree_below ok vararg h₃) (.field (paramTrees_below ok kwonly h₄)
        (.field (optExprTrees_below ok kwDefaults h₆) (.field (optParamTree_below ok kwarg h₅)
          (.field (exprTrees_below ok defaults h₇) .nil)))))))

end

end Exprs

/-! ### Patterns -/

theorem exprTrees_eq_map (es : List Expr) : exprTrees es = es.map Expr.toTree := by
  induction es with
  | nil => rfl
  | cons e es ih => rw [exprTrees, ih, List.map_cons]

theorem patternTrees_eq_map (xs : List Pattern) : patternTrees xs = xs.map Pattern.toTree := by
  induction xs with
  | nil => rfl
  | cons x xs ih => rw [patternTrees, ih, List.map_cons]

/-- The trees of an item. -/
def PatternItem.trees : (k : PatternItem) → k.Value → List Tree
  | element, x | positional, x => [x.toTree]
  | entry, i => [i.1.toTree, i.2.toTree]
  | keyword, i => [i.2.toTree]

/-- The trees of what a pattern stands for. -/
def PatternForm.trees : (f : PatternForm) → f.Value → List Tree
  | closed, x | union, x | whole, x | case, x => [x.toTree]
  | alternatives, xs => xs.map Pattern.toTree
  | item k, i => k.trees i
  | further k, is => is.flatMap k.trees
  | classArguments, as => as.1.map Pattern.toTree ++ as.2.map (·.2.toTree)

section Patterns

variable {l : Region} {P : Tree → Prop} {ts : List Token}

theorem Phrase.tree_below {m : Level} {e : Expr} (ok : Respects l P) (h : Phrase (.expr m) ts e) (on : l.Has ts) :
    Below P e.toTree :=
  Expr.toTree_below ok e (h.placed on e List.mem_cons_self)

theorem below_patterns {xs : List Pattern} (h : ∀ t ∈ xs.map Pattern.toTree, Below P t) : Below P (.list (patternTrees xs)) := by
  rw [patternTrees_eq_map]
  exact below_list h

theorem below_exprs {es : List Expr} (h : ∀ t ∈ es.map Expr.toTree, Below P t) : Below P (.list (exprTrees es)) := by
  rw [exprTrees_eq_map]
  exact below_list h

theorem below_sequence {s : Span} {xs : List Pattern} (ok : Respects l P) (h : ∀ t ∈ xs.map Pattern.toTree, Below P t) :
    Below P (Pattern.sequence s xs).toTree := by
  rw [Pattern.toTree]
  exact below_other ok (by decide) (by decide) (.field (below_patterns h) .nil)

theorem below_mapping {s : Span} {is : List (Expr × Pattern)} {n : Option Text} (ok : Respects l P)
    (h : ∀ t ∈ (PatternForm.further .entry).trees is, Below P t) :
    Below P (Pattern.mapping s (is.map (·.1)) (is.map (·.2)) n).toTree := by
  have entries : ∀ i ∈ is, Below P i.1.toTree ∧ Below P i.2.toTree := by
    intro i hi
    exact ⟨h _ (List.mem_flatMap.2 ⟨i, hi, List.mem_cons_self⟩),
      h _ (List.mem_flatMap.2 ⟨i, hi, List.mem_cons_of_mem _ List.mem_cons_self⟩)⟩
  rw [Pattern.toTree]
  refine below_other ok (by decide) (by decide) (.field (below_exprs ?_) (.field (below_patterns ?_) (.field (below_optText n) .nil)))
  · rw [List.map_map]
    exact List.forall_mem_map.2 fun i hi => (entries i hi).1
  · rw [List.map_map]
    exact List.forall_mem_map.2 fun i hi => (entries i hi).2

/-- The nodes of a pattern stand where its tokens do. -/
theorem PatternPhrase.trees_below {f : PatternForm} {v : f.Value} (ok : Respects l P) (h : PatternPhrase f ts v)
    (on : l.Has ts) : ∀ t ∈ f.trees v, Below P t := by
  induction h with
  | singleton p h =>
    exact List.forall_mem_singleton.2 (below_other ok (by decide) (by decide) (.field (below_literal _) .nil))
  | value h =>
    exact List.forall_mem_singleton.2 (below_other ok (by decide) (by decide) (.field (h.phrase.tree_below ok on) .nil))
  | dotted h =>
    exact List.forall_mem_singleton.2 (below_other ok (by decide) (by decide) (.field (h.phrase.tree_below ok on) .nil))
  | wildcard | capture | starWildcard | star =>
    exact List.forall_mem_singleton.2 (below_other ok (by decide) (by decide)
      (by first | exact .field (below_of_no_nodes rfl) (.field (below_optText _) .nil) | exact .field (below_optText _) .nil))
  | ofClass h _ ih =>
    obtain ⟨byPosition, byKeyword⟩ := List.forall_mem_append.1 (ih on.right)
    refine List.forall_mem_singleton.2 (below_other ok (by decide) (by decide) (.field (h.phrase.tree_below ok on.left)
      (.field (below_patterns byPosition) (.field (below_texts _) (.field (below_patterns ?_) .nil)))))
    rw [List.map_map]
    exact byKeyword
  | emptyParens | emptyBrackets => exact List.forall_mem_singleton.2 (below_sequence ok nofun)
  | group _ _ _ ih => exact ih on.tail.left
  | parens _ _ _ _ _ _ ih ih' | brackets _ _ _ _ _ ih ih' =>
    refine List.forall_mem_singleton.2 (below_sequence ok (List.forall_mem_append.2 ⟨ih on.tail.left, ?_⟩))
    rw [List.map_eq_flatMap]
    exact ih' on.tail.right.left.left
  | emptyMapping | restMapping => exact List.forall_mem_singleton.2 (@below_mapping _ _ _ [] _ ok nofun)
  | mapping _ _ _ _ _ ih ih' | mappingRest _ _ _ _ _ _ _ _ _ _ ih ih' =>
    exact List.forall_mem_singleton.2 (below_mapping ok (List.forall_mem_append.2 ⟨ih on.tail.left, ih' on.tail.right.left⟩))
  | noAlternative | noFurther | noArguments => nofun
  | alternative _ _ _ ih ih' | furtherItem _ _ _ ih ih' =>
    exact List.forall_mem_append.2 ⟨ih on.tail.left, ih' on.tail.right⟩
  | alone _ ih | unnamed _ ih | plain _ ih | positional _ ih | one _ ih => exact ih on
  | either _ _ _ ih ih' =>
    exact List.forall_mem_singleton.2 (below_other ok (by decide) (by decide)
      (.field (below_patterns (List.forall_mem_append.2 ⟨ih on.left, ih' on.right⟩)) .nil))
  | named _ _ _ _ _ ih =>
    exact List.forall_mem_singleton.2 (below_other ok (by decide) (by decide)
      (.field (ih on.left _ List.mem_cons_self) (.field (below_optText _) .nil)))
  | entry _ key _ ih =>
    exact List.forall_mem_cons.2 ⟨key.phrase.tree_below ok on.left, ih on.right.tail⟩
  | keyword _ _ _ _ ih => exact ih on.tail.tail
  | byPosition _ _ _ _ _ ih ih' =>
    refine List.forall_mem_append.2 ⟨List.forall_mem_append.2 ⟨ih on.tail.left, ?_⟩, nofun⟩
    rw [List.map_eq_flatMap]
    exact ih' on.tail.right.left
  | byKeyword _ _ _ _ _ ih ih' =>
    refine List.forall_mem_append.2 ⟨nofun, List.forall_mem_append.2 ⟨ih on.tail.left, ?_⟩⟩
    rw [List.map_eq_flatMap]
    exact ih' on.tail.right.left
  | byBoth _ _ _ _ _ _ _ _ ih ih' ih₂ ih₂' =>
    have behind := on.tail.right.right.tail
    refine List.forall_mem_append.2 ⟨List.forall_mem_append.2 ⟨ih on.tail.left, ?_⟩, List.forall_mem_append.2 ⟨ih₂ behind.left, ?_⟩⟩
    · rw [List.map_eq_flatMap]
      exact ih' on.tail.right.left
    · rw [List.map_eq_flatMap]
      exact ih₂' behind.right.left
  | several _ _ _ _ ih ih' =>
    refine List.forall_mem_singleton.2 (below_sequence ok (List.forall_mem_append.2 ⟨ih on.left, ?_⟩))
    rw [List.map_eq_flatMap]
    exact ih' on.right.left

end Patterns

/-! ### Statements -/

theorem stmtTrees_eq_map (ss : List Stmt) : stmtTrees ss = ss.map Stmt.toTree := by
  induction ss with
  | nil => rfl
  | cons s ss ih => rw [stmtTrees, ih, List.map_cons]

theorem handlerTrees_eq_map (hs : List Handler) : handlerTrees hs = hs.map Handler.toTree := by
  induction hs with
  | nil => rfl
  | cons h hs ih => rw [handlerTrees, ih, List.map_cons]

theorem caseTrees_eq_map (cs : List Case) : caseTrees cs = cs.map Case.toTree := by
  induction cs with
  | nil => rfl
  | cons c cs ih => rw [caseTrees, ih, List.map_cons]

/-- The trees of what statements stand for. -/
def StmtForm.trees : (f : StmtForm) → f.Value → List Tree
  | statement, ss | statements, ss | block, ss | orelse _, ss | branches, ss => ss.map Stmt.toTree
  | compound, s | definition _, s => [s.toTree]
  | handler _, h => [h.toTree]
  | handlers _, hs => hs.map Handler.toTree
  | case, c => [c.toTree]
  | cases, cs => cs.map Case.toTree

/-- The decorators that a definition stands behind. -/
def StmtForm.decorators : StmtForm → List Expr
  | definition es => es
  | _ => []

section Statements

variable {l : Region} {P : Tree → Prop} {ts : List Token}

theorem below_stmts {ss : List Stmt} (h : ∀ t ∈ ss.map Stmt.toTree, Below P t) : Below P (.list (stmtTrees ss)) := by
  rw [stmtTrees_eq_map]
  exact below_list h

theorem Phrase.tupled_below {k : Element} {e : Expr} (ok : Respects l P) (h : Phrase (.tupled k) ts e) (on : l.Has ts) :
    Below P e.toTree :=
  Expr.toTree_below ok e (h.placed on e List.mem_cons_self)

theorem AssignedPhrase.placed {e : Expr} (h : AssignedPhrase ts e) (on : l.Has ts) : e.Placed l := by
  cases h with
  | yielding h => exact h.placed on e List.mem_cons_self
  | expressions h => exact h.placed on e List.mem_cons_self

theorem TargetsPhrase.placed {es : List Expr} (h : TargetsPhrase ts es) (on : l.Has ts) : ∀ e ∈ es, e.Placed l := by
  induction h with
  | nil => nofun
  | cons _ first h _ ih =>
    exact List.forall_mem_cons.2 ⟨(first.placed on.left _ List.mem_cons_self).toTarget _ h, ih on.right.tail⟩

/-- What stands behind a token stands where its tokens do. -/
theorem Behind.placed {k : TokenKind} {R : List Token → Expr → Prop} {o : Option Expr} (h : Behind k R ts o)
    (placed : ∀ {us e}, R us e → l.Has us → e.Placed l) (on : l.Has ts) : ∀ e ∈ o.toList, e.Placed l := by
  cases h with
  | none => nofun
  | some p h => exact List.forall_mem_singleton.2 (placed h on.tail)

theorem Phrase.expr_placed {m : Level} {e : Expr} (h : Phrase (.expr m) ts e) (on : l.Has ts) : e.Placed l :=
  h.placed on e List.mem_cons_self

theorem below_alias (ok : Respects l P) (a : Alias) : Below P a.toTree :=
  below_other ok (by decide) (by decide) (.field (below_of_no_nodes rfl) (.field (below_optText _) .nil))

theorem SimplePhrase.below_tree {s : Stmt} (ok : Respects l P) (h : SimplePhrase ts s) (on : l.Has ts) :
    Below P s.toTree := by
  cases h with
  | @word w f p h =>
    cases w <;> cases h <;> exact below_other ok (by decide) (by decide) .nil
  | @declaration w f ts ns p h =>
    cases w <;> cases h <;> exact below_other ok (by decide) (by decide) (.field (below_texts _) .nil)
  | returnNone => exact below_other ok (by decide) (by decide) (.field (below_of_no_nodes rfl) .nil)
  | returnValue p value =>
    exact below_other ok (by decide) (by decide) (.field (value.tupled_below ok on.tail) .nil)
  | importModules p names =>
    exact below_other ok (by decide) (by decide) (.field (below_map (below_alias ok) _) .nil)
  | importFrom =>
    exact below_other ok (by decide) (by decide) (.field (below_optText _) (.field (below_map (below_alias ok) _)
      (.field (below_of_no_nodes rfl) .nil)))
  | importRelative =>
    exact below_other ok (by decide) (by decide) (.field (below_optText _) (.field (below_map (below_alias ok) _)
      (.field (below_of_no_nodes rfl) .nil)))
  | raiseNone =>
    exact below_other ok (by decide) (by decide) (.field (below_of_no_nodes rfl) (.field (below_of_no_nodes rfl) .nil))
  | raiseValue p exc cause =>
    exact below_other ok (by decide) (by decide) (.field (exc.tree_below ok on.tail.left)
      (.field (optExprTree_below ok _ (cause.placed Phrase.expr_placed on.tail.right)) .nil))
  | delete p values h =>
    have targets := Expr.Placed.toTargets _ (values.placed on.tail) h
    exact below_other ok (by decide) (by decide) (.field (exprTrees_below ok _ targets) .nil)
  | assertion p test msg =>
    exact below_other ok (by decide) (by decide) (.field (test.tree_below ok on.tail.left)
      (.field (optExprTree_below ok _ (msg.placed Phrase.expr_placed on.tail.right)) .nil))
  | expression h =>
    exact below_other ok (by decide) (by decide) (.field (Expr.toTree_below ok _ (h.placed on)) .nil)
  | augmented p target h operator value =>
    have target := (target.placed on.left _ List.mem_cons_self).toSingleTarget h
    exact below_other ok (by decide) (by decide) (.field (Expr.toTree_below ok _ target)
      (.field (below_binOp ok _) (.field (Expr.toTree_below ok _ (value.placed on.right.tail)) .nil)))
  | annotated p target h annot value =>
    have target := (target.placed on.left _ List.mem_cons_self).toSingleTarget h
    have behind := on.right.tail
    exact below_other ok (by decide) (by decide) (.field (Expr.toTree_below ok _ target) (.field (annot.tree_below ok behind.left)
      (.field (optExprTree_below ok _ (value.placed AssignedPhrase.placed behind.right)) (.field (below_of_no_nodes rfl) .nil))))
  | assign targets value =>
    obtain ⟨first, further⟩ := List.forall_mem_cons.1 (targets.placed on.left)
    exact below_other ok (by decide) (by decide) (.field (below_cons (Expr.toTree_below ok _ first) (exprTrees_below ok _ further))
      (.field (Expr.toTree_below ok _ (value.placed on.right)) (.field (below_of_no_nodes rfl) .nil)))

section Lists

variable {α : Type} {k : TokenKind} {R : List Token → α → Prop} {as : List α} {Q : α → Prop}
  (each : ∀ {us a}, R us a → l.Has us → Q a)

include each

theorem Each.forall_on (h : Each k R ts as) (on : l.Has ts) : ∀ a ∈ as, Q a := by
  induction h with
  | nil => nofun
  | cons _ first _ ih =>
    exact List.forall_mem_cons.2 ⟨each first on.tail.left, ih on.tail.right⟩

theorem Listed.forall_on (h : Listed k R ts as) (on : l.Has ts) : ∀ a ∈ as, Q a := by
  obtain ⟨first, rest⟩ := h
  exact List.forall_mem_cons.2 ⟨each first on.left, rest.forall_on each on.right⟩

end Lists

theorem LinePhrase.trees_below {ss : List Stmt} (ok : Respects l P) (h : LinePhrase ts ss) (on : l.Has ts) :
    ∀ t ∈ ss.map Stmt.toTree, Below P t := by
  obtain ⟨p, stmts, -⟩ := h
  exact List.forall_mem_map.2 (stmts.forall_on (SimplePhrase.below_tree ok) on.left)

theorem WithItemPhrase.below_tree {i : WithItem} (ok : Respects l P) (h : WithItemPhrase ts i) (on : l.Has ts) :
    Below P i.toTree := by
  cases h with
  | bare context =>
    exact below_node (ok.other (by decide) (by decide)) (.field (context.tree_below ok on) (.field (below_of_no_nodes rfl) .nil))
  | bound p context target h =>
    have target := (target.placed on.right.tail _ List.mem_cons_self).toTarget _ h
    exact below_node (ok.other (by decide) (by decide)) (.field (context.tree_below ok on.left)
      (.field (Expr.toTree_below ok _ target) .nil))

theorem WithItems.trees_below {is : List WithItem} (ok : Respects l P) (h : WithItems ts is) (on : l.Has ts) :
    Below P (.list (is.map WithItem.toTree)) := by
  refine below_list (List.forall_mem_map.2 ?_)
  cases h with
  | parens p q items => exact items.forall_on (WithItemPhrase.below_tree ok) on.tail.left
  | plain items => exact items.forall_on (WithItemPhrase.below_tree ok) on

theorem BasesPhrase.placed {as : List Expr × List Keyword} (h : BasesPhrase ts as) (on : l.Has ts) :
    ∀ e ∈ as.1 ++ as.2.map Keyword.value, e.Placed l := by
  cases h with
  | none => nofun
  | empty => nofun
  | some p q inner => exact inner.placed on.tail.left

theorem Decorators.placed {es : List Expr} (h : Decorators ts es) (on : l.Has ts) : ∀ e ∈ es, e.Placed l := by
  induction h with
  | nil => nofun
  | cons _ _ first _ ih =>
    exact List.forall_mem_cons.2 ⟨first.expr_placed on.tail.left, ih on.tail.right.tail⟩

/-- The nodes of statements stand where their tokens do, decorators apart. -/
theorem StmtPhrase.trees_below {f : StmtForm} {v : f.Value} (ok : Respects l P) (h : StmtPhrase f ts v)
    (on : l.Has ts) (decorated : ∀ e ∈ f.decorators, e.Placed l) : ∀ t ∈ f.trees v, Below P t := by
  induction h with
  | line h => exact h.trees_below ok on
  | compound _ ih => exact ih on nofun
  | noStatement | noOrelse | noHandler | noCase => nofun
  | furtherStatement _ _ ih ih' =>
    simp only [StmtForm.trees, List.map_append]
    exact List.forall_mem_append.2 ⟨ih on.left nofun, ih' on.right nofun⟩
  | inline h => exact h.trees_below ok on
  | indented _ _ _ _ _ ih ih' =>
    simp only [StmtForm.trees, List.map_append]
    exact List.forall_mem_append.2 ⟨ih on.tail.tail.left nofun, ih' on.tail.tail.right.left nofun⟩
  | orelse _ _ _ ih => exact ih on.tail.tail nofun
  | definition decorators _ ih => exact ih on.right (decorators.placed on.left)
  | @function as ts rs bs es isAsync ps r body w p q o c d mark parameters returns _ ih =>
    have inParens := on.right.tail.tail.tail
    have behind := inParens.right.tail
    have fields : BelowAll P [(.name, .text (Text.ofChars (Text.normalForm w))), (.args, ps.toTree),
        (.body, .list (stmtTrees body)), (.decoratorList, .list (exprTrees es)), (.returns, optExprTree r),
        (.typeComment, .null)] :=
      .field (below_of_no_nodes rfl) (.field (Params.toTree_below ok ps (parameters.placed inParens.left))
        (.field (below_stmts (ih behind.right.tail nofun)) (.field (exprTrees_below ok es decorated)
          (.field (optExprTree_below ok r (returns.placed Phrase.expr_placed behind.left))
            (.field (below_of_no_nodes rfl) .nil)))))
    cases isAsync <;> exact List.forall_mem_singleton.2 (below_other ok (by decide) (by decide) fields)
  | ofClass w p q d bases _ ih =>
    obtain ⟨positional, keywords⟩ := List.forall_mem_append.1 (bases.placed on.tail.tail.left)
    exact List.forall_mem_singleton.2 (below_other ok (by decide) (by decide) (.field (below_of_no_nodes rfl)
      (.field (exprTrees_below ok _ positional) (.field (keywordTrees_below ok _ keywords)
        (.field (below_stmts (ih on.tail.tail.right.tail nofun)) (.field (exprTrees_below ok _ decorated) .nil))))))
  | conditional _ _ test _ _ ih ih' | whileLoop _ _ test _ _ ih ih' | branch _ _ test _ _ ih ih' =>
    have behind := on.tail.right.tail
    exact List.forall_mem_singleton.2 (below_other ok (by decide) (by decide) (.field (test.tree_below ok on.tail.left)
      (.field (below_stmts (ih behind.left nofun)) (.field (below_stmts (ih' behind.right nofun)) .nil))))
  | lastBranch _ ih => exact ih on nofun
  | @forLoop as ts us bs vs isAsync e t i body rest p q d mark targets h iter _ _ ih ih' =>
    have target := (targets.placed on.right.tail.left _ List.mem_cons_self).toTarget _ h
    have behind := on.right.tail.right.tail
    have fields : BelowAll P [(.target, t.toTree), (.iter, i.toTree), (.body, .list (stmtTrees body)),
        (.orelse, .list (stmtTrees rest)), (.typeComment, .null)] :=
      .field (Expr.toTree_below ok t target) (.field (iter.tupled_below ok behind.left)
        (.field (below_stmts (ih behind.right.tail.left nofun)) (.field (below_stmts (ih' behind.right.tail.right nofun))
          (.field (below_of_no_nodes rfl) .nil))))
    cases isAsync <;> exact List.forall_mem_singleton.2 (below_other ok (by decide) (by decide) fields)
  | @withBlock as ts bs isAsync is body p d mark items _ ih =>
    have fields : BelowAll P [(.items, .list (is.map WithItem.toTree)), (.body, .list (stmtTrees body)), (.typeComment, .null)] :=
      .field (items.trees_below ok on.right.tail.left)
        (.field (below_stmts (ih on.right.tail.right.tail nofun)) (.field (below_of_no_nodes rfl) .nil))
    cases isAsync <;> exact List.forall_mem_singleton.2 (below_other ok (by decide) (by decide) fields)
  | @tryExcept bs hs us vs star body rest final handlers p d _ _ _ _ _ ih ih' ih₂ ih₃ =>
    have behind := on.tail.tail.right
    have handled : Below P (.list (handlerTrees handlers)) := by
      rw [handlerTrees_eq_map]
      exact below_list (ih' behind.left nofun)
    have fields : BelowAll P [(.body, .list (stmtTrees body)), (.handlers, .list (handlerTrees handlers)),
        (.orelse, .list (stmtTrees rest)), (.finalbody, .list (stmtTrees final))] :=
      .field (below_stmts (ih on.tail.tail.left nofun)) (.field handled (.field (below_stmts (ih₂ behind.right.left nofun))
        (.field (below_stmts (ih₃ behind.right.right nofun)) .nil)))
    cases star <;> exact List.forall_mem_singleton.2 (below_other ok (by decide) (by decide) fields)
  | tryFinally _ _ _ _ _ ih ih' =>
    exact List.forall_mem_singleton.2 (below_other ok (by decide) (by decide) (.field (below_stmts (ih on.tail.tail.left nofun))
      (.field (below_of_no_nodes rfl) (.field (below_of_no_nodes rfl) (.field (below_stmts (ih' on.tail.tail.right nofun)) .nil)))))
  | catchAll _ _ _ ih =>
    exact List.forall_mem_singleton.2 (below_other ok (by decide) (by decide) (.field (below_of_no_nodes rfl)
      (.field (below_optText _) (.field (below_stmts (ih on.tail.tail nofun)) .nil))))
  | catch_ _ _ _ type _ _ ih =>
    have behind := on.tail.right
    exact List.forall_mem_singleton.2 (below_other ok (by decide) (by decide) (.field (type.tree_below ok behind.left)
      (.field (below_optText _) (.field (below_stmts (ih behind.right.right.tail nofun)) .nil))))
  | furtherHandler _ _ ih ih' | furtherCase _ _ ih ih' =>
    exact List.forall_mem_append.2 ⟨ih on.left nofun, ih' on.right nofun⟩
  | matching _ _ _ _ _ subject _ _ _ ih ih' =>
    refine List.forall_mem_singleton.2 (below_other ok (by decide) (by decide) (.field (subject.tupled_below ok on.tail.left)
      (.field ?_ .nil)))
    have behind := on.tail.right.tail.tail.tail
    rw [caseTrees_eq_map]
    exact below_list (List.forall_mem_append.2 ⟨ih behind.left nofun, ih' behind.right.left nofun⟩)
  | case _ _ pattern guard _ ih =>
    have behind := on.tail.right
    exact List.forall_mem_singleton.2 (below_node (ok.other (by decide) (by decide))
      (.field (pattern.trees_below ok on.tail.left _ List.mem_cons_self)
        (.field (optExprTree_below ok _ (guard.placed Phrase.expr_placed behind.left))
          (.field (below_stmts (ih behind.right.tail nofun)) .nil))))

end Statements

end CallLint.Source

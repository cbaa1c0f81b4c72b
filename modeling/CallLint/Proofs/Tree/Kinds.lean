import CallLint.Proofs.Tree.Address
import CallLint.Proofs.Tree.Field

/-!
# Kinds of fields

What the fields of a node of each class hold in the tree of a source. A node conforms if each of its fields holds a value
of its kind and, where its class has one, its position is given in whole numbers; a tree is well formed if all its nodes
conform. `wellFormed_node` builds well-formed trees from well-formed parts.
-/

namespace CallLint.Tree

/-- Groups of classes that may stand in the same places. -/
inductive Category where
  | root | stmt | expr | pattern | context | boolOp | operator | unaryOp | compareOp | comprehension | handler
  | arguments | arg | keyword | alias | withitem | matchCase | typeIgnore
deriving DecidableEq, Repr

/-- The group of a class. -/
def NodeClass.category : NodeClass → Category
  | .module | .interactive | .expression | .functionType => .root
  | .functionDef | .asyncFunctionDef | .classDef | .returnStmt | .deleteStmt | .assign | .augAssign | .annAssign
  | .forStmt | .asyncFor | .whileStmt | .ifStmt | .withStmt | .asyncWith | .matchStmt | .raiseStmt | .tryStmt
  | .tryStar | .assertStmt | .importStmt | .importFrom | .globalStmt | .nonlocalStmt | .exprStmt | .passStmt
  | .breakStmt | .continueStmt => .stmt
  | .boolOp | .namedExpr | .binOp | .unaryOp | .lambda | .ifExp | .dict | .set | .listComp | .setComp | .dictComp
  | .generatorExp | .await | .yield | .yieldFrom | .compare | .call | .formattedValue | .joinedStr | .constant
  | .member | .subscript | .starred | .name | .list | .tuple | .slice => .expr
  | .matchValue | .matchSingleton | .matchSequence | .matchMapping | .matchClass | .matchStar | .matchAs
  | .matchOr => .pattern
  | .load | .store | .del => .context
  | .andOp | .orOp => .boolOp
  | .addOp | .subOp | .multOp | .matMultOp | .divOp | .modOp | .powOp | .lShiftOp | .rShiftOp | .bitOrOp | .bitXorOp
  | .bitAndOp | .floorDivOp => .operator
  | .invertOp | .notOp | .uAddOp | .uSubOp => .unaryOp
  | .eqOp | .notEqOp | .ltOp | .ltEOp | .gtOp | .gtEOp | .isOp | .isNotOp | .inOp | .notInOp => .compareOp
  | .comprehension => .comprehension
  | .exceptHandler => .handler
  | .arguments => .arguments
  | .arg => .arg
  | .keyword => .keyword
  | .alias => .alias
  | .withitem => .withitem
  | .matchCase => .matchCase

/-- What a field may hold. -/
inductive Kind where
  | one (c : Category)
  | optional (c : Category)
  | many (c : Category)
  /-- A list that is not empty. -/
  | several (c : Category)
  /-- A list in which some elements are absent. -/
  | manyOptional (c : Category)
  | identifier
  | optionalIdentifier
  | identifiers
  /-- The value of a constant. -/
  | plain
  | whole
  | optionalWhole
  | optionalText
deriving DecidableEq, Repr

/-- The fields of a class in visiting order, with their kinds. -/
def NodeClass.signature : NodeClass → List (Field × Kind)
  | .module => [(.body, .many .stmt), (.typeIgnores, .many .typeIgnore)]
  | .interactive => [(.body, .many .stmt)]
  | .expression => [(.body, .one .expr)]
  | .functionType => [(.argtypes, .many .expr), (.returns, .one .expr)]
  | .functionDef | .asyncFunctionDef =>
    [(.name, .identifier), (.args, .one .arguments), (.body, .many .stmt), (.decoratorList, .many .expr),
      (.returns, .optional .expr), (.typeComment, .optionalText)]
  | .classDef =>
    [(.name, .identifier), (.bases, .many .expr), (.keywords, .many .keyword), (.body, .many .stmt),
      (.decoratorList, .many .expr)]
  | .returnStmt | .yield => [(.value, .optional .expr)]
  | .exprStmt | .await | .yieldFrom | .matchValue => [(.value, .one .expr)]
  | .matchSingleton => [(.value, .plain)]
  | .deleteStmt => [(.targets, .many .expr)]
  | .assign => [(.targets, .several .expr), (.value, .one .expr), (.typeComment, .optionalText)]
  | .augAssign => [(.target, .one .expr), (.op, .one .operator), (.value, .one .expr)]
  | .annAssign => [(.target, .one .expr), (.annot, .one .expr), (.value, .optional .expr), (.simple, .whole)]
  | .forStmt | .asyncFor =>
    [(.target, .one .expr), (.iter, .one .expr), (.body, .many .stmt), (.orelse, .many .stmt),
      (.typeComment, .optionalText)]
  | .whileStmt | .ifStmt => [(.test, .one .expr), (.body, .many .stmt), (.orelse, .many .stmt)]
  | .ifExp => [(.test, .one .expr), (.body, .one .expr), (.orelse, .one .expr)]
  | .withStmt | .asyncWith => [(.items, .many .withitem), (.body, .many .stmt), (.typeComment, .optionalText)]
  | .matchStmt => [(.subject, .one .expr), (.cases, .many .matchCase)]
  | .raiseStmt => [(.exc, .optional .expr), (.cause, .optional .expr)]
  | .tryStmt | .tryStar =>
    [(.body, .many .stmt), (.handlers, .many .handler), (.orelse, .many .stmt), (.finalbody, .many .stmt)]
  | .assertStmt => [(.test, .one .expr), (.msg, .optional .expr)]
  | .importStmt => [(.names, .many .alias)]
  | .importFrom => [(.module, .optionalIdentifier), (.names, .many .alias), (.level, .optionalWhole)]
  | .globalStmt | .nonlocalStmt => [(.names, .identifiers)]
  | .boolOp => [(.op, .one .boolOp), (.values, .many .expr)]
  | .namedExpr => [(.target, .one .expr), (.value, .one .expr)]
  | .binOp => [(.left, .one .expr), (.op, .one .operator), (.right, .one .expr)]
  | .unaryOp => [(.op, .one .unaryOp), (.operand, .one .expr)]
  | .lambda => [(.args, .one .arguments), (.body, .one .expr)]
  | .dict => [(.keys, .manyOptional .expr), (.values, .many .expr)]
  | .set => [(.elts, .many .expr)]
  | .listComp | .setComp | .generatorExp => [(.elt, .one .expr), (.generators, .many .comprehension)]
  | .dictComp => [(.key, .one .expr), (.value, .one .expr), (.generators, .many .comprehension)]
  | .compare => [(.left, .one .expr), (.ops, .many .compareOp), (.comparators, .many .expr)]
  | .call => [(.func, .one .expr), (.args, .many .expr), (.keywords, .many .keyword)]
  | .formattedValue => [(.value, .one .expr), (.conversion, .whole), (.formatSpec, .optional .expr)]
  | .joinedStr => [(.values, .many .expr)]
  | .constant => [(.value, .plain), (.kind, .optionalText)]
  | .member => [(.value, .one .expr), (.attr, .identifier), (.ctx, .one .context)]
  | .subscript => [(.value, .one .expr), (.slice, .one .expr), (.ctx, .one .context)]
  | .starred => [(.value, .one .expr), (.ctx, .one .context)]
  | .name => [(.id, .identifier), (.ctx, .one .context)]
  | .list | .tuple => [(.elts, .many .expr), (.ctx, .one .context)]
  | .slice => [(.lower, .optional .expr), (.upper, .optional .expr), (.step, .optional .expr)]
  | .matchSequence | .matchOr => [(.patterns, .many .pattern)]
  | .matchMapping => [(.keys, .many .expr), (.patterns, .many .pattern), (.rest, .optionalIdentifier)]
  | .matchClass =>
    [(.cls, .one .expr), (.patterns, .many .pattern), (.kwdAttrs, .identifiers), (.kwdPatterns, .many .pattern)]
  | .matchStar => [(.name, .optionalIdentifier)]
  | .matchAs => [(.pattern, .optional .pattern), (.name, .optionalIdentifier)]
  | .comprehension => [(.target, .one .expr), (.iter, .one .expr), (.ifs, .many .expr), (.isAsync, .whole)]
  | .exceptHandler => [(.excType, .optional .expr), (.name, .optionalIdentifier), (.body, .many .stmt)]
  | .arguments =>
    [(.posonlyargs, .many .arg), (.args, .many .arg), (.vararg, .optional .arg), (.kwonlyargs, .many .arg),
      (.kwDefaults, .manyOptional .expr), (.kwarg, .optional .arg), (.defaults, .many .expr)]
  | .arg => [(.arg, .identifier), (.annot, .optional .expr), (.typeComment, .optionalText)]
  | .keyword => [(.arg, .optionalIdentifier), (.value, .one .expr)]
  | .alias => [(.name, .identifier), (.asname, .optionalIdentifier)]
  | .withitem => [(.contextExpr, .one .expr), (.optionalVars, .optional .expr)]
  | .matchCase => [(.pattern, .one .pattern), (.guard, .optional .expr), (.body, .many .stmt)]
  | _ => []

theorem NodeClass.signature_fields (c : NodeClass) : c.signature.map (·.1) = c.fields := by cases c <;> rfl

/-- No class has a field with the name of a position. -/
theorem NodeClass.position_not_field (c : NodeClass) :
    .lineno ∉ c.fields ∧ .colOffset ∉ c.fields ∧ .endLineno ∉ c.fields ∧ .endColOffset ∉ c.fields := by
  cases c <;> decide

/-- A node of a class of the group. -/
def HasCategory (t : Tree) (c : Category) : Prop := ∃ k, t.cls? = some k ∧ k.category = c

/-- Whether a value is of a kind. Nodes are judged by their class alone. -/
def Kind.Holds : Kind → Tree → Prop
  | one c, t => t.HasCategory c
  | optional c, t => t = null ∨ t.HasCategory c
  | many c, t => ∃ ts, t = .list ts ∧ ∀ u ∈ ts, u.HasCategory c
  | several c, t => ∃ u ts, t = .list (u :: ts) ∧ ∀ v ∈ u :: ts, v.HasCategory c
  | manyOptional c, t => ∃ ts, t = .list ts ∧ ∀ u ∈ ts, u = null ∨ u.HasCategory c
  | identifier, t => ∃ s, t = .text s
  | optionalIdentifier, t => t = null ∨ ∃ s, t = .text s
  | identifiers, t => ∃ ts, t = .list ts ∧ ∀ u ∈ ts, ∃ s, u = .text s
  | plain, t => t.items? = none ∧ t.isNode = false
  | whole, t => ∃ n, t = .int n
  | optionalWhole, t => t = null ∨ ∃ n, t = .int n
  | optionalText, t => t = null ∨ ∃ s, t = .text s

/-- A position in whole numbers, with columns from 0. -/
structure Extent where
  line : Int
  column : Int
  endLine : Int
  endColumn : Int

/-- A node at a position in whole numbers. -/
structure HasExtent (t : Tree) (s : Extent) : Prop where
  line : t.field? .lineno = some (.int s.line)
  column : t.field? .colOffset = some (.int s.column)
  endLine : t.field? .endLineno = some (.int s.endLine)
  endColumn : t.field? .endColOffset = some (.int s.endColumn)

/-- A node whose fields hold values of their kinds, at a position if its class has one. -/
structure Conforms (t : Tree) : Prop where
  isNode : t.isNode = true
  field : ∀ {c f k}, t.isA c = true → (f, k) ∈ c.signature → ∃ v, t.field? f = some v ∧ k.Holds v
  position : ∀ {c}, t.isA c = true → c.positioned = true → ∃ s, t.HasExtent s

/-- All nodes conform. -/
abbrev WellFormed (t : Tree) : Prop := t.Everywhere Conforms

theorem HasCategory.isNode {t : Tree} {c : Category} (h : t.HasCategory c) : t.isNode = true := by
  obtain ⟨k, hk, -⟩ := h
  rw [Tree.isNode, hk]
  rfl

theorem HasCategory.items? {t : Tree} {c : Category} (h : t.HasCategory c) : t.items? = none := by
  cases t with
  | list ts => obtain ⟨k, hk, -⟩ := h; cases hk
  | _ => rfl

/-- A node of a group that has one class only. -/
theorem HasCategory.isA {t : Tree} {c : NodeClass} (h : t.HasCategory c.category)
    (only : ∀ d, NodeClass.category d = c.category → d = c) : t.isA c = true := by
  obtain ⟨k, hk, hc⟩ := h
  rw [isA_iff, hk, only k hc]

theorem isA_keyword {t : Tree} (h : t.HasCategory .keyword) : t.isA .keyword = true :=
  HasCategory.isA (c := .keyword) h (by intro d; cases d <;> simp [NodeClass.category])

theorem isA_arg {t : Tree} (h : t.HasCategory .arg) : t.isA .arg = true :=
  HasCategory.isA (c := .arg) h (by intro d; cases d <;> simp [NodeClass.category])

theorem HasExtent.unique {t : Tree} {s s' : Extent} (h : t.HasExtent s) (h' : t.HasExtent s') : s = s' := by
  have l := h.line.symm.trans h'.line
  have c := h.column.symm.trans h'.column
  have el := h.endLine.symm.trans h'.endLine
  have ec := h.endColumn.symm.trans h'.endColumn
  obtain ⟨line, column, endLine, endColumn⟩ := s
  obtain ⟨line', column', endLine', endColumn'⟩ := s'
  simp only [Option.some.injEq, Tree.int.injEq] at l c el ec
  subst l c el ec
  rfl

section Fields

variable {t : Tree} {c : NodeClass} {f : Field}

theorem mem_fields {k : Kind} (h : (f, k) ∈ c.signature) : f ∈ c.fields := by
  rw [← c.signature_fields]
  exact List.mem_map.2 ⟨(f, k), h, rfl⟩

theorem Conforms.one {g : Category} (h : t.Conforms) (ht : t.isA c = true) (hf : (f, .one g) ∈ c.signature) :
    ∃ v, t.field? f = some v ∧ v.HasCategory g ∧ v ∈ t.children := by
  obtain ⟨v, hv, hk⟩ := h.field ht hf
  exact ⟨v, hv, hk, child_of_field ht (mem_fields hf) hv hk.isNode⟩

theorem Conforms.optional {g : Category} (h : t.Conforms) (ht : t.isA c = true)
    (hf : (f, .optional g) ∈ c.signature) :
    ∃ v, t.field? f = some v ∧ (v = null ∨ v.HasCategory g ∧ v ∈ t.children) := by
  obtain ⟨v, hv, hk⟩ := h.field ht hf
  exact ⟨v, hv, hk.imp_right fun hk => ⟨hk, child_of_field ht (mem_fields hf) hv hk.isNode⟩⟩

theorem Conforms.many {g : Category} (h : t.Conforms) (ht : t.isA c = true) (hf : (f, .many g) ∈ c.signature) :
    ∃ ts, t.field? f = some (.list ts) ∧ ∀ u ∈ ts, u.HasCategory g ∧ u ∈ t.children := by
  obtain ⟨v, hv, ts, rfl, hk⟩ := h.field ht hf
  exact ⟨ts, hv, fun u hu => ⟨hk u hu, child_of_list ht (mem_fields hf) hv hu (hk u hu).isNode⟩⟩

theorem Conforms.several {g : Category} (h : t.Conforms) (ht : t.isA c = true)
    (hf : (f, .several g) ∈ c.signature) :
    ∃ u ts, t.field? f = some (.list (u :: ts)) ∧ ∀ v ∈ u :: ts, v.HasCategory g ∧ v ∈ t.children := by
  obtain ⟨v, hv, u, ts, rfl, hk⟩ := h.field ht hf
  exact ⟨u, ts, hv, fun v hu => ⟨hk v hu, child_of_list ht (mem_fields hf) hv hu (hk v hu).isNode⟩⟩

theorem Conforms.manyOptional {g : Category} (h : t.Conforms) (ht : t.isA c = true)
    (hf : (f, .manyOptional g) ∈ c.signature) :
    ∃ ts, t.field? f = some (.list ts) ∧ ∀ u ∈ ts, u = null ∨ u.HasCategory g ∧ u ∈ t.children := by
  obtain ⟨v, hv, ts, rfl, hk⟩ := h.field ht hf
  exact ⟨ts, hv, fun u hu => (hk u hu).imp_right fun hg =>
    ⟨hg, child_of_list ht (mem_fields hf) hv hu hg.isNode⟩⟩

theorem Conforms.identifier (h : t.Conforms) (ht : t.isA c = true) (hf : (f, .identifier) ∈ c.signature) :
    ∃ s, t.field? f = some (.text s) := by
  obtain ⟨v, hv, s, rfl⟩ := h.field ht hf
  exact ⟨s, hv⟩

theorem Conforms.optionalIdentifier (h : t.Conforms) (ht : t.isA c = true)
    (hf : (f, .optionalIdentifier) ∈ c.signature) :
    ∃ v, t.field? f = some v ∧ (v = null ∨ ∃ s, v = .text s) :=
  h.field ht hf

end Fields

/-! Building well-formed trees. -/

/-- A value of a kind whose nodes are well formed. -/
def Kind.Fits (k : Kind) (t : Tree) : Prop := k.Holds t ∧ ∀ u ∈ nodesIn t, u.WellFormed

theorem Kind.fits_of_no_nodes {k : Kind} {t : Tree} (h : k.Holds t) (no : nodesIn t = []) : k.Fits t :=
  ⟨h, fun _ hu => absurd (no ▸ hu) List.not_mem_nil⟩

theorem Kind.fits_one {c : Category} {t : Tree} (h : t.HasCategory c) (wf : t.WellFormed) : (Kind.one c).Fits t := by
  refine ⟨h, fun u hu => ?_⟩
  rw [nodesIn_of_isNode h.isNode, List.mem_singleton] at hu
  rw [hu]
  exact wf

theorem Kind.fits_null {c : Category} : (Kind.optional c).Fits null := fits_of_no_nodes (Or.inl rfl) rfl

theorem Kind.Fits.optional {c : Category} {t : Tree} (h : (Kind.one c).Fits t) : (Kind.optional c).Fits t :=
  ⟨Or.inr h.1, h.2⟩

theorem Kind.fits_nil {c : Category} : (Kind.many c).Fits (.list []) :=
  fits_of_no_nodes ⟨[], rfl, fun _ hu => absurd hu List.not_mem_nil⟩ rfl

theorem Kind.Fits.cons {c : Category} {t : Tree} {ts : List Tree} (h : (Kind.one c).Fits t)
    (hs : (Kind.many c).Fits (.list ts)) : (Kind.many c).Fits (.list (t :: ts)) := by
  obtain ⟨⟨us, same, each⟩, below⟩ := hs
  cases same
  refine ⟨⟨_, rfl, List.forall_mem_cons.2 ⟨h.1, each⟩⟩, fun u hu => ?_⟩
  rcases List.mem_cons.1 (List.mem_filter.1 hu).1 with rfl | hm
  · exact h.2 u (by rw [nodesIn_of_isNode h.1.isNode]; exact List.mem_singleton.2 rfl)
  · exact below u (List.mem_filter.2 ⟨hm, (List.mem_filter.1 hu).2⟩)

theorem Kind.fits_map {α : Type} {c : Category} {g : α → Tree} (h : ∀ a, (Kind.one c).Fits (g a)) (as : List α) :
    (Kind.many c).Fits (.list (as.map g)) := by
  induction as with
  | nil => exact fits_nil
  | cons a as ih => exact (h a).cons ih

theorem Kind.Fits.several {c : Category} {t : Tree} {ts : List Tree} (h : (Kind.many c).Fits (.list (t :: ts))) :
    (Kind.several c).Fits (.list (t :: ts)) := by
  obtain ⟨⟨us, same, each⟩, below⟩ := h
  cases same
  exact ⟨⟨t, ts, rfl, each⟩, below⟩

theorem Kind.fits_nil_optional {c : Category} : (Kind.manyOptional c).Fits (.list []) :=
  fits_of_no_nodes ⟨[], rfl, fun _ hu => absurd hu List.not_mem_nil⟩ rfl

theorem Kind.Fits.cons_optional {c : Category} {t : Tree} {ts : List Tree} (h : (Kind.optional c).Fits t)
    (hs : (Kind.manyOptional c).Fits (.list ts)) : (Kind.manyOptional c).Fits (.list (t :: ts)) := by
  obtain ⟨⟨us, same, each⟩, below⟩ := hs
  cases same
  refine ⟨⟨_, rfl, List.forall_mem_cons.2 ⟨h.1, each⟩⟩, fun u hu => ?_⟩
  obtain ⟨hm, node⟩ := List.mem_filter.1 hu
  rcases List.mem_cons.1 hm with rfl | hm
  · exact h.2 u (by rw [nodesIn_of_isNode node]; exact List.mem_singleton.2 rfl)
  · exact below u (List.mem_filter.2 ⟨hm, node⟩)

/-- Fields written in visiting order, each of its kind. -/
inductive Fitting : List (Field × Kind) → List (Field × Tree) → Prop where
  | nil : Fitting [] []
  | field {f : Field} {k : Kind} {v : Tree} {sig : List (Field × Kind)} {fs : List (Field × Tree)} (fits : k.Fits v)
      (rest : Fitting sig fs) : Fitting ((f, k) :: sig) ((f, v) :: fs)

section Fitting

variable {sig : List (Field × Kind)} {fs : List (Field × Tree)} {f : Field} {k : Kind}

theorem Fitting.lookup (h : Fitting sig fs) (nodup : (sig.map (·.1)).Nodup) (hf : (f, k) ∈ sig)
    (rest : List (Field × Tree)) : ∃ v, (fs ++ rest).lookup f = some v ∧ k.Fits v := by
  induction h with
  | nil => cases hf
  | @field g l w sig fs fits hs ih =>
    obtain ⟨hg, nodup⟩ := List.nodup_cons.1 nodup
    rcases List.mem_cons.1 hf with same | hf
    · cases same
      exact ⟨w, by simp, fits⟩
    · have ne : (f == g) = false := beq_false_of_ne fun e => hg (List.mem_map.2 ⟨(f, k), hf, e⟩)
      simpa [List.lookup_cons, ne] using ih nodup hf

/-- A field that the class does not have is looked for behind those that it has. -/
theorem Fitting.lookup_behind (h : Fitting sig fs) (hf : f ∉ sig.map (·.1)) (rest : List (Field × Tree)) :
    (fs ++ rest).lookup f = rest.lookup f := by
  induction h with
  | nil => rfl
  | @field g l w sig fs fits hs ih =>
    rw [List.map_cons, List.mem_cons, not_or] at hf
    have ne : (f == g) = false := beq_false_of_ne hf.1
    simpa [List.lookup_cons, ne] using ih hf.2

end Fitting

/-- A node is well formed if its fields are written in visiting order, each of its kind, with the position behind. -/
theorem wellFormed_node {c : NodeClass} {fs rest : List (Field × Tree)} (h : Fitting c.signature fs)
    (position : c.positioned = true → ∃ s, (node c (fs ++ rest)).HasExtent s) : (node c (fs ++ rest)).WellFormed := by
  have nodup : (c.signature.map (·.1)).Nodup := by rw [c.signature_fields]; exact c.fields_nodup
  have stored : ∀ {f k}, (f, k) ∈ c.signature → ∃ v, (node c (fs ++ rest)).field? f = some v ∧ k.Fits v := by
    intro f k hf
    obtain ⟨v, hv, hk⟩ := h.lookup nodup hf rest
    exact ⟨v, by simp [field?, hv], hk⟩
  refine everywhere_of_children ⟨rfl, ?_, ?_⟩ ?_
  · intro d f k hd hf
    cases isA_unique (c := c) (by simp [isA, cls?]) hd
    obtain ⟨v, hv, hk⟩ := stored hf
    exact ⟨v, hv, hk.1⟩
  · intro d hd positioned
    cases isA_unique (c := c) (by simp [isA, cls?]) hd
    exact position positioned
  · intro u hu
    obtain ⟨d, f, hd, hf, hu⟩ := mem_children.1 hu
    cases hd
    rw [← c.signature_fields] at hf
    obtain ⟨⟨g, k⟩, hg, rfl⟩ := List.mem_map.1 hf
    obtain ⟨v, hv, hk⟩ := stored hg
    rw [fieldD_eq hv] at hu
    exact hk.2 u hu

end CallLint.Tree

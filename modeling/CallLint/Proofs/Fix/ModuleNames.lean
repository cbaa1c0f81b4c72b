import CallLint.Proofs.Fix.FreshNames
import CallLint.Proofs.Fix.Total
import CallLint.Proofs.Source.PlacedTree

/-!
# What the bindings of a module say

The bindings of a module have an entry for each name that some node counts as binding (`BindingAt`). The entry is a text if all these
bindings are top-level assignments of that text, and a conflict otherwise (`moduleBindings_settles`). What an entry says depends only on
which bindings there are (`Settles`), and recording one more binding keeps that (`Settles.record`), so that neither the two passes nor the
order of the statements matter.
-/

namespace CallLint.Tree

/-- A node that counts as a binding of a name: a name that is not read, a definition, a parameter, an import by its local name or else by
its name, up to the first dot, a declaration, or a handler with a name. -/
inductive Counts (t : Tree) (n : Text) : Prop where
  | target {c : Tree} (isName : t.isA .name = true) (context : t.field? .ctx = some c) (notRead : c.isA .load = false)
      (id : t.field? .id = some (.text n))
  | definition (isDef : t.isA .functionDef = true ∨ t.isA .asyncFunctionDef = true ∨ t.isA .classDef = true)
      (name : t.field? .name = some (.text n))
  | parameter (isArg : t.isA .arg = true) (name : t.field? .arg = some (.text n))
  | localName {whole : Text} (isAlias : t.isA .alias = true) (name : t.field? .asname = some (.text whole)) (some_char : whole ≠ [])
      (first : Fix.beforeDot whole = n)
  | imported {v : Tree} {whole : Text} (isAlias : t.isA .alias = true) (noLocal : t.field? .asname = some v)
      (absent : v = null ∨ v = .text []) (name : t.field? .name = some (.text whole)) (first : Fix.beforeDot whole = n)
  | declared {names : List Tree} (isDeclaration : t.isA .globalStmt = true ∨ t.isA .nonlocalStmt = true)
      (names_eq : t.field? .names = some (.list names)) (mem : .text n ∈ names)
  | handler (isHandler : t.isA .exceptHandler = true) (name : t.field? .name = some (.text n)) (some_char : n ≠ [])

/-- A module binds nothing by itself. -/
theorem Counts.not_module {t : Tree} {n : Text} (h : t.Counts n) : ¬ t.isA .module = true := by
  intro isModule
  have other {c : NodeClass} (isA : t.isA c = true) (ne : c ≠ .module) : False := ne (isA_unique isA isModule)
  cases h with
  | target isA => exact other isA (by decide)
  | definition isA => rcases isA with isA | isA | isA <;> exact other isA (by decide)
  | parameter isA => exact other isA (by decide)
  | localName isA => exact other isA (by decide)
  | imported isA => exact other isA (by decide)
  | declared isA => rcases isA with isA | isA <;> exact other isA (by decide)
  | handler isA => exact other isA (by decide)

/-- An assignment of a text to a single target, which is a name. -/
structure AssignsText (statement target : Tree) (v : Text) : Prop where
  isAssign : statement.isA .assign = true
  targets : statement.field? .targets = some (.list [target])
  isName : target.isA .name = true
  value : ∃ e, statement.field? .value = some e ∧ e.HoldsText v

/-- The target is the first child of the statement. -/
theorem AssignsText.child {statement target : Tree} {v : Text} (h : statement.AssignsText target v) :
    statement.children[0]? = some target :=
  Fix.target_child h.isAssign h.targets h.isName

/-- The address of a node in a module as that of the only target of an assignment of a text directly in the body. -/
def ConstantAt (t : Tree) (a : List Nat) (u : Tree) (v : Text) : Prop :=
  ∃ body i statement, t.field? .body = some (.list body) ∧ body[i]? = some statement ∧ a = [i, 0] ∧ statement.AssignsText u v

/-- The node at an address of a module binds a name: to a text if it is the target of a constant, to nothing in particular if it counts as
a binding otherwise. -/
inductive BindingAt (t : Tree) (a : List Nat) (n : Text) : Option Text → Prop where
  | constant {u : Tree} {v : Text} (at_u : t.at? a = some u) (constant : t.ConstantAt a u v) (id : u.field? .id = some (.text n)) :
      BindingAt t a n (some v)
  | other {u : Tree} (at_u : t.at? a = some u) (counts : u.Counts n) (other : ∀ v, ¬ t.ConstantAt a u v) : BindingAt t a n none

end CallLint.Tree

namespace CallLint.Fix

open CallLint.Tree (Fault Occurrence AssignsText ConstantAt BindingAt bind_eq_ok field_eq_ok isA_iff)

/-! ### Entries -/

/-- What an entry says of the values that a name is bound to: that there are none, that all are one text, or neither. -/
inductive Settles (values : Option Text → Prop) : Option (Option Text) → Prop where
  | unbound (absent : ∀ w, ¬ values w) : Settles values none
  | text {v : Text} (bound : values (some v)) (same : ∀ w, values w → w = some v) : Settles values (some (some v))
  | conflict {w : Option Text} (bound : values w) (differ : ∀ v, ∃ w, values w ∧ w ≠ some v) : Settles values (some none)

section Settles

variable {values values' : Option Text → Prop} {e e' : Option (Option Text)}

theorem Settles.congr (h : Settles values e) (iff : ∀ w, values w ↔ values' w) : Settles values' e := by
  obtain rfl : values = values' := funext fun w => propext (iff w)
  exact h

/-- The values alone decide what the entry says. -/
theorem Settles.unique (h : Settles values e) (h' : Settles values e') : e = e' := by
  cases h with
  | unbound absent =>
    cases h' with
    | unbound => rfl
    | text bound => exact absurd bound (absent _)
    | conflict bound => exact absurd bound (absent _)
  | text bound same =>
    cases h' with
    | unbound absent => exact absurd bound (absent _)
    | text _ same' => rw [same' _ bound]
    | conflict _ differ =>
      obtain ⟨w, hw, ne⟩ := differ _
      exact absurd (same w hw) ne
  | conflict bound differ =>
    cases h' with
    | unbound absent => exact absurd bound (absent _)
    | text _ same =>
      obtain ⟨w, hw, ne⟩ := differ _
      exact absurd (same w hw) ne
    | conflict => rfl

theorem Settles.ne_none (h : Settles values e) : e ≠ none ↔ ∃ w, values w := by
  cases h with
  | unbound absent => simpa using absent
  | text bound => exact iff_of_true nofun ⟨_, bound⟩
  | conflict bound => exact iff_of_true nofun ⟨_, bound⟩

theorem Settles.eq_text (h : Settles values e) {v : Text} : e = some (some v) ↔ (∃ w, values w) ∧ ∀ w, values w → w = some v := by
  constructor
  · rintro rfl
    cases h with
    | text bound same => exact ⟨⟨_, bound⟩, same⟩
  · rintro ⟨⟨w, hw⟩, same⟩
    exact h.unique (.text (same w hw ▸ hw) same)

theorem Settles.eq_conflict (h : Settles values e) : e = some none ↔ (∃ w, values w) ∧ ∀ v, ∃ w, values w ∧ w ≠ some v := by
  constructor
  · rintro rfl
    cases h with
    | conflict bound differ => exact ⟨⟨_, bound⟩, differ⟩
  · rintro ⟨⟨w, hw⟩, differ⟩
    exact h.unique (.conflict hw differ)

end Settles

namespace Bindings

variable {b : Bindings} {name : Tree} {value : Option Text} {s : Text}

theorem binds_iff : b.binds name = true ↔ b.valueOf? name ≠ none := by
  rw [valueOf?, Ne, Option.map_eq_none_iff, List.find?_eq_none, binds, List.any_eq_true]
  simp

/-- An entry keeps its key when a binding is recorded. -/
theorem key_merge (e : Tree × Option Text) :
    (if e.1.same name then (e.1, if e.2 == value then e.2 else none) else (e.1, e.2)).1 = e.1 := by
  split <;> rfl

theorem valueOf?_record_of_ne (ne : name ≠ .text s) : (b.record name value).valueOf? (.text s) = b.valueOf? (.text s) := by
  unfold record
  split
  · simp only [valueOf?, List.find?_map, Function.comp_def, key_merge, Option.map_map]
    cases found : b.find? fun e => e.1.same (.text s) with
    | none => rfl
    | some e =>
      have same := List.find?_some found
      have key : e.1 = .text s := Tree.same_text.1 same
      have other : e.1.same name = false := Bool.eq_false_iff.2 fun same => ne (Tree.text_same.1 (key ▸ same))
      simp [other]
  · have other : name.same (.text s) = false := Bool.eq_false_iff.2 fun same => ne (Tree.same_text.1 same)
    simp [valueOf?, List.find?_append, other]

theorem valueOf?_record_self : (b.record (.text s) value).valueOf? (.text s) =
    some ((b.valueOf? (.text s)).elim value fun w => if w == value then w else none) := by
  unfold record
  split
  · next bound =>
    simp only [valueOf?, List.find?_map, Function.comp_def, key_merge, Option.map_map]
    cases found : b.find? fun e => e.1.same (.text s) with
    | none =>
      obtain ⟨e, he, same⟩ := List.any_eq_true.1 bound
      exact absurd same (List.find?_eq_none.1 found e he)
    | some e =>
      have key := List.find?_some found
      simp [key]
  · next fresh =>
    have none : b.find? (fun e => e.1.same (.text s)) = none :=
      List.find?_eq_none.2 fun e he same => fresh (List.any_eq_true.2 ⟨e, he, same⟩)
    have self : (Tree.text s).same (.text s) = true := Tree.same_text.2 rfl
    simp [valueOf?, List.find?_append, none, self]

end Bindings

section Recording

variable {values : Option Text → Prop} {b b' : Bindings} {s : Text}

/-- Recording a binding adds its value to those of its name. -/
theorem Settles.record (h : Settles values (b.valueOf? (.text s))) (name : Tree) (value : Option Text) :
    Settles (fun w => values w ∨ name = .text s ∧ w = value) ((b.record name value).valueOf? (.text s)) := by
  by_cases own : name = .text s
  · subst own
    rw [Bindings.valueOf?_record_self]
    generalize b.valueOf? (.text s) = entry at h
    suffices added : Settles (fun w => values w ∨ w = value) (some (entry.elim value fun w => if w == value then w else none)) from
      added.congr fun w => by simp
    cases h with
    | unbound absent =>
      cases value with
      | none => exact .conflict (.inr rfl) fun v => ⟨none, .inr rfl, nofun⟩
      | some v => exact .text (.inr rfl) fun w hw => hw.resolve_left (absent w)
    | @text v bound same =>
      by_cases eq : some v = value
      · subst eq
        simp only [Option.elim, beq_self_eq_true, if_true]
        exact .text (.inl bound) fun w hw => hw.elim (same w) id
      · simp only [Option.elim, beq_eq_false_iff_ne.2 eq, Bool.false_eq_true, if_false]
        refine .conflict (.inl bound) fun u => ?_
        by_cases first : some v = some u
        · exact ⟨value, .inr rfl, fun same => eq (first.trans same.symm)⟩
        · exact ⟨some v, .inl bound, first⟩
    | conflict bound differ =>
      simp only [Option.elim, ite_self]
      refine .conflict (.inl bound) fun v => ?_
      obtain ⟨w, hw, ne⟩ := differ v
      exact ⟨w, .inl hw, ne⟩
  · rw [Bindings.valueOf?_record_of_ne own]
    exact h.congr fun w => by simp [own]

theorem Settles.foldlM_bind {names : List Tree} (h : Settles values (b.valueOf? (.text s)))
    (run : names.foldlM (fun (b : Bindings) name => b.bind name none) b = .ok b') :
    Settles (fun w => values w ∨ .text s ∈ names ∧ w = none) (b'.valueOf? (.text s)) := by
  induction names generalizing b values with
  | nil =>
    cases run
    exact h.congr fun w => by simp
  | cons name names ih =>
    rw [List.foldlM_cons] at run
    obtain ⟨c, hc, run⟩ := bind_eq_ok.1 run
    rw [Bindings.bind_eq_record hc] at run
    refine (ih (h.record name none) run).congr fun w => ?_
    rw [List.mem_cons, eq_comm (a := Tree.text s)]
    tauto

/-- The pass over the constants adds their texts. -/
theorem Settles.bindConstants {statements : List (Tree × Nat)} {addresses : List (List Nat)}
    (h : Settles values (b.valueOf? (.text s))) (run : bindConstants b statements = .ok (b', addresses)) :
    Settles (fun w => values w ∨ ∃ x ∈ statements, ∃ v, constantAssign? x.1 = .ok (some (.text s, v)) ∧ w = some v)
      (b'.valueOf? (.text s)) := by
  induction statements generalizing b values addresses with
  | nil =>
    cases run
    exact h.congr fun w => by simp
  | cons x statements ih =>
    obtain ⟨assign, run⟩ | ⟨⟨name, v⟩, others, assign, -, run⟩ := bindConstants_cons run
    · refine (ih h run).congr fun w => ?_
      simp [assign]
    · refine (ih (h.record name (some v)) run).congr fun w => ?_
      simp only [List.exists_mem_cons_iff, assign, Except.ok.injEq, Option.some.injEq, Prod.mk.injEq, or_assoc]
      refine or_congr_right (or_congr_left ⟨?_, ?_⟩)
      · rintro ⟨own, rfl⟩
        exact ⟨v, ⟨own, rfl⟩, rfl⟩
      · rintro ⟨u, ⟨own, rfl⟩, rfl⟩
        exact ⟨own, rfl⟩

/-- The pass over the occurrences adds no texts. -/
theorem Settles.bindOccurrences {recorded : List (List Nat)} {os : List Occurrence} (h : Settles values (b.valueOf? (.text s)))
    (run : bindOccurrences recorded b os = .ok b') :
    Settles (fun w => values w ∨ (∃ o ∈ os, ∃ names, occurrenceNames recorded o = .ok names ∧ .text s ∈ names) ∧ w = none)
      (b'.valueOf? (.text s)) := by
  induction os generalizing b values with
  | nil =>
    cases run
    exact h.congr fun w => by simp
  | cons o os ih =>
    rw [Fix.bindOccurrences] at run
    obtain ⟨names, names_eq, run⟩ := bind_eq_ok.1 run
    obtain ⟨c, hc, run⟩ := bind_eq_ok.1 run
    refine (ih (h.foldlM_bind hc) run).congr fun w => ?_
    simp only [List.exists_mem_cons_iff, names_eq, Except.ok.injEq, exists_eq_left', or_and_right, or_assoc]

/-- The pass over the constants leaves the addresses of their targets. -/
theorem mem_bindConstants {statements : List (Tree × Nat)} {addresses : List (List Nat)}
    (run : bindConstants b statements = .ok (b', addresses)) {address : List Nat} :
    address ∈ addresses ↔ ∃ x ∈ statements, ∃ p, constantAssign? x.1 = .ok (some p) ∧ address = [0, x.2] := by
  induction statements generalizing b addresses with
  | nil =>
    cases run
    simp
  | cons x statements ih =>
    obtain ⟨assign, rest⟩ | ⟨p, others, assign, rfl, rest⟩ := bindConstants_cons run
    · simp [ih rest, assign]
    · rw [List.mem_cons, ih rest]
      simp only [List.exists_mem_cons_iff, assign, Except.ok.injEq, Option.some.injEq, exists_eq_left']

end Recording

/-! ### Nodes -/

section Nodes

variable {u : Tree} {s : Text}

theorem boundNames_counts (conforms : u.Conforms) {names : List Tree} (h : boundNames u = .ok names) (mem : .text s ∈ names) :
    u.Counts s := by
  have single : ∀ {f}, (u.field f >>= fun name => pure [name]) = .ok names → u.field? f = some (.text s) := by
    intro f h
    obtain ⟨name, name_eq, h⟩ := bind_eq_ok.1 h
    cases h
    exact List.mem_singleton.1 mem ▸ field_eq_ok.1 name_eq
  have many : ∀ {c}, u.isA c = true → (Tree.Field.names, Tree.Kind.identifiers) ∈ c.signature →
      (u.field .names >>= Tree.iterate) = .ok names → u.field? .names = some (.list names) := by
    intro c isA signature h
    obtain ⟨_, names_eq, ts, rfl, -⟩ := conforms.field isA signature
    rw [field_eq_ok.2 names_eq] at h
    cases h
    exact names_eq
  unfold boundNames at h
  split at h
  · next isA => exact .definition (.inl (isA_iff.2 isA)) (single h)
  · next isA => exact .definition (.inr (.inl (isA_iff.2 isA))) (single h)
  · next isA => exact .definition (.inr (.inr (isA_iff.2 isA))) (single h)
  · next isA => exact .parameter (isA_iff.2 isA) (single h)
  · next isA =>
    have isAlias := isA_iff.2 isA
    obtain ⟨asname, asname_eq, kinds⟩ := conforms.optionalIdentifier isAlias (f := .asname) (by decide)
    obtain ⟨whole, whole_eq⟩ := conforms.identifier isAlias (f := .name) (by decide)
    obtain ⟨name, imported, h⟩ := bind_eq_ok.1 h
    cases h
    obtain rfl := List.mem_singleton.1 mem
    have unnamed (absent : asname = .null ∨ asname = .text []) : u.Counts s := by
      have falsy : asname.truthy = false := by rcases absent with rfl | rfl <;> rfl
      rw [importedName_first asname_eq falsy whole_eq] at imported
      cases imported
      exact .imported isAlias asname_eq absent whole_eq rfl
    rcases kinds with rfl | ⟨t, rfl⟩
    · exact unnamed (.inl rfl)
    · by_cases empty : t = []
      · exact unnamed (.inr (by rw [empty]))
      · rw [importedName_localName asname_eq empty] at imported
        cases imported
        exact .localName isAlias asname_eq empty rfl
  · next isA => exact .declared (.inl (isA_iff.2 isA)) (many (isA_iff.2 isA) (by decide) h) mem
  · next isA => exact .declared (.inr (isA_iff.2 isA)) (many (isA_iff.2 isA) (by decide) h) mem
  · next isA =>
    obtain ⟨name, name_eq, h⟩ := bind_eq_ok.1 h
    cases h
    split at mem
    · next truthy =>
      obtain rfl := List.mem_singleton.1 mem
      refine .handler (isA_iff.2 isA) (field_eq_ok.1 name_eq) ?_
      rintro rfl
      cases truthy
    · cases mem
  · cases h
    cases mem

/-- What a node introduces is what it counts as binding. -/
theorem introduces_iff_counts (conforms : u.Conforms) : Introduces u s ↔ u.Counts s := by
  constructor
  · rintro ⟨names, h, mem⟩
    unfold occurrenceNames at h
    split at h
    · next isName =>
      obtain ⟨c, context, h⟩ := bind_eq_ok.1 h
      split at h
      · cases h
        cases mem
      · next notRead =>
        obtain ⟨id, id_eq, h⟩ := bind_eq_ok.1 h
        cases h
        obtain rfl := List.mem_singleton.1 mem
        exact .target isName (field_eq_ok.1 context) (by simpa using notRead) (field_eq_ok.1 id_eq)
    · exact boundNames_counts conforms h mem
  · intro counts
    cases counts with
    | target isName context notRead id =>
      exact ⟨[.text s], by simp [occurrenceNames, isName, field_eq_ok.2 context, notRead, field_eq_ok.2 id], by simp⟩
    | definition isDef name =>
      rcases isDef with h | h | h
      all_goals exact introduces_of_single h (by decide) (by simp [boundNames, isA_iff.1 h, field_eq_ok.2 name])
    | parameter isArg name => exact introduces_of_single isArg (by decide) (by simp [boundNames, isA_iff.1 isArg, field_eq_ok.2 name])
    | localName isAlias name some_char first =>
      refine introduces_of_single isAlias (by decide) ?_
      simp [boundNames, isA_iff.1 isAlias, importedName_localName name some_char, first]
    | imported isAlias noLocal absent name first =>
      have falsy := importedName_first noLocal (by rcases absent with rfl | rfl <;> rfl) name
      exact introduces_of_single isAlias (by decide) (by simp [boundNames, isA_iff.1 isAlias, falsy, first])
    | declared isDeclaration names_eq mem => exact introduces_declared isDeclaration names_eq mem
    | handler isHandler name some_char =>
      refine introduces_of_single isHandler (by decide) ?_
      simp [boundNames, isA_iff.1 isHandler, field_eq_ok.2 name, Tree.truthy_text some_char]

/-- An occurrence gives the names that its node counts as binding, unless it is a name that has been recorded already. -/
theorem occurrenceNames_iff {recorded : List (List Nat)} {o : Occurrence} (conforms : o.node.Conforms) :
    (∃ names, occurrenceNames recorded o = .ok names ∧ .text s ∈ names) ↔
      o.node.Counts s ∧ ¬ (o.node.isA .name = true ∧ o.address ∈ recorded) := by
  by_cases done : o.node.isA .name = true ∧ o.address ∈ recorded
  · simp only [done, and_self, not_true, and_false, iff_false]
    rintro ⟨names, h, mem⟩
    unfold occurrenceNames at h
    rw [if_pos done.1] at h
    obtain ⟨c, -, h⟩ := bind_eq_ok.1 h
    rw [if_pos (by simp [done.2])] at h
    cases h
    cases mem
  · rw [occurrenceNames_eq fun isName mem => done ⟨isName, mem⟩, and_iff_left done]
    exact introduces_iff_counts conforms

/-- The assignments of texts to single names, by what they are. -/
theorem constantAssign?_iff {statement : Tree} (wf : statement.WellFormed) {v : Text} :
    constantAssign? statement = .ok (some (.text s, v)) ↔ ∃ target, statement.AssignsText target v ∧ target.field? .id = some (.text s) := by
  constructor
  · intro h
    obtain ⟨isAssign, target, e, targets, isName, id, value, literal, text⟩ := constantAssign?_eq_some h
    obtain ⟨w, hw⟩ := (Tree.isStringLiteral_eq_ok literal).1 rfl
    cases hw.value.symm.trans text
    exact ⟨target, ⟨isAssign, targets, isName, e, value, hw⟩, id⟩
  · rintro ⟨target, ⟨isAssign, targets, isName, e, value, text⟩, id⟩
    have child : e ∈ statement.children := by
      exact Tree.child_of_field isAssign (by decide) value (Tree.isNode_of_isA text.isConstant)
    obtain ⟨literal, hl, iff⟩ := Tree.isStringLiteral_eq (wf.child child).root.measured.value
    obtain rfl : literal = true := iff.2 ⟨v, text⟩
    simp [constantAssign?, isAssign, field_eq_ok.2 targets, Tree.iterate, isName, field_eq_ok.2 value, hl, field_eq_ok.2 id,
      field_eq_ok.2 text.value, Tree.text?]

end Nodes

/-! ### Modules -/

section Modules

variable {tree : Tree} {body : List Tree} {n : Text} (wf : tree.WellFormed) (isModule : tree.isA .module = true)
  (body_eq : tree.field? .body = some (.list body))

include wf isModule body_eq

/-- The children of a module are its statements and, behind them, what is no statement. -/
theorem children_module : tree.children = body ++ Tree.nodesIn (tree.fieldD .typeIgnores) := by
  obtain ⟨ts, ts_eq, each⟩ := wf.root.many isModule (f := .body) (g := .stmt) (by decide)
  obtain rfl : body = ts := by simpa using body_eq.symm.trans ts_eq
  have nodes : body.filter Tree.isNode = body := List.filter_eq_self.2 fun t ht => (each t ht).1.isNode
  rw [Tree.children_eq isModule [.body, .typeIgnores] rfl]
  simp [Tree.fieldD_eq body_eq, Tree.nodesIn, nodes]

/-- An assignment among the children of a module is one of its statements. -/
theorem child_assign {statement : Tree} {i : Nat} (isAssign : statement.isA .assign = true) :
    tree.children[i]? = some statement ↔ body[i]? = some statement := by
  rw [children_module wf isModule body_eq]
  by_cases lt : i < body.length
  · rw [List.getElem?_append_left lt]
  · rw [List.getElem?_append_right (Nat.le_of_not_lt lt), List.getElem?_eq_none (Nat.le_of_not_lt lt)]
    refine iff_of_false (fun child => ?_) nofun
    obtain ⟨ts, ts_eq, each⟩ := wf.root.many isModule (f := .typeIgnores) (g := .typeIgnore) (by decide)
    rw [Tree.fieldD_eq ts_eq] at child
    obtain ⟨c, cls, category⟩ := (each statement (List.mem_filter.1 (List.mem_of_getElem? child)).1).1
    obtain rfl := Option.some.inj (cls.symm.trans (isA_iff.1 isAssign))
    cases category

/-- The constants among the children of a module. -/
theorem constant_iff {i : Nat} {v : Text} : (∃ statement, (statement, i) ∈ tree.children.zipIdx ∧
    constantAssign? statement = .ok (some (.text n, v))) ↔
      ∃ u, tree.at? [i, 0] = some u ∧ tree.ConstantAt [i, 0] u v ∧ u.field? .id = some (.text n) := by
  constructor
  · rintro ⟨statement, mem, assign⟩
    have child : tree.children[i]? = some statement := List.mem_zipIdx_iff_getElem?.1 mem
    obtain ⟨u, assigns, id⟩ := (constantAssign?_iff (wf.child (List.mem_of_getElem? child))).1 assign
    refine ⟨u, by simp [Tree.at?, child, assigns.child], ⟨body, i, statement, body_eq, ?_, rfl, assigns⟩, id⟩
    exact (child_assign wf isModule body_eq assigns.isAssign).1 child
  · rintro ⟨u, -, ⟨body', i', statement, body_eq', mem, place, assigns⟩, id⟩
    obtain rfl : body = body' := by simpa using body_eq.symm.trans body_eq'
    obtain rfl : i = i' := by simpa using place
    have child := (child_assign wf isModule body_eq assigns.isAssign).2 mem
    refine ⟨statement, List.mem_zipIdx_iff_getElem?.2 child, ?_⟩
    exact (constantAssign?_iff (wf.child (List.mem_of_getElem? child))).2 ⟨u, assigns, id⟩

/-- The addresses that the pass over the constants leaves are those of their targets. -/
theorem recorded_iff {b : Bindings} {recorded : List (List Nat)} (run : bindConstants [] tree.children.zipIdx = .ok (b, recorded))
    {o : Occurrence} (at_o : o.In tree) : o.node.isA .name = true ∧ o.address ∈ recorded ↔ ∃ v, tree.ConstantAt o.place o.node v := by
  rw [mem_bindConstants run]
  constructor
  · rintro ⟨-, ⟨statement, i⟩, mem, ⟨name, v⟩, assign, address⟩
    have child : tree.children[i]? = some statement := List.mem_zipIdx_iff_getElem?.1 mem
    obtain ⟨r, assign', texts⟩ := constantAssign?_total (wf.child (List.mem_of_getElem? child))
    obtain ⟨s, rfl⟩ := texts _ (Except.ok.inj (assign'.symm.trans assign))
    obtain ⟨u, at_u, constant, -⟩ := (constant_iff wf isModule body_eq).1 ⟨statement, mem, assign⟩
    have place : o.place = [i, 0] := by
      rw [Occurrence.place, address]
      rfl
    have here : tree.at? [i, 0] = some o.node := place ▸ at_o
    obtain rfl : u = o.node := Option.some.inj (at_u.symm.trans here)
    exact ⟨v, place ▸ constant⟩
  · rintro ⟨v, constant⟩
    obtain ⟨_, i, statement, -, -, place, assigns⟩ := id constant
    obtain ⟨s, id_eq⟩ := (wf.descend at_o).root.identifier assigns.isName (f := .id) (by decide)
    obtain ⟨statement', mem, assign⟩ := (constant_iff wf isModule body_eq).2 ⟨o.node, place ▸ at_o, place ▸ constant, id_eq⟩
    refine ⟨assigns.isName, (statement', i), mem, _, assign, ?_⟩
    rw [← List.reverse_reverse o.address]
    exact congrArg List.reverse place

/-- The entries of the bindings of a module say which bindings the module has. -/
theorem moduleBindings_eq_ok {b : Bindings} (h : moduleBindings tree = .ok b) :
    Settles (fun w => ∃ a, tree.BindingAt a n w) (b.valueOf? (.text n)) := by
  obtain ⟨os, hos, h⟩ := bind_eq_ok.1 h
  obtain ⟨⟨c, recorded⟩, hc, h⟩ := bind_eq_ok.1 h
  have empty : Settles (fun _ => False) (Bindings.valueOf? [] (.text n)) := .unbound fun _ absent => absent
  refine ((empty.bindConstants hc).bindOccurrences h).congr fun w => ?_
  constructor
  · rintro ((absurd | ⟨⟨statement, i⟩, mem, v, assign, rfl⟩) | ⟨⟨o, mem, named⟩, rfl⟩)
    · cases absurd
    · obtain ⟨u, at_u, constant, id_eq⟩ := (constant_iff wf isModule body_eq).1 ⟨statement, mem, assign⟩
      exact ⟨[i, 0], .constant at_u constant id_eq⟩
    · have at_o := (Tree.mem_occurrences hos).1 mem
      obtain ⟨counts, fresh⟩ := (occurrenceNames_iff (wf.descend at_o).root).1 named
      exact ⟨o.place, .other at_o counts fun v constant => fresh ((recorded_iff wf isModule body_eq hc at_o).2 ⟨v, constant⟩)⟩
  · rintro ⟨a, binding⟩
    cases binding with
    | @constant u v at_u constant id_eq =>
      obtain ⟨_, i, statement, -, -, rfl, -⟩ := id constant
      obtain ⟨statement, mem, assign⟩ := (constant_iff wf isModule body_eq).2 ⟨u, at_u, constant, id_eq⟩
      exact .inl (.inr ⟨(statement, i), mem, v, assign, rfl⟩)
    | @other u at_u counts other =>
      have at_o : Occurrence.In ⟨a.reverse, u⟩ tree := by simpa [Occurrence.In, Occurrence.place] using at_u
      refine .inr ⟨⟨_, (Tree.mem_occurrences hos).2 at_o, (occurrenceNames_iff (wf.descend at_o).root).2 ⟨counts, fun done => ?_⟩⟩, rfl⟩
      obtain ⟨v, constant⟩ := (recorded_iff wf isModule body_eq hc at_o).1 done
      exact other v (by simpa [Occurrence.place] using constant)

end Modules

section Order

variable {tree tree' : Tree} {body body' : List Tree} {n : Text}

/-- Whether an address is that of a constant depends on the statement that it goes through. -/
theorem constantAt_congr (body_eq : tree.field? .body = some (.list body)) (body_eq' : tree'.field? .body = some (.list body'))
    {i j : Nat} (same : body[i]? = body'[j]?) {r : List Nat} {u : Tree} {v : Text} :
    tree.ConstantAt (i :: r) u v ↔ tree'.ConstantAt (j :: r) u v := by
  constructor
  · rintro ⟨_, _, statement, eq, mem, place, assigns⟩
    obtain rfl : body = _ := by simpa using body_eq.symm.trans eq
    obtain ⟨rfl, rfl⟩ := List.cons.inj place
    exact ⟨body', j, statement, body_eq', same ▸ mem, rfl, assigns⟩
  · rintro ⟨_, _, statement, eq, mem, place, assigns⟩
    obtain rfl : body' = _ := by simpa using body_eq'.symm.trans eq
    obtain ⟨rfl, rfl⟩ := List.cons.inj place
    exact ⟨body, i, statement, body_eq, same ▸ mem, rfl, assigns⟩

variable (wf : tree.WellFormed) (wf' : tree'.WellFormed) (isModule : tree.isA .module = true) (isModule' : tree'.isA .module = true)
  (body_eq : tree.field? .body = some (.list body)) (body_eq' : tree'.field? .body = some (.list body'))
  (ignores : tree'.fieldD .typeIgnores = tree.fieldD .typeIgnores) (perm : body.Perm body')

include wf wf' isModule isModule' body_eq body_eq' ignores perm

/-- A child of a module is one of a module with its statements in another order. -/
theorem exists_child_of_perm {i : Nat} {c : Tree} (child : tree.children[i]? = some c) :
    ∃ j : Nat, tree'.children[j]? = some c ∧ body[i]? = body'[j]? := by
  have length := perm.length_eq
  rw [children_module wf isModule body_eq] at child
  rw [children_module wf' isModule' body_eq', ignores]
  by_cases lt : i < body.length
  · rw [List.getElem?_append_left lt] at child
    obtain ⟨j, there⟩ := List.mem_iff_getElem?.1 (perm.mem_iff.1 (List.mem_of_getElem? child))
    refine ⟨j, ?_, child.trans there.symm⟩
    rw [List.getElem?_append_left (List.getElem?_eq_some_iff.1 there).1, there]
  · rw [List.getElem?_append_right (by omega)] at child
    refine ⟨i, ?_, ?_⟩
    · rw [List.getElem?_append_right (by omega), ← length, child]
    · rw [List.getElem?_eq_none (by omega), List.getElem?_eq_none (by omega)]

/-- A module with the statements of another one in some order has its bindings, if at other addresses. -/
theorem bindingAt_of_perm {a : List Nat} {w : Option Text} (h : tree.BindingAt a n w) : ∃ a', tree'.BindingAt a' n w := by
  have moves {i : Nat} {r : List Nat} {u : Tree} (at_u : tree.at? (i :: r) = some u) : ∃ j, tree'.at? (j :: r) = some u ∧
      ∀ v, tree'.ConstantAt (j :: r) u v ↔ tree.ConstantAt (i :: r) u v := by
    obtain ⟨c, child, below⟩ := Tree.at?_cons_eq_some.1 at_u
    obtain ⟨j, child', same⟩ := exists_child_of_perm wf wf' isModule isModule' body_eq body_eq' ignores perm child
    exact ⟨j, Tree.at?_cons_eq_some.2 ⟨c, child', below⟩, fun v => (constantAt_congr body_eq body_eq' same).symm⟩
  cases a with
  | nil =>
    cases h with
    | constant _ constant =>
      obtain ⟨_, _, _, -, -, place, -⟩ := constant
      cases place
    | other at_u counts =>
      cases at_u
      exact absurd isModule counts.not_module
  | cons i r =>
    cases h with
    | constant at_u constant id_eq =>
      obtain ⟨j, at_u', iff⟩ := moves at_u
      exact ⟨j :: r, .constant at_u' ((iff _).2 constant) id_eq⟩
    | other at_u counts other =>
      obtain ⟨j, at_u', iff⟩ := moves at_u
      exact ⟨j :: r, .other at_u' counts fun v constant => other v ((iff v).1 constant)⟩

end Order

/-- A module has bindings. A name is one of their keys if and only if some node counts as a binding of it or is the target of a constant.
It has a text for its value if and only if all these nodes are targets of constants with that text, and is in conflict otherwise. The
order of the statements makes no difference. -/
theorem moduleBindings_settles {tree : Tree} (wf : tree.WellFormed) (isModule : tree.isA .module = true) :
    ∃ b, moduleBindings tree = .ok b ∧
      (∀ n, (b.binds (.text n) = true ↔ ∃ a w, tree.BindingAt a n w) ∧
        (∀ v, b.valueOf? (.text n) = some (some v) ↔ (∃ a w, tree.BindingAt a n w) ∧ ∀ a w, tree.BindingAt a n w → w = some v) ∧
        (b.valueOf? (.text n) = some none ↔ (∃ a w, tree.BindingAt a n w) ∧ ∀ v, ∃ a w, tree.BindingAt a n w ∧ w ≠ some v)) ∧
      ∀ tree' body body', tree'.WellFormed → tree'.isA .module = true → tree.field? .body = some (.list body) →
        tree'.field? .body = some (.list body') → tree'.fieldD .typeIgnores = tree.fieldD .typeIgnores → body.Perm body' →
          ∃ b', moduleBindings tree' = .ok b' ∧ ∀ n, b'.valueOf? (.text n) = b.valueOf? (.text n) := by
  obtain ⟨b, hb⟩ := moduleBindings_total wf
  obtain ⟨body, body_eq, -⟩ := wf.root.many isModule (f := .body) (g := .stmt) (by decide)
  refine ⟨b, hb, fun n => ?_, fun tree' body₁ body' wf' isModule' body_eq₁ body_eq' ignores perm => ?_⟩
  · have settles := moduleBindings_eq_ok (n := n) wf isModule body_eq hb
    have bound : (∃ a w, tree.BindingAt a n w) ↔ ∃ w a, tree.BindingAt a n w := exists_comm
    refine ⟨?_, fun v => ?_, ?_⟩
    · rw [Bindings.binds_iff, settles.ne_none, bound]
    · rw [settles.eq_text, bound]
      exact and_congr_right fun _ => ⟨fun same a w binding => same w ⟨a, binding⟩, fun same w ⟨a, binding⟩ => same a w binding⟩
    · rw [settles.eq_conflict, bound]
      refine and_congr_right fun _ => forall_congr' fun v => ?_
      simp only [← exists_and_right]
      exact exists_comm
  · obtain rfl : body = body₁ := by simpa using body_eq.symm.trans body_eq₁
    obtain ⟨b', hb'⟩ := moduleBindings_total wf'
    refine ⟨b', hb', fun n => ?_⟩
    have settles := moduleBindings_eq_ok (n := n) wf isModule body_eq hb
    have settles' := moduleBindings_eq_ok (n := n) wf' isModule' body_eq' hb'
    refine settles'.unique (settles.congr fun w => ⟨?_, ?_⟩)
    · rintro ⟨a, binding⟩
      exact bindingAt_of_perm wf wf' isModule isModule' body_eq body_eq' ignores perm binding
    · rintro ⟨a, binding⟩
      exact bindingAt_of_perm wf' wf isModule' isModule body_eq' body_eq ignores.symm perm.symm binding

section Examples

open Source

/-- The assignment of a text to a name, which stands in some context. -/
def assignText (context : Context) (name value : String) : Stmt :=
  .assign default (.name default (.ofString name) context) [] (.constant default (.text (.ofString value)) false)

/-- The import of a name. -/
def importName (name : String) (localName : Option String) : Stmt :=
  .importStmt default [⟨default, .ofString name, localName.map .ofString⟩]

/-- A name that is assigned twice, and one that is assigned and imported. -/
def reboundNames : List Stmt :=
  [assignText .store "X" "x", assignText .store "X" "x", assignText .store "Y" "x", importName "Y.z" none]

theorem moduleBindings_settles_rebound : ∃ b b', moduleBindings (Program.module reboundNames).toTree = .ok b ∧
    (∀ a w, (Program.module reboundNames).toTree.BindingAt a (.ofString "X") w → w = some (.ofString "x")) ∧
    (∀ v, ∃ a w, (Program.module reboundNames).toTree.BindingAt a (.ofString "Y") w ∧ w ≠ some v) ∧
    moduleBindings (Program.module reboundNames.reverse).toTree = .ok b' ∧
    b'.valueOf? (.text (.ofString "X")) = some (some (.ofString "x")) ∧ b'.valueOf? (.text (.ofString "Y")) = some none := by
  have run : ((moduleBindings (Program.module reboundNames).toTree).toOption.any fun b =>
      b.valueOf? (.text (.ofString "X")) == some (some (.ofString "x")) && b.valueOf? (.text (.ofString "Y")) == some none) = true := by
    decide +kernel
  have perm : (reboundNames.map Stmt.toTree).Perm (reboundNames.reverse.map Stmt.toTree) := by
    rw [List.map_reverse]
    exact (List.reverse_perm _).symm
  have body (ss : List Stmt) : (Program.module ss).toTree.field? .body = some (.list (ss.map Stmt.toTree)) := by
    rw [← stmtTrees_eq_map]
    rfl
  obtain ⟨b, bindings, entries, order⟩ := moduleBindings_settles (Program.toTree_wellFormed (.module reboundNames)) rfl
  obtain ⟨b', bindings', same⟩ := order _ _ _ (Program.toTree_wellFormed (.module reboundNames.reverse)) rfl (body _) (body _) rfl perm
  obtain ⟨_, computed, checked⟩ := Tree.any_toOption.1 run
  obtain rfl := Except.ok.inj (computed.symm.trans bindings)
  simp only [Bool.and_eq_true, beq_iff_eq] at checked
  exact ⟨_, b', bindings, (((entries _).2.1 _).1 checked.1).2, ((entries _).2.2.1 checked.2).2, bindings', (same _).trans checked.1,
    (same _).trans checked.2⟩

/-- A constant whose target is said to be read. -/
def readTarget : Program := .module [assignText .load "X" "x"]

/-- An import with a dot in its local name. -/
def dottedImport : Program := .module [importName "a" (some "b.c")]

/-- The target of a constant is a key even if it is said to be read, so that no node counts as a binding of it. A local name with a dot is
none. -/
theorem moduleBindings_read_target : (∃ b, moduleBindings readTarget.toTree = .ok b ∧
      b.valueOf? (.text (.ofString "X")) = some (some (.ofString "x")) ∧
      ∀ a u, readTarget.toTree.at? a = some u → ¬ u.Counts (.ofString "X")) ∧
    ∃ b a u, moduleBindings dottedImport.toTree = .ok b ∧ dottedImport.toTree.at? a = some u ∧ u.isA .alias = true ∧
      u.field? .asname = some (.text (.ofString "b.c")) ∧ b.binds (.text (.ofString "b.c")) = false := by
  have constant : ((moduleBindings readTarget.toTree).toOption.any fun b =>
      b.valueOf? (.text (.ofString "X")) == some (some (.ofString "x"))) = true := by decide +kernel
  have unread : (readTarget.toTree.walk.toOption.any fun nodes => nodes.all fun u =>
      (occurrenceNames [] ⟨[], u⟩).toOption.any List.isEmpty) = true := by decide +kernel
  have dotted : ((moduleBindings dottedImport.toTree).toOption.any fun b => !b.binds (.text (.ofString "b.c"))) = true := by decide +kernel
  obtain ⟨b, bindings, value⟩ := Tree.any_toOption.1 constant
  obtain ⟨nodes, walk, each⟩ := Tree.any_toOption.1 unread
  obtain ⟨b', bindings', absent⟩ := Tree.any_toOption.1 dotted
  refine ⟨⟨b, bindings, eq_of_beq value, fun a u at_u counts => ?_⟩, b', [0, 0], _, bindings', rfl, rfl, rfl, by simpa using absent⟩
  have conforms := ((Program.toTree_wellFormed readTarget).descend at_u).root
  obtain ⟨names, names_eq, mem⟩ := (introduces_iff_counts conforms).2 counts
  have none := List.all_eq_true.1 each u ((Tree.mem_of_walk walk).2 ⟨a, at_u⟩)
  rw [names_eq] at none
  obtain rfl : names = [] := by simpa [Except.toOption] using none
  cases mem

end Examples

end CallLint.Fix

import CallLint.Fix.Bindings
import CallLint.Proofs.Tree.BreadthFirst
import CallLint.Proofs.Tree.Field

/-!
# The keys of the bindings of a module

Recording a binding adds at most one key and never takes one away, so that whatever recording keeps is kept by the whole
pass over a module (`bindConstants_keeps`, `bindOccurrences_keeps`). Hence the keys are different from each other
(`moduleBindings_distinct`), and every name that a node introduces is one of them (`moduleBindings_binds`).
-/

namespace CallLint.Fix

open CallLint.Tree (Fault Occurrence bind_eq_ok isA_iff)

namespace Bindings

variable {b : Bindings} {name : Tree} {value : Option Text} {s : Text}

/-- Different names, as keys have to be. -/
def Distinct (b : Bindings) : Prop := b.Pairwise fun e f => e.1.same f.1 = false

theorem binds_text : b.binds (.text s) = true ↔ .text s ∈ b.map (·.1) := by
  simp [binds, Tree.same_text]

theorem binds_of_valueOf? (h : b.valueOf? name = some value) : b.binds name = true := by
  obtain ⟨e, found, -⟩ := Option.map_eq_some_iff.1 h
  have same := List.find?_some found
  exact List.any_eq_true.2 ⟨e, List.mem_of_find?_eq_some found, same⟩

theorem record_keys (b : Bindings) (name : Tree) (value : Option Text) :
    (b.record name value).map (·.1) = if b.binds name = true then b.map (·.1) else b.map (·.1) ++ [name] := by
  unfold record
  split
  · rw [List.map_map]
    refine List.map_congr_left fun e _ => ?_
    simp only [Function.comp_apply]
    split <;> rfl
  · simp

/-- A text is a key after recording a name if it was one or is that name. -/
theorem record_binds_text :
    (b.record name value).binds (.text s) = true ↔ b.binds (.text s) = true ∨ name = .text s := by
  simp only [binds_text, record_keys]
  split
  · next bound =>
    constructor
    · exact Or.inl
    · rintro (h | rfl)
      · exact h
      · exact binds_text.1 bound
  · simp [eq_comm]

theorem Distinct.record (h : b.Distinct) (name : Tree) (value : Option Text) : (b.record name value).Distinct := by
  have keys : ((b.record name value).map (·.1)).Pairwise fun k l => k.same l = false := by
    rw [record_keys]
    split
    · exact List.pairwise_map.2 h
    · next fresh =>
      refine List.pairwise_append.2 ⟨List.pairwise_map.2 h, List.pairwise_singleton _ _, ?_⟩
      intro k hk l hl
      obtain ⟨e, he, rfl⟩ := List.mem_map.1 hk
      obtain rfl := List.mem_singleton.1 hl
      simp only [binds, List.any_eq_true, not_exists, not_and, Bool.not_eq_true] at fresh
      exact fresh e he
  exact List.pairwise_map.1 keys

/-- With different names as keys, an entry for a text is the one that is found. -/
theorem Distinct.valueOf?_eq (h : b.Distinct) (mem : (.text s, value) ∈ b) : b.valueOf? (.text s) = some value := by
  unfold Distinct at h
  induction h with
  | nil => cases mem
  | @cons e b differ _ ih =>
    rcases List.mem_cons.1 mem with rfl | later
    · simp [valueOf?, Tree.same_text]
    · have other : e.1.same (.text s) = false := differ _ later
      rw [valueOf?, List.find?_cons, other]
      exact ih later

/-- A name that is recorded without a text has none, now and later. -/
theorem valueOf?_record_none (h : b.valueOf? (.text s) = some none ∨ name = .text s ∧ value = none) :
    (b.record name value).valueOf? (.text s) = some none := by
  unfold record
  split
  · next bound =>
    have keys : ∀ e : Tree × Option Text,
        (if e.1.same name then (e.1, if e.2 == value then e.2 else none) else (e.1, e.2)).1 = e.1 := by
      intro e
      split <;> rfl
    simp only [valueOf?, List.find?_map, Function.comp_def, keys, Option.map_map] at h ⊢
    rcases h with h | ⟨rfl, rfl⟩
    · obtain ⟨e, found, none⟩ := Option.map_eq_some_iff.1 h
      rw [found, Option.map_some, none]
      split <;> simp
    · obtain ⟨e, he, same⟩ := List.any_eq_true.1 bound
      cases found : b.find? fun e => e.1.same (.text s) with
      | none => exact absurd same (List.find?_eq_none.1 found e he)
      | some e =>
        have key := List.find?_some found
        simp only [Option.map_some, key, ↓reduceIte]
        split <;> simp_all
  · next fresh =>
    simp only [valueOf?, List.find?_append, Option.map_eq_some_iff, Option.or_eq_some_iff] at h ⊢
    rcases h with ⟨e, found, none⟩ | ⟨rfl, rfl⟩
    · exact ⟨e, .inl found, none⟩
    · refine ⟨(.text s, none), .inr ⟨?_, by simp [Tree.same_text]⟩, rfl⟩
      exact List.find?_eq_none.2 fun e he same => fresh (List.any_eq_true.2 ⟨e, he, same⟩)

theorem bind_eq_record {b' : Bindings} (h : b.bind name value = .ok b') : b' = b.record name value := by
  unfold Bindings.bind at h
  split at h
  · cases h
  · cases h
    rfl

end Bindings

/-- The pass over the constants goes past a statement or records what it assigns. -/
theorem bindConstants_cons {x : Tree × Nat} {statements : List (Tree × Nat)} {b b' : Bindings} {addresses : List (List Nat)}
    (h : bindConstants b (x :: statements) = .ok (b', addresses)) :
    constantAssign? x.1 = .ok none ∧ bindConstants b statements = .ok (b', addresses) ∨
      ∃ p others, constantAssign? x.1 = .ok (some p) ∧ addresses = [0, x.2] :: others ∧
        bindConstants (b.record p.1 (some p.2)) statements = .ok (b', others) := by
  obtain ⟨statement, i⟩ := x
  rw [bindConstants] at h
  obtain ⟨constant, assign, h⟩ := bind_eq_ok.1 h
  cases constant with
  | none => exact .inl ⟨assign, h⟩
  | some p =>
    obtain ⟨c, hc, h⟩ := bind_eq_ok.1 h
    obtain ⟨⟨d, others⟩, hd, h⟩ := bind_eq_ok.1 h
    cases h
    rw [Bindings.bind_eq_record hc] at hd
    exact .inr ⟨p, others, assign, rfl, hd⟩

section Keeps

variable {P : Bindings → Prop} (step : ∀ b name value, P b → P (b.record name value))

include step

theorem foldlM_bind_keeps {names : List Tree} {b b' : Bindings}
    (h : names.foldlM (fun (b : Bindings) name => b.bind name none) b = .ok b') (hb : P b) : P b' := by
  induction names generalizing b with
  | nil =>
    cases h
    exact hb
  | cons name names ih =>
    rw [List.foldlM_cons] at h
    obtain ⟨c, hc, h⟩ := bind_eq_ok.1 h
    rw [Bindings.bind_eq_record hc] at h
    exact ih h (step b name none hb)

/-- What recording keeps is kept by the pass over all occurrences. -/
theorem bindOccurrences_keeps {recorded : List (List Nat)} {os : List Occurrence} {b b' : Bindings}
    (h : bindOccurrences recorded b os = .ok b') (hb : P b) : P b' := by
  induction os generalizing b with
  | nil =>
    cases h
    exact hb
  | cons o os ih =>
    rw [bindOccurrences] at h
    obtain ⟨names, -, h⟩ := bind_eq_ok.1 h
    obtain ⟨c, hc, h⟩ := bind_eq_ok.1 h
    exact ih h (foldlM_bind_keeps step hc hb)

/-- What recording keeps is kept by the pass over the constants. -/
theorem bindConstants_keeps {statements : List (Tree × Nat)} {b b' : Bindings} {addresses : List (List Nat)}
    (h : bindConstants b statements = .ok (b', addresses)) (hb : P b) : P b' := by
  induction statements generalizing b addresses with
  | nil =>
    cases h
    exact hb
  | cons x statements ih =>
    obtain ⟨-, h⟩ | ⟨p, others, -, -, h⟩ := bindConstants_cons h
    · exact ih h hb
    · exact ih h (step b p.1 (some p.2) hb)

end Keeps

theorem binds_keeps (s : Text) (b : Bindings) (name : Tree) (value : Option Text) (h : b.binds (.text s) = true) :
    (b.record name value).binds (.text s) = true :=
  Bindings.record_binds_text.2 (Or.inl h)

theorem none_keeps (s : Text) (b : Bindings) (name : Tree) (value : Option Text) (h : b.valueOf? (.text s) = some none) :
    (b.record name value).valueOf? (.text s) = some none :=
  Bindings.valueOf?_record_none (Or.inl h)

theorem moduleBindings_distinct {tree : Tree} {b : Bindings} (h : moduleBindings tree = .ok b) : b.Distinct := by
  obtain ⟨os, -, h⟩ := bind_eq_ok.1 h
  obtain ⟨⟨c, recorded⟩, hc, h⟩ := bind_eq_ok.1 h
  have step : ∀ b name value, Bindings.Distinct b → (Bindings.record b name value).Distinct :=
    fun _ name value hb => hb.record name value
  exact bindOccurrences_keeps step h (bindConstants_keeps step hc List.Pairwise.nil)

/-! ### Names that nodes introduce -/

/-- Whether a node introduces a name, by itself: a name that is not read, a definition, a parameter, an import, a
declaration or a handler. -/
def Introduces (u : Tree) (s : Text) : Prop := ∃ names, occurrenceNames [] ⟨[], u⟩ = .ok names ∧ .text s ∈ names

theorem foldlM_bind_none {names : List Tree} {s : Text} {b b' : Bindings}
    (h : names.foldlM (fun (b : Bindings) name => b.bind name none) b = .ok b') (mem : .text s ∈ names) :
    b'.valueOf? (.text s) = some none := by
  induction names generalizing b with
  | nil => cases mem
  | cons name names ih =>
    rw [List.foldlM_cons] at h
    obtain ⟨c, hc, rest⟩ := bind_eq_ok.1 h
    rcases List.mem_cons.1 mem with first | later
    · refine foldlM_bind_keeps (none_keeps s) rest ?_
      rw [Bindings.bind_eq_record hc]
      exact Bindings.valueOf?_record_none (Or.inr ⟨first.symm, rfl⟩)
    · exact ih rest later

/-- The names that an occurrence gives have no text. -/
theorem bindOccurrences_none {recorded : List (List Nat)} {os : List Occurrence} {b b' : Bindings}
    (h : bindOccurrences recorded b os = .ok b') {o : Occurrence} (ho : o ∈ os) :
    ∃ names, occurrenceNames recorded o = .ok names ∧ ∀ s, .text s ∈ names → b'.valueOf? (.text s) = some none := by
  induction os generalizing b with
  | nil => cases ho
  | cons p os ih =>
    rw [bindOccurrences] at h
    obtain ⟨names, hn, rest⟩ := bind_eq_ok.1 h
    obtain ⟨c, hc, rest⟩ := bind_eq_ok.1 rest
    rcases List.mem_cons.1 ho with first | later
    · rw [first]
      exact ⟨names, hn, fun s mem => bindOccurrences_keeps (none_keeps s) rest (foldlM_bind_none hc mem)⟩
    · exact ih rest later

/-- The addresses that the pass over the constants leaves are those of targets that it has recorded. -/
theorem bindConstants_binds {statements : List (Tree × Nat)} {b b' : Bindings} {addresses : List (List Nat)}
    (h : bindConstants b statements = .ok (b', addresses)) {address : List Nat} (mem : address ∈ addresses) :
    ∃ statement i p, (statement, i) ∈ statements ∧ address = [0, i] ∧ constantAssign? statement = .ok (some p) ∧
      ∀ s, p.1 = .text s → b'.binds (.text s) = true := by
  induction statements generalizing b addresses with
  | nil =>
    cases h
    cases mem
  | cons x statements ih =>
    obtain ⟨-, rest⟩ | ⟨p, others, assign, rfl, rest⟩ := bindConstants_cons h
    · obtain ⟨statement, j, p, hs, found⟩ := ih rest mem
      exact ⟨statement, j, p, List.mem_cons_of_mem _ hs, found⟩
    · rcases List.mem_cons.1 mem with first | later
      · refine ⟨x.1, x.2, p, List.mem_cons_self, first, assign, fun s hs => ?_⟩
        exact bindConstants_keeps (binds_keeps s) rest (Bindings.record_binds_text.2 (Or.inr hs))
      · obtain ⟨statement, j, q, hs, found⟩ := ih rest later
        exact ⟨statement, j, q, List.mem_cons_of_mem _ hs, found⟩

theorem constantAssign?_eq_some {statement : Tree} {p : Tree × Text} (h : constantAssign? statement = .ok (some p)) :
    statement.isA .assign = true ∧ ∃ target value, statement.field? .targets = some (.list [target]) ∧
      target.isA .name = true ∧ target.field? .id = some p.1 ∧ statement.field? .value = some value ∧
      value.isStringLiteral = .ok true ∧ value.field? .value = some (.text p.2) := by
  unfold constantAssign? at h
  split at h
  · cases h
  next notAssign =>
  obtain ⟨targets, ht, h⟩ := bind_eq_ok.1 h
  obtain ⟨list, hl, h⟩ := bind_eq_ok.1 h
  split at h
  · next target =>
    split at h
    · cases h
    next notName =>
    have name : target.isA .name = true := by simpa using notName
    obtain ⟨value, hv, h⟩ := bind_eq_ok.1 h
    obtain ⟨literal, isLiteral, h⟩ := bind_eq_ok.1 h
    split at h
    · cases h
    next notOther =>
    obtain rfl : literal = true := by simpa using notOther
    obtain ⟨id, hid, h⟩ := bind_eq_ok.1 h
    obtain ⟨text, htext, h⟩ := bind_eq_ok.1 h
    refine ⟨by simpa using notAssign, target, value, ?_, name, ?_⟩
    · rw [Tree.field_eq_ok.1 ht, Tree.iterate_eq_list hl (List.mem_singleton.2 rfl) (Tree.isNode_of_isA name)]
    cases text with
    | text t =>
      cases h
      exact ⟨Tree.field_eq_ok.1 hid, Tree.field_eq_ok.1 hv, isLiteral, Tree.field_eq_ok.1 htext⟩
    | _ => cases h
  · cases h

/-- The only target of an assignment is its first child. -/
theorem target_child {statement target : Tree} (assign : statement.isA .assign = true)
    (single : statement.field? .targets = some (.list [target])) (name : target.isA .name = true) :
    statement.children[0]? = some target := by
  rw [Tree.children_eq assign [.targets, .value, .typeComment] rfl]
  simp [Tree.fieldD_eq single, Tree.nodesIn, Tree.isNode_of_isA name]

/-- A name introduces itself. -/
theorem introduces_name {u : Tree} (name : u.isA .name = true) {names : List Tree}
    (h : occurrenceNames [] ⟨[], u⟩ = .ok names) {s : Text} (mem : .text s ∈ names) :
    u.field? .id = some (.text s) := by
  unfold occurrenceNames at h
  simp only [name, ↓reduceIte] at h
  obtain ⟨ctx, -, h⟩ := bind_eq_ok.1 h
  split at h
  · cases h
    cases mem
  · obtain ⟨id, hid, h⟩ := bind_eq_ok.1 h
    cases h
    rw [List.mem_singleton.1 mem]
    exact Tree.field_eq_ok.1 hid

/-- Unless it has been recorded already, an occurrence of a node gives the names that the node introduces. -/
theorem occurrenceNames_eq {recorded : List (List Nat)} {o : Occurrence}
    (h : o.node.isA .name = true → o.address ∉ recorded) :
    occurrenceNames recorded o = occurrenceNames [] ⟨[], o.node⟩ := by
  unfold occurrenceNames
  by_cases name : o.node.isA .name = true
  · have fresh : recorded.contains o.address = false := by simpa using h name
    have none : ([] : List (List Nat)).contains [] = false := rfl
    simp only [name, fresh, none]
  · simp only [name, Bool.false_eq_true, ↓reduceIte]

/-- The target at an address of a module, in an assignment to it. -/
structure TargetAt (tree : Tree) (a : List Nat) (u : Tree) : Prop where
  isName : u.isA .name = true
  target : ∃ i statement, a = [i, 0] ∧ tree.children[i]? = some statement ∧ statement.isA .assign = true ∧
    statement.children[0]? = some u

/-- A name that a node of a module introduces has no text, unless the node is a target of an assignment of the module. It is a key of
the bindings in any case. -/
theorem moduleBindings_introduces {tree : Tree} {b : Bindings} (h : moduleBindings tree = .ok b) {a : List Nat} {u : Tree}
    (hu : tree.at? a = some u) {s : Text} (intro : Introduces u s) :
    b.valueOf? (.text s) = some none ∨ b.binds (.text s) = true ∧ TargetAt tree a u := by
  obtain ⟨os, hos, h⟩ := bind_eq_ok.1 h
  obtain ⟨⟨c, recorded⟩, hc, h⟩ := bind_eq_ok.1 h
  obtain ⟨names, eq, mem⟩ := intro
  have at_o : Occurrence.In ⟨a.reverse, u⟩ tree := by simpa [Occurrence.In, Occurrence.place] using hu
  obtain ⟨names', eq', unknown⟩ := bindOccurrences_none h ((Tree.mem_occurrences hos).2 at_o)
  by_cases done : u.isA .name = true ∧ a.reverse ∈ recorded
  · -- the first pass has recorded the target that stands here
    obtain ⟨statement, i, p, hs, address, assign, keys⟩ := bindConstants_binds hc done.2
    obtain ⟨isAssign, target, -, targets, isName, hid, -⟩ := constantAssign?_eq_some assign
    have first := target_child isAssign targets isName
    have place : a = [i, 0] := by rw [← List.reverse_reverse a, address]; rfl
    have child : tree.children[i]? = some statement := List.mem_zipIdx_iff_getElem?.1 hs
    have same : u = target := by
      obtain ⟨v, hv, hu⟩ := Tree.at?_cons_eq_some.1 (place ▸ hu)
      obtain ⟨w, hw, hu⟩ := Tree.at?_cons_eq_some.1 hu
      rw [Option.some.inj (hv.symm.trans child), first] at hw
      rw [← Option.some.inj hu, Option.some.inj hw]
    have id : u.field? .id = some (.text s) := introduces_name done.1 eq mem
    rw [same, hid] at id
    refine Or.inr ⟨bindOccurrences_keeps (binds_keeps s) h (keys s (Option.some.inj id)), done.1, ?_⟩
    exact ⟨i, statement, place, child, isAssign, same ▸ first⟩
  · have fresh : u.isA .name = true → a.reverse ∉ recorded := fun name mem => done ⟨name, mem⟩
    rw [occurrenceNames_eq fresh, eq] at eq'
    cases eq'
    exact Or.inl (unknown s mem)

/-- Every name that a node of a module introduces is a key of its bindings. -/
theorem moduleBindings_binds {tree : Tree} {b : Bindings} (h : moduleBindings tree = .ok b) {a : List Nat} {u : Tree}
    (hu : tree.at? a = some u) {s : Text} (intro : Introduces u s) : b.binds (.text s) = true := by
  rcases moduleBindings_introduces h hu intro with unknown | ⟨bound, -⟩
  · exact Bindings.binds_of_valueOf? unknown
  · exact bound

end CallLint.Fix

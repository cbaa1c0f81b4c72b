import CallLint.Tree.Walk

/-!
# Reading fields

Work on trees is written with faults that stop it. `bind_eq_ok` takes a successful run apart; the other lemmas say
when reading a class or a field succeeds.
-/

namespace CallLint.Tree

section Faults

variable {α β : Type}

@[simp] theorem pure_eq_ok (a : α) : (pure a : Except Fault α) = .ok a := rfl

@[simp] theorem ok_bind (a : α) (f : α → Except Fault β) : (Except.ok a >>= f) = f a := rfl

@[simp] theorem error_bind (e : Fault) (f : α → Except Fault β) : (Except.error e >>= f) = .error e := rfl

@[simp] theorem map_ok (f : α → β) (a : α) : (Except.ok a : Except Fault α).map f = .ok (f a) := rfl

@[simp] theorem map_error (f : α → β) (e : Fault) : (Except.error e : Except Fault α).map f = .error e := rfl

/-- A run of two steps succeeds if both do. -/
theorem bind_eq_ok {ε : Type} {x : Except ε α} {f : α → Except ε β} {b : β} :
    (x >>= f) = .ok b ↔ ∃ a, x = .ok a ∧ f a = .ok b := by
  cases x with
  | error e => simp [bind, Except.bind]
  | ok a => simp [bind, Except.bind]

/-- A run of two steps fails if the first does, or if it succeeds and the second fails. -/
theorem bind_eq_error {ε : Type} {x : Except ε α} {f : α → Except ε β} {e : ε} :
    (x >>= f) = .error e ↔ x = .error e ∨ ∃ a, x = .ok a ∧ f a = .error e := by
  cases x with
  | error d => simp [bind, Except.bind]
  | ok a => simp [bind, Except.bind]

theorem map_eq_ok {x : Except Fault α} {f : α → β} {b : β} : x.map f = .ok b ↔ ∃ a, x = .ok a ∧ f a = b := by
  cases x with
  | error e => simp
  | ok a => simp

/-- A test of what a step gives, if it gives something. -/
theorem any_toOption {ε α : Type} {x : Except ε α} {p : α → Bool} :
    x.toOption.any p = true ↔ ∃ a, x = .ok a ∧ p a = true := by
  cases x with
  | error e => simp [Except.toOption]
  | ok a => simp [Except.toOption]

end Faults

variable {t v : Tree} {c d : NodeClass} {f : Field}

theorem isA_iff : t.isA c = true ↔ t.cls? = some c := by simp [isA]

theorem isA_unique (hc : t.isA c = true) (hd : t.isA d = true) : c = d := by
  rw [isA_iff] at hc hd
  exact Option.some.inj (hc.symm.trans hd)

theorem isNode_of_isA (h : t.isA c = true) : t.isNode = true := by
  rw [isNode, isA_iff.1 h]
  rfl

theorem field_eq_ok : t.field f = .ok v ↔ t.field? f = some v := by
  unfold field
  cases t.field? f <;> simp

theorem fieldD_eq (h : t.field? f = some v) : t.fieldD f = v := by rw [fieldD, h, Option.getD_some]

theorem field?_of_fieldD (h : t.fieldD f = v) (present : v ≠ null) : t.field? f = some v := by
  unfold fieldD at h
  cases hf : t.field? f with
  | none =>
    rw [hf] at h
    exact absurd h.symm present
  | some w =>
    rw [hf] at h
    exact congrArg some h

/-- The children of a node come from the fields of its class, one after the other. -/
theorem children_eq (ht : t.isA c = true) (fs : List Field) (fields : c.fields = fs) :
    t.children = fs.flatMap fun f => nodesIn (t.fieldD f) := by
  rw [children, isA_iff.1 ht, ← fields]

/-- A node that a field of the class holds is a child. -/
theorem mem_children_of_field {u : Tree} (ht : t.isA c = true) (hf : f ∈ c.fields) (hv : t.field? f = some v)
    (hu : u ∈ nodesIn v) : u ∈ t.children := by
  rw [children_eq ht _ rfl]
  exact List.mem_flatMap.2 ⟨f, hf, by rw [fieldD_eq hv]; exact hu⟩

theorem exists_node (h : t.isNode = true) : ∃ c fs, t = .node c fs := by
  cases t with
  | node c fs => exact ⟨c, fs, rfl⟩
  | _ => simp [isNode, cls?] at h

theorem nodesIn_of_isNode (h : t.isNode = true) : nodesIn t = [t] := by
  obtain ⟨c, fs, rfl⟩ := exists_node h
  rfl

theorem child_of_field (ht : t.isA c = true) (hf : f ∈ c.fields) (hv : t.field? f = some v) (hn : v.isNode = true) :
    v ∈ t.children :=
  mem_children_of_field ht hf hv (by rw [nodesIn_of_isNode hn]; exact List.mem_singleton.2 rfl)

theorem child_of_list {ts : List Tree} {u : Tree} (ht : t.isA c = true) (hf : f ∈ c.fields)
    (hv : t.field? f = some (.list ts)) (hu : u ∈ ts) (hn : u.isNode = true) : u ∈ t.children :=
  mem_children_of_field ht hf hv (List.mem_filter.2 ⟨hu, hn⟩)

/-- Only a list holds nodes to visit; the characters of a text are none. -/
theorem iterate_eq_list {ts : List Tree} {u : Tree} (h : t.iterate = .ok ts) (hu : u ∈ ts) (hn : u.isNode = true) :
    t = .list ts := by
  cases t with
  | list us =>
    cases h
    rfl
  | text s =>
    cases h
    obtain ⟨c, -, rfl⟩ := List.mem_map.1 hu
    cases hn
  | bytes bs =>
    cases h
    obtain ⟨b, -, rfl⟩ := List.mem_map.1 hu
    cases hn
  | _ => cases h

/-- Only a text is the same as a text. -/
theorem same_text {s : Text} : t.same (.text s) = true ↔ t = .text s := by
  cases t with
  | text r =>
    have eq : (Tree.text r).same (.text s) = (r == s) := rfl
    rw [eq, beq_iff_eq, Tree.text.injEq]
  | _ => exact ⟨nofun, nofun⟩

theorem text_same {s : Text} : (Tree.text s).same t = true ↔ t = .text s := by
  cases t with
  | text r =>
    have eq : (Tree.text s).same (.text r) = (s == r) := rfl
    rw [eq, beq_iff_eq, Tree.text.injEq]
    exact eq_comm
  | _ => exact ⟨nofun, nofun⟩

theorem truthy_text {s : Text} (h : s ≠ []) : (Tree.text s).truthy = true := by
  cases s with
  | nil => exact absurd rfl h
  | cons c s => rfl

end CallLint.Tree

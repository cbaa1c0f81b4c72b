import CallLint.Proofs.Printer.Writers

/-!
# Printing well-formed expressions

The fuel of the printer is enough: a node is visited at most twice on the way down, as an expression and as a part of a
format string, and what stands below it is smaller. So a well-formed expression is printed, or it holds something that
hinders writing (`print_writes`).
-/

namespace CallLint.Tree

theorem size_le_listSize {u : Tree} {ts : List Tree} (h : u ∈ ts) : u.size ≤ listSize ts := by
  induction ts with
  | nil => cases h
  | cons t ts ih =>
    rw [listSize]
    rcases List.mem_cons.1 h with rfl | h
    · omega
    · have := ih h
      omega

theorem size_le_fieldsSize {f : Field} {v : Tree} {fs : List (Field × Tree)} (h : fs.lookup f = some v) :
    v.size ≤ fieldsSize fs := by
  induction fs with
  | nil => cases h
  | cons e fs ih =>
    obtain ⟨g, w⟩ := e
    rw [fieldsSize]
    rw [List.lookup_cons] at h
    split at h
    · cases h
      omega
    · have := ih h
      omega

theorem size_le_of_mem_nodesIn {u v : Tree} (h : u ∈ nodesIn v) : u.size ≤ v.size := by
  cases v with
  | list ts =>
    have := size_le_listSize (List.mem_filter.1 h).1
    rw [size]
    omega
  | node c fs => exact Nat.le_of_eq (congrArg size (List.mem_singleton.1 h))
  | _ => cases h

/-- A child is smaller than its parent. -/
theorem size_lt_of_child {t u : Tree} (h : u ∈ t.children) : u.size < t.size := by
  obtain ⟨c, f, hc, -, hu⟩ := mem_children.1 h
  cases t with
  | node d fs =>
    rw [size]
    cases hv : fs.lookup f with
    | some v =>
      have read : (node d fs).fieldD f = v := by simp [fieldD, field?, hv]
      rw [read] at hu
      have := size_le_of_mem_nodesIn hu
      have := size_le_fieldsSize hv
      omega
    | none =>
      -- what is not stored reads as absent, which holds no node
      have read : (node d fs).fieldD f = null := by
        simp only [fieldD, field?, hv, Option.orElse_none]
        split <;> rfl
      rw [read] at hu
      cases hu
  | _ => cases hc

theorem size_lt_of_under {t u : Tree} (h : t.Under u) : u.size < t.size := by
  obtain ⟨a, notRoot, ha⟩ := h
  induction a generalizing t with
  | nil => exact absurd rfl notRoot
  | cons i a ih =>
    obtain ⟨c, hc, hu⟩ := at?_cons_eq_some.1 ha
    have less := size_lt_of_child (List.mem_of_getElem? hc)
    cases a with
    | nil =>
      cases hu
      exact less
    | cons j a => exact Nat.lt_trans (ih (by simp) hu) less

theorem Under.wellFormed {t u : Tree} (h : t.Under u) (wf : t.WellFormed) : u.WellFormed := by
  obtain ⟨a, -, ha⟩ := h
  exact wf.descend ha

theorem size_pos (t : Tree) : 0 < t.size := by
  cases t <;> simp [size]

end CallLint.Tree

namespace CallLint.Printer

/-- With enough fuel every well-formed node is written. The induction is on the fuel; writing a format string as a part of
itself takes one step on the same node, and so does everything else on a smaller one. -/
theorem writeTree_writes {fuel : Nat} {t : Tree} (wf : t.WellFormed) :
    (t.Written → 2 * t.size + 1 ≤ fuel → ∀ avoid place,
      Writes t.Hindered (writeTree fuel (.expr avoid place) t) Full) ∧
    (2 * t.size ≤ fuel → Writes True (writeTree fuel .part t) Full) := by
  induction fuel generalizing t with
  | zero =>
    have := t.size_pos
    exact ⟨fun _ enough => by omega, fun enough => by omega⟩
  | succ fuel ih =>
    have serves (enough : 2 * t.size ≤ fuel + 1) : Serves (writeTree fuel) t := by
      constructor
      · intro u under written avoid place
        have := Tree.size_lt_of_under under
        exact ((ih (under.wellFormed wf)).1 written (by omega) avoid place).because under.hindered
      · intro u under
        have := Tree.size_lt_of_under under
        exact (ih (under.wellFormed wf)).2 (by omega)
    have below : ∀ u ∈ t.children, u.Conforms := fun u hu => (wf.child hu).root
    obtain ⟨c, fs, rfl⟩ := Tree.exists_node wf.root.isNode
    constructor
    · intro written enough avoid place
      exact writeNode_writes (serves (by omega)) wf.root avoid place below ((ih wf).2 (by omega)) written
    · intro enough
      exact writePart_writes (serves enough) wf.root

/-- A well-formed expression is printed, unless something in it hinders that. -/
theorem print_writes {t : Tree} (wf : t.WellFormed) (written : t.Written) :
    Writes t.Hindered t.print fun _ => True := by
  unfold Tree.print
  refine ((writeTree_writes wf).1 written (by omega) false .test).bind fun ps hps => ?_
  obtain ⟨text, joined⟩ := join_eq_ok hps
  rw [joined]
  exact .ok trivial

end CallLint.Printer

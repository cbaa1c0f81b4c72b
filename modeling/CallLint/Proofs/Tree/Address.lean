import CallLint.Tree.Walk

/-!
# Addresses

An address is the list of child numbers on the way from the root to a node. `at?` follows one; a property holds
everywhere in a tree if it holds of what stands at each address. Children of different fields are stored apart, so the
nodes below a node are fewer than the nodes stored in it (`listCount_children_lt`): that is what bounds a walk.
-/

namespace CallLint.Tree

/-- What stands at an address. -/
def at? (t : Tree) : List Nat → Option Tree
  | [] => some t
  | i :: a => t.children[i]?.bind fun c => c.at? a

/-- A property of every node of a tree, at whatever depth. -/
def Everywhere (P : Tree → Prop) (t : Tree) : Prop := ∀ a u, t.at? a = some u → P u

@[simp] theorem at?_nil (t : Tree) : t.at? [] = some t := rfl

theorem at?_cons_eq_some {t u : Tree} {i : Nat} {a : List Nat} :
    t.at? (i :: a) = some u ↔ ∃ c, t.children[i]? = some c ∧ c.at? a = some u := by
  simp [at?, Option.bind_eq_some_iff]

theorem at?_append (t : Tree) (a b : List Nat) : t.at? (a ++ b) = (t.at? a).bind (·.at? b) := by
  induction a generalizing t with
  | nil => rfl
  | cons i a ih =>
    rw [List.cons_append, at?, at?]
    cases t.children[i]? with
    | none => rfl
    | some c => exact ih c

theorem at?_snoc_eq_some {t u : Tree} {a : List Nat} {i : Nat} :
    t.at? (a ++ [i]) = some u ↔ ∃ p, t.at? a = some p ∧ p.children[i]? = some u := by
  simp [at?_append, Option.bind_eq_some_iff, at?]

theorem isNode_of_mem_nodesIn {t u : Tree} (h : u ∈ nodesIn t) : u.isNode = true := by
  unfold nodesIn at h
  split at h
  · exact (List.mem_filter.1 h).2
  · split at h
    · next hn => rw [List.mem_singleton.1 h]; exact hn
    · exact absurd h List.not_mem_nil

theorem mem_children {t u : Tree} :
    u ∈ t.children ↔ ∃ c f, t.cls? = some c ∧ f ∈ c.fields ∧ u ∈ nodesIn (t.fieldD f) := by
  unfold children
  split
  · next c hc => simp [hc]
  · next hc => simp [hc]

theorem isNode_of_mem_children {t u : Tree} (h : u ∈ t.children) : u.isNode = true := by
  obtain ⟨c, f, -, -, hu⟩ := mem_children.1 h
  exact isNode_of_mem_nodesIn hu

section Everywhere

variable {P Q : Tree → Prop} {t : Tree}

theorem Everywhere.root (h : t.Everywhere P) : P t := h [] t rfl

theorem Everywhere.descend {a : List Nat} {u : Tree} (h : t.Everywhere P) (hu : t.at? a = some u) : u.Everywhere P := by
  intro b v hv
  exact h (a ++ b) v (by rw [at?_append, hu]; exact hv)

theorem Everywhere.child {c : Tree} (h : t.Everywhere P) (hc : c ∈ t.children) : c.Everywhere P := by
  obtain ⟨i, hi⟩ := List.mem_iff_getElem?.1 hc
  exact h.descend (a := [i]) (at?_cons_eq_some.2 ⟨c, hi, rfl⟩)

theorem Everywhere.mono (h : t.Everywhere P) (hPQ : ∀ u, P u → Q u) : t.Everywhere Q :=
  fun a u hu => hPQ u (h a u hu)

theorem everywhere_of_children (hP : P t) (hc : ∀ c ∈ t.children, c.Everywhere P) : t.Everywhere P := by
  intro a u hu
  cases a with
  | nil => rw [at?_nil, Option.some.injEq] at hu; rw [← hu]; exact hP
  | cons i a =>
    obtain ⟨c, hi, hu⟩ := at?_cons_eq_some.1 hu
    exact hc c (List.mem_of_getElem? hi) a u hu

end Everywhere

theorem listCount_append (ts us : List Tree) : listCount (ts ++ us) = listCount ts + listCount us := by
  induction ts with
  | nil => simp [listCount]
  | cons t ts ih => simp [listCount, ih]; omega

theorem listCount_filter_le (p : Tree → Bool) (ts : List Tree) : listCount (ts.filter p) ≤ listCount ts := by
  induction ts with
  | nil => simp
  | cons t ts ih =>
    rw [List.filter_cons]
    split <;> simp only [listCount] <;> omega

theorem listCount_nodesIn_le (t : Tree) : listCount (nodesIn t) ≤ nodeCount t := by
  unfold nodesIn
  split
  · exact listCount_filter_le _ _
  · split <;> simp [listCount]

/-- What some fields weigh together. -/
def weigh (h : Field → Nat) : List Field → Nat
  | [] => 0
  | f :: keys => h f + weigh h keys

theorem listCount_flatMap_le {g : Field → List Tree} {h : Field → Nat} (bound : ∀ f, listCount (g f) ≤ h f)
    (keys : List Field) : listCount (keys.flatMap g) ≤ weigh h keys := by
  induction keys with
  | nil => simp [listCount]
  | cons f keys ih =>
    have := bound f
    simp only [List.flatMap_cons, listCount_append, weigh]
    omega

theorem weigh_congr {h k : Field → Nat} {keys : List Field} (same : ∀ f ∈ keys, h f = k f) : weigh h keys = weigh k keys := by
  induction keys with
  | nil => rfl
  | cons f keys ih =>
    rw [weigh, weigh, same f List.mem_cons_self, ih fun g hg => same g (List.mem_cons_of_mem f hg)]

theorem weigh_zero (keys : List Field) : weigh (fun _ => 0) keys = 0 := by
  induction keys with
  | nil => rfl
  | cons f keys ih => rw [weigh, ih]

/-- The nodes stored under one field name. -/
def storedCount (fs : List (Field × Tree)) (f : Field) : Nat := ((fs.lookup f).map nodeCount).getD 0

/-- A value that is looked up once weighs at most once. -/
theorem weigh_update_le {g : Field} {n : Nat} {h : Field → Nat} {keys : List Field} (nodup : keys.Nodup) :
    weigh (fun f => if f == g then n else h f) keys ≤ n + weigh h keys := by
  induction keys with
  | nil => simp [weigh]
  | cons f keys ih =>
    obtain ⟨hf, nodup⟩ := List.nodup_cons.1 nodup
    by_cases hg : f = g
    · subst hg
      have same : weigh (fun k => if k == f then n else h k) keys = weigh h keys := by
        refine weigh_congr fun k hk => ?_
        have : k ≠ f := fun e => hf (e ▸ hk)
        simp [this]
      simp only [weigh, same, BEq.rfl, if_true]
      omega
    · have := ih nodup
      have other : (f == g) = false := beq_false_of_ne hg
      simp only [weigh, other, Bool.false_eq_true, if_false]
      omega

theorem weigh_storedCount_le {keys : List Field} (nodup : keys.Nodup) (fs : List (Field × Tree)) :
    weigh (storedCount fs) keys ≤ fieldsCount fs := by
  induction fs with
  | nil =>
    have none : storedCount [] = fun _ => 0 := rfl
    rw [none, weigh_zero]
    exact Nat.zero_le _
  | cons e fs ih =>
    obtain ⟨g, t⟩ := e
    have step : storedCount ((g, t) :: fs) = fun f => if f == g then nodeCount t else storedCount fs f := by
      funext f
      simp only [storedCount, List.lookup_cons]
      cases f == g <;> rfl
    rw [step]
    have := weigh_update_le (g := g) (n := nodeCount t) (h := storedCount fs) nodup
    simp only [fieldsCount]
    omega

theorem NodeClass.fields_nodup (c : NodeClass) : c.fields.Nodup := by cases c <;> decide

/-- The nodes below a node are stored in its fields, each once. -/
theorem listCount_children_lt {t : Tree} (h : t.isNode = true) : listCount t.children < nodeCount t := by
  cases t with
  | node c fs =>
    have bound : ∀ f, listCount (nodesIn ((node c fs).fieldD f)) ≤ storedCount fs f := by
      intro f
      simp only [fieldD, field?, storedCount]
      cases fs.lookup f with
      | some v => exact listCount_nodesIn_le v
      | none => cases c.defaults f <;> simp [nodesIn, isNode, cls?, listCount]
    have each := listCount_flatMap_le bound c.fields
    have sum := weigh_storedCount_le c.fields_nodup fs
    simp only [children, cls?, nodeCount]
    omega
  | _ => simp [isNode, cls?] at h

end CallLint.Tree

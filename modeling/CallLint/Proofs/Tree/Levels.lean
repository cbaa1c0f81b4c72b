import CallLint.Proofs.Tree.BreadthFirst
import Mathlib.Data.List.Perm.Basic

/-!
# The walk enumerates a tree

Pre-order and the levels of a tree have the same occurrences (`preorder_perm_levels`), so the walk has those of pre-order, in
another order: the root first, what is above before what is below, and each level from left to right.
-/

namespace CallLint.Tree

namespace Occurrence

theorem nodeCount_lt_of_mem_children {o p : Occurrence} (h : p ∈ o.children) : p.node.nodeCount < o.node.nodeCount := by
  obtain ⟨i, -, hi⟩ := mem_children.1 h
  have mem : p.node ∈ o.node.children := List.mem_of_getElem? hi
  have isNode : o.node.isNode = true := by
    obtain ⟨c, f, hc, -⟩ := Tree.mem_children.1 mem
    simp [Tree.isNode, hc]
  have below := listCount_children_lt isNode
  obtain ⟨before, after, split⟩ := List.append_of_mem mem
  rw [split, listCount_append, listCount] at below
  omega

/-- An occurrence and all below it in pre-order: each before what is below it, and what is below one child before the next
child. -/
def preorder (o : Occurrence) : List Occurrence :=
  o :: o.children.attach.flatMap fun p => preorder p.1
termination_by o.node.nodeCount
decreasing_by exact nodeCount_lt_of_mem_children p.2

theorem preorder_eq (o : Occurrence) : o.preorder = o :: o.children.flatMap preorder := by
  rw [preorder, List.flatMap_subtype (g := preorder) fun _ _ => rfl, List.unattach_attach]

/-- Lists that are indexed twice may be joined in either order of the indices. -/
theorem flatMap_flatMap_perm {α β γ : Type} (as : List α) (bs : List β) (f : α → β → List γ) :
    (as.flatMap fun a => bs.flatMap (f a)).Perm (bs.flatMap fun b => as.flatMap fun a => f a b) := by
  induction as with
  | nil => simp
  | cons a as ih =>
    simp only [List.flatMap_cons]
    exact (ih.append_left _).trans (List.flatMap_append_perm bs _ _)

/-- Pre-order has what the levels down to an empty one have, each as often. -/
theorem preorder_perm_levels {o : Occurrence} {n : Nat} (last : level n o = []) :
    o.preorder.Perm ((List.range n).flatMap (level · o)) := by
  induction n generalizing o with
  | zero => cases last
  | succ n ih =>
    have below : ∀ p ∈ o.children, p.preorder.Perm ((List.range n).flatMap (level · p)) :=
      fun p hp => ih (List.flatMap_eq_nil_iff.1 last p hp)
    rw [preorder_eq, List.range_succ_eq_map, List.flatMap_cons, List.flatMap_map]
    exact ((List.Perm.flatMap_left _ below).trans (flatMap_flatMap_perm _ _ fun p k => level k p)).cons o

end Occurrence

open Occurrence (level)

/-- A list that is what the loop of a walk gives, has every occurrence of a tree once, and has them level by level. -/
structure EnumeratesLevels (t : Tree) (os : List Occurrence) : Prop where
  drains : Drains [root t] os
  all : ∀ o, o ∈ os ↔ o.In t
  once : os.Nodup
  perm_preorder : os.Perm (root t).preorder
  root_first : os.head? = some (root t)
  parents_first : ∀ o ∈ os, ∀ p ∈ o.children, [o, p].Sublist os
  /-- Depths do not decrease, and at one depth the child numbers go from left to right. -/
  ordered : os.Pairwise fun o p => BreadthFirst o.place p.place
  levels : ∃ height, (∀ n, level n (root t) = [] ↔ height ≤ n) ∧ os = (List.range height).flatMap (level · (root t))

/-- In breadth-first order children come after what they are children of. -/
theorem parent_before_child {os : List Occurrence} (ordered : os.Pairwise fun o p => BreadthFirst o.place p.place)
    {o p : Occurrence} (ho : o ∈ os) (hp : p ∈ os) (child : p ∈ o.children) : [o, p].Sublist os := by
  obtain ⟨i, address, -⟩ := Occurrence.mem_children.1 child
  have deeper : p.place.length = o.place.length + 1 := by simp [Occurrence.place_of_address address]
  obtain ⟨before, after, rfl⟩ := List.append_of_mem ho
  have later : p ∈ after := by
    rcases List.mem_append.1 hp with earlier | here
    · have := (List.pairwise_append.1 ordered).2.2 p earlier o List.mem_cons_self
      unfold BreadthFirst at this
      omega
    · rcases List.mem_cons.1 here with rfl | later
      · omega
      · exact later
  exact ((List.singleton_sublist.2 later).cons_cons o).trans (List.sublist_append_right _ _)

/-- The walk of every node ends and enumerates its tree breadth first. -/
theorem walk_enumeratesLevels (c : NodeClass) (fs : List (Field × Tree)) :
    ∃ os, (node c fs).occurrences = .ok os ∧ (node c fs).walk = .ok (os.map (·.node)) ∧
      EnumeratesLevels (node c fs) os := by
  have isNode : (node c fs).isNode = true := rfl
  generalize node c fs = t at isNode
  obtain ⟨os, height, occurrences_eq, drains, empty_iff, os_eq⟩ := occurrences_levels isNode
  obtain ⟨all, ordered⟩ := levels_breadthFirst fun n => (empty_iff n).2
  rw [← os_eq] at all ordered
  refine ⟨os, occurrences_eq, by rw [walk, occurrences_eq]; rfl, drains, all, ?_, ?_, ?_, ?_, ordered, height, empty_iff,
    os_eq⟩
  · refine ordered.imp fun {o p} less same => ?_
    rw [same] at less
    exact BreadthFirst.irrefl _ less
  · rw [os_eq]
    exact (Occurrence.preorder_perm_levels ((empty_iff height).2 (Nat.le_refl height))).symm
  · cases drains with
    | take => rfl
  · intro o ho p child
    exact parent_before_child ordered ho ((all p).2 (((all o).1 ho).child child)) child

end CallLint.Tree

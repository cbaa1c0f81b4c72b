import CallLint.Proofs.Tree.Address

/-!
# The walk is breadth first

The walk of a tree lists what stands at each of its addresses exactly once, in breadth-first order: by depth, and at
one depth from left to right (`occurrences_breadthFirst`). A queue that holds one level of the tree becomes, after as
many steps as it is long, the next level, so a walk yields the levels one after the other until one is empty
(`occurrences_levels`). The nodes that are stored in what the queue holds bound how long that takes.
-/

namespace CallLint.Tree

/-- Breadth-first order of addresses: by depth, at one depth from left to right. -/
def BreadthFirst (a b : List Nat) : Prop := a.length < b.length ∨ a.length = b.length ∧ a < b

theorem BreadthFirst.irrefl (a : List Nat) : ¬ BreadthFirst a a := by
  rintro (h | ⟨-, h⟩)
  · omega
  · exact List.lt_irrefl a h

/-- The address of an occurrence, from the root. -/
def Occurrence.place (o : Occurrence) : List Nat := o.address.reverse

/-- Whether an occurrence tells truly what stands in a tree. -/
def Occurrence.In (o : Occurrence) (t : Tree) : Prop := t.at? o.place = some o.node

theorem Occurrence.mem_children {o p : Occurrence} :
    p ∈ o.children ↔ ∃ i, p.address = i :: o.address ∧ o.node.children[i]? = some p.node := by
  unfold Occurrence.children
  constructor
  · intro h
    obtain ⟨⟨c, i⟩, hc, rfl⟩ := List.mem_map.1 h
    exact ⟨i, rfl, List.mem_zipIdx_iff_getElem?.1 hc⟩
  · rintro ⟨i, ha, hc⟩
    refine List.mem_map.2 ⟨(p.node, i), List.mem_zipIdx_iff_getElem?.2 hc, ?_⟩
    simp only [← ha]

theorem Occurrence.place_of_address {o p : Occurrence} {i : Nat} (h : p.address = i :: o.address) :
    p.place = o.place ++ [i] := by
  simp [place, h]

theorem Occurrence.In.child {t : Tree} {o p : Occurrence} (h : o.In t) (child : p ∈ o.children) : p.In t := by
  obtain ⟨i, address, hp⟩ := mem_children.1 child
  rw [In, place_of_address address]
  exact at?_snoc_eq_some.2 ⟨o.node, h, hp⟩

/-- The children of an occurrence stand from left to right. -/
theorem Occurrence.children_ordered (o : Occurrence) : o.children.Pairwise fun p q => p.place < q.place := by
  unfold Occurrence.children
  rw [List.pairwise_map]
  have indices : (o.node.children.zipIdx.map (·.2)).Pairwise (· < ·) := by
    rw [List.zipIdx_map_snd]
    exact List.pairwise_lt_range'
  refine (List.pairwise_map.1 indices).imp ?_
  rintro ⟨c, i⟩ ⟨d, j⟩ hij
  simp only [place, List.reverse_cons]
  exact List.append_left_lt (List.cons_lt_cons_iff.2 (Or.inl hij))

theorem append_lt_append {a b : List Nat} (x y : List Nat) (len : a.length = b.length) (h : a < b) : a ++ x < b ++ y := by
  induction a generalizing b with
  | nil =>
    cases b with
    | nil => exact absurd h (List.lt_irrefl [])
    | cons j b => simp at len
  | cons i a ih =>
    cases b with
    | nil => simp at len
    | cons j b =>
      rcases List.cons_lt_cons_iff.1 h with lt | ⟨rfl, lt⟩
      · exact List.cons_lt_cons_iff.2 (Or.inl lt)
      · exact List.cons_lt_cons_iff.2 (Or.inr ⟨rfl, ih (by simpa using len) lt⟩)

/-- The occurrences at one depth of a tree, from left to right. -/
structure IsLevel (t : Tree) (depth : Nat) (level : List Occurrence) : Prop where
  complete : ∀ o, o ∈ level ↔ o.place.length = depth ∧ o.In t
  ordered : level.Pairwise fun o p => o.place < p.place

/-- The occurrence of a tree in itself. -/
def root (t : Tree) : Occurrence := ⟨[], t⟩

theorem isLevel_root (t : Tree) : IsLevel t 0 [root t] := by
  constructor
  · rintro ⟨address, node⟩
    simp only [root, Occurrence.In, Occurrence.place, List.mem_singleton, Occurrence.mk.injEq, List.length_reverse,
      List.length_eq_zero_iff]
    constructor
    · rintro ⟨rfl, rfl⟩
      exact ⟨rfl, rfl⟩
    · rintro ⟨rfl, h⟩
      exact ⟨rfl, (Option.some.inj h).symm⟩
  · exact List.pairwise_singleton _ _

/-- The children of a level are the next one. -/
theorem IsLevel.next {t : Tree} {depth : Nat} {level : List Occurrence} (h : IsLevel t depth level) :
    IsLevel t (depth + 1) (level.flatMap Occurrence.children) := by
  constructor
  · intro p
    rw [List.mem_flatMap]
    constructor
    · rintro ⟨o, ho, hp⟩
      obtain ⟨i, ha, -⟩ := Occurrence.mem_children.1 hp
      obtain ⟨len, at_o⟩ := (h.complete o).1 ho
      exact ⟨by simp [Occurrence.place_of_address ha, len], at_o.child hp⟩
    · rintro ⟨len, at_p⟩
      obtain ⟨address, node⟩ := p
      cases address with
      | nil => simp [Occurrence.place] at len
      | cons i address =>
        simp only [Occurrence.In, Occurrence.place, List.reverse_cons] at at_p
        obtain ⟨v, hv, hc⟩ := at?_snoc_eq_some.1 at_p
        refine ⟨⟨address, v⟩, (h.complete _).2 ⟨?_, hv⟩, Occurrence.mem_children.2 ⟨i, rfl, hc⟩⟩
        simpa [Occurrence.place] using len
  · rw [List.pairwise_flatMap]
    refine ⟨fun o _ => o.children_ordered, h.ordered.imp_of_mem ?_⟩
    intro o o' ho ho' lt p hp q hq
    obtain ⟨i, ha, -⟩ := Occurrence.mem_children.1 hp
    obtain ⟨j, hb, -⟩ := Occurrence.mem_children.1 hq
    rw [Occurrence.place_of_address ha, Occurrence.place_of_address hb]
    exact append_lt_append [i] [j] (by rw [((h.complete o).1 ho).1, ((h.complete o').1 ho').1]) lt

namespace Occurrence

/-- What stands `n` steps below an occurrence, from left to right. -/
def level : Nat → Occurrence → List Occurrence
  | 0, o => [o]
  | n + 1, o => o.children.flatMap (level n)

/-- The next level is made of the children of the one before. -/
theorem level_succ (n : Nat) (o : Occurrence) : level (n + 1) o = (level n o).flatMap children := by
  induction n generalizing o with
  | zero => simp [level]
  | succ n ih =>
    rw [level, level, List.flatMap_assoc]
    exact congrArg o.children.flatMap (funext ih)

end Occurrence

open Occurrence (level)

theorem isLevel_level (t : Tree) (n : Nat) : IsLevel t n (level n (root t)) := by
  induction n with
  | zero => exact isLevel_root t
  | succ n ih =>
    rw [Occurrence.level_succ]
    exact ih.next

/-- The levels of a tree down to an empty one have what stands in it, breadth first. -/
theorem levels_breadthFirst {t : Tree} {height : Nat} (empty : ∀ n, height ≤ n → level n (root t) = []) :
    (∀ o, o ∈ (List.range height).flatMap (level · (root t)) ↔ o.In t) ∧
      ((List.range height).flatMap (level · (root t))).Pairwise fun o p => BreadthFirst o.place p.place := by
  have depth : ∀ {n o}, o ∈ level n (root t) → o.place.length = n :=
    fun {n o} ho => (((isLevel_level t n).complete o).1 ho).1
  constructor
  · intro o
    simp only [List.mem_flatMap, List.mem_range, (isLevel_level t _).complete]
    constructor
    · rintro ⟨n, -, -, ho⟩
      exact ho
    · intro ho
      refine ⟨o.place.length, Nat.lt_of_not_le fun deep => ?_, rfl, ho⟩
      have mem := ((isLevel_level t o.place.length).complete o).2 ⟨rfl, ho⟩
      rw [empty _ deep] at mem
      exact List.not_mem_nil mem
  · refine List.pairwise_flatMap.2 ⟨fun n _ => (isLevel_level t n).ordered.imp_of_mem ?_, List.pairwise_lt_range.imp ?_⟩
    · intro o p ho hp less
      exact Or.inr ⟨by rw [depth ho, depth hp], less⟩
    · intro m n less o ho p hp
      exact Or.inl (by rw [depth ho, depth hp]; exact less)

/-- The loop of a walk, which takes an occurrence from the front of the queue and puts its children at the end, comes to an
empty queue and has then taken `os`. -/
inductive Drains : List Occurrence → List Occurrence → Prop where
  | stop : Drains [] []
  | take {o : Occurrence} {queue os : List Occurrence} (rest : Drains (queue ++ o.children) os) :
      Drains (o :: queue) (o :: os)

/-- The loop takes a whole queue before any of the children that it puts behind it. -/
theorem Drains.front {front back os : List Occurrence} (h : Drains (back ++ front.flatMap Occurrence.children) os) :
    Drains (front ++ back) (front ++ os) := by
  induction front generalizing back with
  | nil => simpa using h
  | cons o front ih =>
    have rest : Drains (front ++ (back ++ o.children)) (front ++ os) := ih (by simpa using h)
    exact .take (by simpa using rest)

theorem walkQueue_nil (fuel : Nat) : walkQueue fuel [] = [] := by cases fuel <;> rfl

theorem Drains.walkQueue_eq {queue os : List Occurrence} (h : Drains queue os) {fuel : Nat} (enough : os.length ≤ fuel) :
    walkQueue fuel queue = os := by
  induction h generalizing fuel with
  | stop => exact walkQueue_nil fuel
  | take _ ih =>
    cases fuel with
    | zero => simp at enough
    | succ fuel => rw [walkQueue, ih (by simpa using enough)]

/-- The number of nodes stored in what a queue holds. -/
def queueCount (queue : List Occurrence) : Nat := listCount (queue.map (·.node))

theorem queueCount_flatMap_children {queue : List Occurrence} (h : ∀ o ∈ queue, o.node.isNode = true) :
    queue.length + queueCount (queue.flatMap Occurrence.children) ≤ queueCount queue := by
  induction queue with
  | nil => simp [queueCount, listCount]
  | cons o queue ih =>
    have head := listCount_children_lt (h o List.mem_cons_self)
    have tail := ih fun p hp => h p (List.mem_cons_of_mem _ hp)
    have nodes : o.children.map (·.node) = o.node.children := by
      simp [Occurrence.children, List.map_map, Function.comp_def]
    simp only [queueCount, List.flatMap_cons, List.map_append, listCount_append, nodes, List.map_cons, listCount,
      List.length_cons] at tail ⊢
    omega

/-- The loop takes the levels below what is in the queue until one is empty. The induction is on the nodes in the queue and
below: each level that is taken leaves fewer. -/
theorem drains_levels {queue : List Occurrence} (nodes : ∀ o ∈ queue, o.node.isNode = true) :
    ∃ height os, (∀ n, queue.flatMap (level n) = [] ↔ height ≤ n) ∧
      os = (List.range height).flatMap (fun n => queue.flatMap (level n)) ∧ Drains queue os ∧
      os.length ≤ queueCount queue := by
  -- The nodes in the queue and below it get fewer from one level to the next.
  induction size : queueCount queue using Nat.strongRecOn generalizing queue with
  | ind size' ih =>
    by_cases empty : queue = []
    · subst empty
      exact ⟨0, [], by simp, rfl, .stop, by simp⟩
    have shrink := queueCount_flatMap_children nodes
    have longer := List.length_pos_iff.2 empty
    have below : ∀ p ∈ queue.flatMap Occurrence.children, p.node.isNode = true := by
      intro p hp
      obtain ⟨o, -, child⟩ := List.mem_flatMap.1 hp
      obtain ⟨i, -, hi⟩ := Occurrence.mem_children.1 child
      exact isNode_of_mem_children (List.mem_of_getElem? hi)
    obtain ⟨height, os, empty_iff, os_eq, drains, short⟩ := ih _ (by omega) below rfl
    simp only [List.flatMap_assoc] at empty_iff os_eq
    have whole : Drains (queue ++ []) (queue ++ os) := .front (by simpa using drains)
    refine ⟨height + 1, queue ++ os, fun n => ?_, ?_, by simpa using whole, by rw [List.length_append]; omega⟩
    · cases n with
      | zero => simp [level, empty]
      | succ n => rw [Nat.add_le_add_iff_right, ← empty_iff]; rfl
    · rw [List.range_succ_eq_map, List.flatMap_cons, List.flatMap_map, os_eq]
      simp [level]

/-- The walk of a tree ends, and it is made of the levels of the tree. -/
theorem occurrences_levels {t : Tree} (ht : t.isNode = true) :
    ∃ os height, t.occurrences = .ok os ∧ Drains [root t] os ∧ (∀ n, level n (root t) = [] ↔ height ≤ n) ∧
      os = (List.range height).flatMap (level · (root t)) := by
  obtain ⟨height, os, empty_iff, os_eq, drains, short⟩ := drains_levels (List.forall_mem_singleton.2 ht : ∀ o ∈ [root t], _)
  simp only [List.flatMap_singleton] at empty_iff os_eq
  have enough : os.length ≤ t.nodeCount := by simpa [root, queueCount, listCount] using short
  refine ⟨os, height, ?_, drains, empty_iff, os_eq⟩
  rw [occurrences, if_pos ht]
  exact congrArg Except.ok (drains.walkQueue_eq enough)

/-- The walk of a tree lists what stands at each address once, breadth first. -/
theorem occurrences_breadthFirst {t : Tree} (ht : t.isNode = true) :
    ∃ os, t.occurrences = .ok os ∧ (∀ o, o ∈ os ↔ o.In t) ∧ os.Pairwise fun o p => BreadthFirst o.place p.place := by
  obtain ⟨os, height, occurrences_eq, -, empty_iff, rfl⟩ := occurrences_levels ht
  exact ⟨_, occurrences_eq, levels_breadthFirst fun n => (empty_iff n).2⟩

/-- What holds everywhere in a tree holds everywhere below each of its occurrences. -/
theorem Everywhere.occurrences_eq_ok {P : Tree → Prop} {t : Tree} (h : t.Everywhere P) (ht : t.isNode = true) :
    ∃ os, t.occurrences = .ok os ∧ ∀ o ∈ os, o.node.Everywhere P := by
  obtain ⟨os, hos, complete, -⟩ := occurrences_breadthFirst ht
  exact ⟨os, hos, fun o ho => h.descend ((complete o).1 ho)⟩

/-- The walk of a tree, if there is one, lists what stands in the tree. -/
theorem mem_occurrences {t : Tree} {os : List Occurrence} (h : t.occurrences = .ok os) {o : Occurrence} :
    o ∈ os ↔ o.In t := by
  have node : t.isNode = true := by
    unfold occurrences at h
    split at h
    · next node => exact node
    · cases h
  obtain ⟨os', hos', complete, -⟩ := occurrences_breadthFirst node
  obtain rfl : os = os' := Except.ok.inj (h.symm.trans hos')
  exact complete o

theorem mem_of_walk {t u : Tree} {nodes : List Tree} (h : t.walk = .ok nodes) :
    u ∈ nodes ↔ ∃ a, t.at? a = some u := by
  unfold walk at h
  cases hos : t.occurrences with
  | error e =>
    rw [hos] at h
    cases h
  | ok os =>
    rw [hos] at h
    cases h
    rw [List.mem_map]
    constructor
    · rintro ⟨o, ho, rfl⟩
      exact ⟨o.place, (mem_occurrences hos).1 ho⟩
    · rintro ⟨a, ha⟩
      exact ⟨⟨a.reverse, u⟩, (mem_occurrences hos).2 (by simpa [Occurrence.In, Occurrence.place] using ha), rfl⟩

end CallLint.Tree

import CallLint.Tree.Basic

/-!
# Walking a tree

The children of a node are the nodes in its fields, in field order; in a list, its elements. The walk visits the nodes
of a tree breadth first by a queue, and gives each with its address, the child numbers on the way to it.
-/

namespace CallLint.Tree

/-- The nodes that a value holds directly. -/
def nodesIn : Tree → List Tree
  | list ts => ts.filter isNode
  | t => if t.isNode then [t] else []

/-- The children of a node, in field order. -/
def children (t : Tree) : List Tree :=
  match t.cls? with
  | some c => c.fields.flatMap fun f => nodesIn (t.fieldD f)
  | none => []

mutual

/-- The number of nodes stored in a tree. -/
def nodeCount : Tree → Nat
  | node _ fs => fieldsCount fs + 1
  | list ts => listCount ts
  | _ => 0

/-- The number of nodes stored in fields. -/
def fieldsCount : List (Field × Tree) → Nat
  | [] => 0
  | (_, t) :: fs => nodeCount t + fieldsCount fs

/-- The number of nodes stored in a list. -/
def listCount : List Tree → Nat
  | [] => 0
  | t :: ts => nodeCount t + listCount ts

end

/-- A node of a tree with its address: the child numbers on the way from the root, the last one first. -/
structure Occurrence where
  address : List Nat
  node : Tree
deriving Inhabited

/-- The children of an occurrence. -/
def Occurrence.children (o : Occurrence) : List Occurrence :=
  o.node.children.zipIdx.map fun (t, i) => ⟨i :: o.address, t⟩

/-- Takes occurrences from the front of a queue and puts their children at its end. -/
def walkQueue : Nat → List Occurrence → List Occurrence
  | 0, _ => []
  | _ + 1, [] => []
  | fuel + 1, o :: queue => o :: walkQueue fuel (queue ++ o.children)

/-- The nodes of a tree with their addresses, breadth first. Only a node can be walked. -/
def occurrences (t : Tree) : Except Fault (List Occurrence) :=
  if t.isNode then .ok (walkQueue t.nodeCount [⟨[], t⟩]) else .error .absent

/-- The nodes of a tree, breadth first. -/
def walk (t : Tree) : Except Fault (List Tree) := t.occurrences.map (·.map (·.node))

end CallLint.Tree

import CallLint.Yaml.Literal
import CallLint.Yaml.Node

/-!
# The value of a settings text

`Yaml.read` gives the value of the document in a text. Values of collections are made level by level: of several faults the
one at the least depth counts, and of those the first. A merge key `<<` adds the entries of the mappings that it names before
the mapping's own ones, so that own entries win. A mapping with the key `=` can stand for a scalar.

Nodes are shared by their aliases, and so are their values: a node from which no alias leads back into a collection around it
has one value wherever it stands. The value of a collection that contains itself shows a mark at the inner place.
-/

namespace CallLint.Yaml

/-- A fault, and how many levels below the place in question it lies. -/
structure DeepFault where
  depth : Nat
  fault : Fault
deriving Repr, Inhabited

/-- A value, or the fault that counts. -/
abbrev Outcome (α : Type) := Except DeepFault α

namespace Outcome

/-- A fault at this place. -/
def fail {α : Type} (f : Fault) : Outcome α := .error ⟨0, f⟩

/-- What is known at this place alone. -/
def here {α : Type} : Except Fault α → Outcome α
  | .ok a => .ok a
  | .error f => fail f

/-- The outcome seen from one level above. -/
def deeper {α : Type} : Outcome α → Outcome α
  | .ok a => .ok a
  | .error e => .error { e with depth := e.depth + 1 }

/-- The faults of both parts are compared: the lesser depth counts, then the order. -/
def both {α β γ : Type} (f : α → β → γ) : Outcome α → Outcome β → Outcome γ
  | .ok a, .ok b => .ok (f a b)
  | .error e, .ok _ => .error e
  | .ok _, .error e => .error e
  | .error d, .error e => .error (if e.depth < d.depth then e else d)

/-- All outcomes together. -/
def all {α : Type} : List (Outcome α) → Outcome (List α)
  | [] => .ok []
  | x :: xs => both (· :: ·) x (all xs)

end Outcome

namespace Document

/-- The node with a number. -/
def node (d : Document) (i : Nat) : Node := (d.nodes.lookup i).getD .empty

/-- More steps than lead from node to node without a return. -/
def size (d : Document) : Nat := d.nodes.length + 1

/-- The text of a scalar, or of the entry under `=` of a mapping that stands for one. -/
def text (d : Document) : Nat → Nat → Except Fault Text
  | 0, _ => .error .endless
  | fuel + 1, i =>
    match d.node i with
    | .scalar _ t => .ok t
    | .sequence _ _ => .error .malformed
    | .mapping _ entries =>
      match entries.find? fun e => (d.node e.1).kind == .default with
      | some (_, v) => d.text fuel v
      | none => .error .malformed

/-- The entries that a node brings under a merge key, given those of mappings: of several mappings the last one comes first. -/
def brought (d : Document) (entriesOf : Nat → Except Fault (List (Nat × Nat))) (i : Nat) :
    Except Fault (List (Nat × Nat)) :=
  match d.node i with
  | .mapping _ _ => entriesOf i
  | .sequence _ items => do
    let new ← items.mapM fun j => if (d.node j).isMapping then entriesOf j else .error .malformed
    return new.reverse.flatten
  | .scalar _ _ => .error .malformed

/-- The entries of a mapping: those that its merge keys bring, then its own. In itself, that is in the mappings `above`, it
brings its own ones only. -/
def entries (d : Document) : Nat → List Nat → Nat → Except Fault (List (Nat × Nat))
  | 0, _, _ => .error .malformed
  | fuel + 1, above, i =>
    match d.node i with
    | .mapping _ es => do
      let (merges, own) := es.partition fun e => (d.node e.1).kind == .merge
      if above.contains i then return own
      else
        let new ← merges.mapM fun e => d.brought (d.entries fuel (i :: above)) e.2
        return new.flatten ++ own
    | _ => .error .malformed

/-- The outcome for a part of a collection: the content of a collection is one level down. -/
def placed (d : Document) (value : Nat → Outcome Value) (i : Nat) : Outcome Value :=
  if (d.node i).kind.isCollection then (value i).deeper else value i

/-- The outcome for a key: a scalar, or the word `=` for itself. -/
def key (d : Document) (value : Nat → Outcome Value) (i : Nat) : Outcome Value :=
  let k := (d.node i).kind
  if k == .default then .here (d.text d.size i >>= Literal.value .text)
  else if k.isCollection then .fail .malformed
  else value i

/-- The outcome for an item of a list of pairs: a mapping of one entry. -/
def pair (d : Document) (value : Nat → Outcome Value) (i : Nat) : Outcome (Value × Value) :=
  match d.node i with
  | .mapping _ [(k, v)] => .both Prod.mk (d.placed value k) (d.placed value v)
  | _ => .fail .malformed

/-- The keys and values of a mapping. -/
def contents (d : Document) (value : Nat → Outcome Value) (i : Nat) : Outcome (List (Value × Value)) :=
  match d.entries d.size [] i with
  | .error f => .fail f
  | .ok es => (Outcome.all (es.map fun e => .both Prod.mk (d.key value e.1) (d.placed value e.2))).map Value.putAll

/-- The value of a node whose kind is no collection. A mapping does not stand for a point in time. -/
def scalarValue (d : Document) (k : Kind) (i : Nat) : Except Fault Value := do
  let t ← d.text d.size i
  if k == .timestamp && (d.node i).isMapping then throw .timeOfMapping
  else Literal.value k t

/-- The value of a node, given those of its parts. -/
def compose (d : Document) (value : Nat → Outcome Value) (i : Nat) : Outcome Value :=
  match d.node i, (d.node i).kind with
  | .sequence _ items, .sequence => (Outcome.all (items.map (d.placed value))).map .list
  | .sequence _ items, .orderedMap | .sequence _ items, .pairs => (Outcome.all (items.map (d.pair value))).map .pairs
  | .mapping _ _, .mapping => (d.contents value i).map .map
  | .mapping _ _, .set => (d.contents value i).map fun es => .set (es.map (·.1))
  | _, k => if k.isCollection then .fail .malformed else .here (d.scalarValue k i)

/-- The mark for a collection inside itself. -/
def mark (d : Document) (i : Nat) : Value := if (d.node i).isMapping then .loopMap else .loopList

/-- The value of a node inside the collections `above`, some values being known. -/
def value (d : Document) (known : List (Nat × Outcome Value)) : Nat → List Nat → Nat → Outcome Value
  | 0, _, _ => .fail .malformed
  | fuel + 1, above, i =>
    match known.lookup i with
    | some v => v
    | none => if above.contains i then .ok (d.mark i) else d.compose (d.value known fuel (i :: above)) i

/-- The values of the nodes from which no alias leads back into a collection around it. -/
def settled (d : Document) : List (Nat × Outcome Value) :=
  d.nodes.foldl
    (fun known (i, n) =>
      if n.parts.all fun j => (known.lookup j).isSome then (i, d.value known d.size [] i) :: known else known) []

/-- The value of a document. Each part of the outermost node is seen by itself: if it contains the outermost node, it shows
that too. -/
def outcome (d : Document) : Outcome Value := d.compose (d.value d.settled d.size []) d.root

end Document

/-- The value of the document in a text; a text without a document has the value `null`. -/
def read (cs : List Char) : Except Fault Value := do
  match ← Document.ofTokens (Token.ofText cs) with
  | none => return .null
  | some d =>
    match d.outcome with
    | .ok v => return v
    | .error e => throw e.fault

end CallLint.Yaml

import CallLint.Decimal.Arithmetic
import CallLint.Text.CodePoint
import CallLint.Tree.Schema

/-!
# Syntax trees

A tree is what a field of a syntax node may hold: a node, a list, or a plain value. Trees made by the grammar have
every field of their class; trees made by hand may lack fields or hold values of any kind, so reading a field can
fail. `Fault` is why.
-/

namespace CallLint

open Decimal CallLint.Tree

/-- A value of a syntax tree. -/
inductive Tree where
  | null
  | bool (b : Bool)
  | int (n : Int)
  | real (x : Binary64)
  | imaginary (x : Binary64)
  | text (t : Text)
  | bytes (bs : List UInt8)
  | ellipsis
  | list (items : List Tree)
  | node (cls : NodeClass) (fields : List (Field × Tree))
deriving Inhabited, Repr

namespace Tree

/-- Why work on a tree fails: a field is missing, a value is of the wrong kind, a list is too short, an operator has no
spelling, or a value of the right kind cannot be written. -/
inductive Fault where
  | absent
  | mismatch
  | outOfRange
  | noOperator
  | unwritable
deriving DecidableEq, Repr, Inhabited

/-- The class of a node. -/
def cls? : Tree → Option NodeClass
  | node c _ => some c
  | _ => none

/-- Whether the tree is a node of class `c`. -/
def isA (t : Tree) (c : NodeClass) : Bool := t.cls? == some c

/-- Whether the tree is a node. -/
def isNode (t : Tree) : Bool := t.cls?.isSome

/-- The value of a field: the stored one, or "absent" for an optional field, or nothing. -/
def field? (t : Tree) (f : Field) : Option Tree :=
  match t with
  | node c fs => (fs.lookup f).orElse fun _ => if c.defaults f then some null else none
  | _ => none

/-- The value of a field, which has to be there. -/
def field (t : Tree) (f : Field) : Except Fault Tree :=
  match t.field? f with
  | some v => .ok v
  | none => .error .absent

/-- The value of a field, "absent" if it is missing. -/
def fieldD (t : Tree) (f : Field) : Tree := (t.field? f).getD null

/-- The elements of a list. -/
def items? : Tree → Option (List Tree)
  | list ts => some ts
  | _ => none

/-- The elements that a loop over the value visits: those of a list, or the characters of a text. -/
def iterate : Tree → Except Fault (List Tree)
  | list ts => .ok ts
  | text t => .ok (t.map fun c => text [c])
  | bytes bs => .ok (bs.map fun b => int b.toNat)
  | _ => .error .mismatch

/-- The text of a text value. -/
def text? : Tree → Option Text
  | text t => some t
  | _ => none

/-- The whole number of a number or truth value. -/
def int? : Tree → Option Int
  | int n => some n
  | bool b => some (if b then 1 else 0)
  | _ => none

/-- Whether the value counts as true: everything but "absent", false, zero and what is empty. -/
def truthy : Tree → Bool
  | null => false
  | bool b => b
  | int n => n != 0
  | real (.finite _ m _) | imaginary (.finite _ m _) => m != 0
  | text t => !t.isEmpty
  | bytes bs => !bs.isEmpty
  | list ts => !ts.isEmpty
  | _ => true

/-- The number `m · 2^q` as a whole number, if it is one. -/
def wholeOf : Binary64 → Option Int
  | .finite negative m q =>
    let s := scaleTwo m 1 q
    if s.1 % s.2 == 0 then some (if negative then -(s.1 / s.2 : Int) else s.1 / s.2) else none
  | _ => none

mutual

/-- Equality of values: numbers are compared as numbers whatever their kind, and no two nodes are equal. -/
def same : Tree → Tree → Bool
  | null, null => true
  | ellipsis, ellipsis => true
  | text s, text t => s == t
  | bytes s, bytes t => s == t
  | imaginary x, imaginary y => x == y
  | list xs, list ys => sameList xs ys
  | real x, real y => x == y || (wholeOf x == some 0 && wholeOf y == some 0)
  | real x, y => y.int?.isSome && wholeOf x == y.int?
  | x, real y => x.int?.isSome && wholeOf y == x.int?
  | x, y => x.int?.isSome && x.int? == y.int?

/-- Equality of lists of values. -/
def sameList : List Tree → List Tree → Bool
  | [], [] => true
  | x :: xs, y :: ys => same x y && sameList xs ys
  | _, _ => false

end

/-- A number as a fraction. -/
def ratio? : Tree → Option (Int × Nat)
  | real x => x.ratio?
  | t => t.int?.map (·, 1)

/-- Whether a value precedes another of its kind: numbers by size, texts and byte strings by their elements. -/
def less (a b : Tree) : Except Fault Bool :=
  match a, b with
  | text s, text t => .ok (!t.le s)
  | bytes s, bytes t => .ok (!Text.le (asText t) (asText s))
  | a, b =>
    match a.ratio?, b.ratio? with
    | some (m, d), some (n, e) => .ok (decide (m * e < n * d))
    | _, _ => .error .mismatch
where
  /-- Bytes as code points. -/
  asText (bs : List UInt8) : Text := bs.map fun b => .scalar (Char.ofNat b.toNat)

end Tree

end CallLint

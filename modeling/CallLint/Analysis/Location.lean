import CallLint.Tree.Basic

/-!
# Locations

The span of a node, with columns from 1 and the end column exclusive. In trees made by the grammar the four numbers are
whole; a tree made by hand may hold a truth value for a line, or any value for its end.
-/

namespace CallLint

open Decimal

/-- A line or column: a whole number, or some other value of a tree. -/
inductive Coord where
  | whole (n : Int)
  | odd (v : Tree)
deriving Inhabited, Repr

namespace Coord

/-- The value of a tree as a coordinate. -/
def ofTree : Tree → Coord
  | .int n => whole n
  | v => odd v

/-- A coordinate as a value of a tree. -/
def toTree : Coord → Tree
  | whole n => .int n
  | odd v => v

/-- The number of a coordinate; truth values count as 0 and 1. -/
def toInt (c : Coord) : Int := c.toTree.int?.getD 0

/-- Equality as values. -/
def same (a b : Coord) : Bool := a.toTree.same b.toTree

/-- A coordinate in a message. -/
def display : Coord → String
  | whole n => toString n
  | odd (.bool b) => if b then "True" else "False"
  | odd (.text t) => t.display
  | odd _ => ""

end Coord

/-- A span of source. -/
structure Location where
  line : Coord
  column : Coord
  endLine : Coord
  endColumn : Coord
deriving Inhabited, Repr

namespace Location

/-- A location with whole numbers. -/
def ofInts (line column endLine endColumn : Int) : Location :=
  ⟨.whole line, .whole column, .whole endLine, .whole endColumn⟩

/-- Equality of all four coordinates. -/
def same (a b : Location) : Bool :=
  a.line.same b.line && a.column.same b.column && a.endLine.same b.endLine && a.endColumn.same b.endColumn

/-- The start of a location in a message. -/
def placeText (l : Location) : String := l.line.display ++ ":" ++ l.column.display

/-- Whether a location starts at or before the start of another. -/
def startLe (a b : Location) : Bool :=
  decide (a.line.toInt < b.line.toInt) || (a.line.toInt == b.line.toInt && decide (a.column.toInt ≤ b.column.toInt))

end Location

namespace Tree

/-- The number one higher. -/
def realSucc : Binary64 → Binary64
  | .finite negative m q =>
    let s := scaleTwo m 1 q
    if negative then
      if s.1 ≤ s.2 then .ofRatio false (s.2 - s.1) s.2 else .ofRatio true (s.1 - s.2) s.2
    else .ofRatio false (s.1 + s.2) s.2
  | x => x

/-- The column from 1 for a column from 0. Of an imaginary number only the imaginary part is kept, which does not change. -/
def nextColumn : Tree → Except Fault Coord
  | int n => .ok (.whole (n + 1))
  | bool b => .ok (.whole (if b then 2 else 1))
  | real x => .ok (.odd (.real (realSucc x)))
  | imaginary x => .ok (.odd (.imaginary x))
  | _ => .error .mismatch

/-- Whether a value is absent. -/
def isNull : Tree → Bool
  | null => true
  | _ => false

/-- The location of a node: nothing without whole numbers for its start; where the end is not given, the end is the
start. -/
def location (t : Tree) : Except Fault (Option Location) :=
  match t.field? .lineno, t.field? .colOffset with
  | some line, some column =>
    if line.int?.isNone || column.int?.isNone then .ok none
    else do
      let endLine := t.fieldD .endLineno
      let endColumn := t.fieldD .endColOffset
      let noEnd := endLine.isNull || endColumn.isNull
      let first ← nextColumn column
      let last ← nextColumn (if noEnd then column else endColumn)
      return some ⟨.ofTree line, first, .ofTree (if noEnd then line else endLine), last⟩
  | _, _ => .ok none

end Tree

end CallLint

import CallLint.Tree.Walk

/-!
# Shapes

The few shapes of nodes that the analysis looks at, and the parts of a call. A constant without a value has no shape.
-/

namespace CallLint

/-- The shapes of values in a tree. -/
inductive Shape where
  | call
  | memberAccess
  | stringLiteral
  | other
deriving DecidableEq, Repr, Inhabited

namespace Shape

/-- Every shape. -/
def all : List Shape := [call, memberAccess, stringLiteral, other]

/-- How a shape is written. -/
def label : Shape → String
  | call => "call"
  | memberAccess => "member_access"
  | stringLiteral => "string_literal"
  | other => "other"

/-- The shape with the given label. -/
def ofLabel? (s : String) : Option Shape := all.find? (·.label == s)

end Shape

namespace Tree

/-- The shape of a value. -/
def shape (t : Tree) : Except Fault Shape :=
  match t.cls? with
  | some .call => .ok .call
  | some .member => .ok .memberAccess
  | some .constant => (t.field .value).map fun v => if v.text?.isSome then .stringLiteral else .other
  | _ => .ok .other

/-- Whether a value is a constant that holds a text. -/
def isStringLiteral (t : Tree) : Except Fault Bool := t.shape.map (· == .stringLiteral)

/-- The callee of a call if it is a member access. -/
def receiver? (call : Tree) : Except Fault (Option Tree) :=
  let func := call.fieldD .func
  func.shape.map fun s => if s == .memberAccess then some func else none

/-- The positional arguments of a call, then the values of its keyword arguments; nothing if one of the two is no
list. -/
def arguments? (call : Tree) : Option (List Tree) :=
  match (call.fieldD .args).items?, (call.fieldD .keywords).items? with
  | some args, some keywords =>
    some (args ++ (keywords.map (·.fieldD .value)).filter fun
      | null => false
      | _ => true)
  | _, _ => none

/-- How many of some arguments are string literals. -/
def countStringLiterals : List Tree → Except Fault Nat
  | [] => .ok 0
  | t :: ts => do
    let literal ← t.isStringLiteral
    let rest ← countStringLiterals ts
    return (if literal then 1 else 0) + rest

end Tree

end CallLint

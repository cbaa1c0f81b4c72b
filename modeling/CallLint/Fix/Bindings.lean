import CallLint.Analysis.Shape

/-!
# Bindings of a module

The names that a module binds anywhere, with the text that a name stands for if all its bindings are top-level
assignments of that one text. In trees made by hand a name may be any value that can be a key.
-/

namespace CallLint.Fix

open CallLint.Tree (Fault Occurrence)

/-- Names with the text they stand for; without a text, a name is bound in some other way or to several texts. -/
abbrev Bindings := List (Tree × Option Text)

namespace Bindings

/-- The text of a name, if the name is bound. -/
def valueOf? (b : Bindings) (name : Tree) : Option (Option Text) := (List.find? (fun e : Tree × Option Text => e.1.same name) b).map (·.2)

/-- Whether a name is bound. -/
def binds (b : Bindings) (name : Tree) : Bool := b.any fun e => e.1.same name

/-- Records a binding of a name that can be a key. -/
def record (b : Bindings) (name : Tree) (value : Option Text) : Bindings :=
  if b.binds name then
    b.map fun (n, v) => if n.same name then (n, if v == value then v else none) else (n, v)
  else b ++ [(name, value)]

/-- Records a binding. A list cannot be a name. -/
def bind (b : Bindings) (name : Tree) (value : Option Text) : Except Fault Bindings :=
  if name.items?.isSome then .error .mismatch else .ok (b.record name value)

end Bindings

/-- The name and text of a top-level assignment of a text to a single name. -/
def constantAssign? (statement : Tree) : Except Fault (Option (Tree × Text)) := do
  if !statement.isA .assign then return none
  match ← (← statement.field .targets).iterate with
  | [target] =>
    if !target.isA .name then return none
    let value ← statement.field .value
    if !(← value.isStringLiteral) then return none
    let id ← target.field .id
    match (← value.field .value).text? with
    | some t => return some (id, t)
    | none => return none
  | _ => return none

/-- Records the top-level assignments of texts among numbered statements, and gives the addresses of their targets. -/
def bindConstants (b : Bindings) : List (Tree × Nat) → Except Fault (Bindings × List (List Nat))
  | [] => .ok (b, [])
  | (statement, i) :: rest => do
    match ← constantAssign? statement with
    | none => bindConstants b rest
    | some (name, value) =>
      let (b, addresses) ← bindConstants (← b.bind name (some value)) rest
      return (b, [0, i] :: addresses)

/-- The part of a text before the first dot. -/
def beforeDot (t : Text) : Text := t.takeWhile (· != .scalar '.')

/-- The name that an import binds: its local name, else the first part of its name. -/
def importedName (t : Tree) : Except Fault Tree := do
  let asname ← t.field .asname
  let name ← if asname.truthy then pure asname else t.field .name
  match name with
  | .text t => return .text (beforeDot t)
  | .bytes _ => .error .mismatch
  | _ => .error .absent

/-- The names that a node binds, other than a name that is assigned. -/
def boundNames (t : Tree) : Except Fault (List Tree) := do
  match t.cls? with
  | some .functionDef | some .asyncFunctionDef | some .classDef => return [← t.field .name]
  | some .arg => return [← t.field .arg]
  | some .alias => return [← importedName t]
  | some .globalStmt | some .nonlocalStmt => (← t.field .names).iterate
  | some .exceptHandler =>
    let name ← t.field .name
    return if name.truthy then [name] else []
  | _ => return []

/-- The names that an occurrence binds; targets at the given addresses have been recorded already. -/
def occurrenceNames (recorded : List (List Nat)) (o : Occurrence) : Except Fault (List Tree) := do
  if o.node.isA .name then
    if (← o.node.field .ctx).isA .load || recorded.contains o.address then return []
    return [← o.node.field .id]
  boundNames o.node

/-- Records the names that occurrences bind. -/
def bindOccurrences (recorded : List (List Nat)) : Bindings → List Occurrence → Except Fault Bindings
  | b, [] => .ok b
  | b, o :: rest => do
    let names ← occurrenceNames recorded o
    let b ← names.foldlM (fun (b : Bindings) name => b.bind name none) b
    bindOccurrences recorded b rest

/-- The bindings of a module: first the constants, then all other names in the order of the walk. -/
def moduleBindings (tree : Tree) : Except Fault Bindings := do
  let occurrences ← tree.occurrences
  let (b, recorded) ← bindConstants [] tree.children.zipIdx
  bindOccurrences recorded b occurrences

/-- Adds a name to a list of different names. -/
def addName (names : List Tree) (name : Tree) : List Tree :=
  if names.any (·.same name) then names else names ++ [name]

/-- The names that are read among some nodes, behind those given. -/
def loadedFrom : List Tree → List Tree → Except Fault (List Tree)
  | names, [] => .ok names
  | names, t :: rest => do
    if !t.isA .name then loadedFrom names rest
    else if !(← t.field .ctx).isA .load then loadedFrom names rest
    else
      let id ← t.field .id
      if id.items?.isSome then .error .mismatch else loadedFrom (addName names id) rest

/-- The names that are read anywhere in a tree. -/
def loadedNames (tree : Tree) : Except Fault (List Tree) := do loadedFrom [] (← tree.walk)

/-- Whether a statement belongs to the header of a module: its docstring or an import. -/
def isHeader (first : Bool) (statement : Tree) : Except Fault Bool := do
  let docstring ← if first && statement.isA .exprStmt then (← statement.field .value).isStringLiteral else pure false
  return docstring || statement.isA .importStmt || statement.isA .importFrom

/-- The last line of the header that some statements start with, `last` if they do not. -/
def headerEndFrom (first : Bool) (last : Tree) : List Tree → Except Fault Tree
  | [] => .ok last
  | statement :: rest => do
    if ← isHeader first statement then headerEndFrom false (← statement.field .endLineno) rest else return last

/-- The last line of the header of a module, zero without one. -/
def headerEnd (tree : Tree) : Except Fault Tree := do
  headerEndFrom true (.int 0) (← (← tree.field .body).iterate)

end CallLint.Fix

import CallLint.Analysis.Analyzer
import CallLint.Fix.Bindings
import CallLint.Fix.ConstantName
import CallLint.Printer.Expr

/-!
# Extracting constants

The fix for a finding: each literal argument of the call becomes the name of a module constant that holds its text,
one that exists above the call or a new one. The fix is declined whenever that could change what the program does.
-/

namespace CallLint.Fix

open CallLint.Tree (Fault Field Occurrence)
open Source

/-- The first call among some occurrences whose member access has a location. -/
def findCallIn (location : Location) : List Occurrence → Except Fault (Option Occurrence)
  | [] => .ok none
  | o :: rest => do
    if (← o.node.shape) != .call then findCallIn location rest
    else match ← o.node.receiver? with
      | none => findCallIn location rest
      | some receiver =>
        match ← receiver.location with
        | some found => if found.same location then return some o else findCallIn location rest
        | none => findCallIn location rest

/-- The first call of a tree, breadth first, whose member access has a location. -/
def findCall (tree : Tree) (location : Location) : Except Fault (Option Occurrence) := do
  findCallIn location (← tree.occurrences)

/-- The first target of an assignment. -/
def firstTarget (statement : Tree) : Except Fault Tree := do
  match ← (← statement.field .targets).iterate with
  | target :: _ => return target
  | [] => .error .outOfRange

/-- The names that statements assign on lines above that of a call. -/
def definedBefore (call : Tree) : List Tree → Except Fault (List Tree)
  | [] => .ok []
  | statement :: rest => do
    if !statement.isA .assign then definedBefore call rest
    else
      let target ← firstTarget statement
      if !target.isA .name then definedBefore call rest
      else if ← (← statement.field .endLineno).less (← call.field .lineno) then
        let id ← target.field .id
        if id.items?.isSome then .error .mismatch else return id :: (← definedBefore call rest)
      else definedBefore call rest

/-- The names that stand for texts and can be read at the call; the last one for a text is used. -/
def reusableName (b : Bindings) (defined : List Tree) (value : Text) : Option Tree :=
  (b.reverse.find? fun (name, v) => v == some value && defined.any (·.same name)).map (·.1)

/-- What a fix knows about the module: its bindings, the names assigned above the call, and all names in use. -/
structure Scope where
  bindings : Bindings
  defined : List Tree
  reserved : List Tree

/-- New constants with their texts, in the order in which they are needed. -/
abbrev Constants := List (List Char × Text)

/-- What becomes of an argument. -/
inductive Resolution where
  /-- It stays. -/
  | keep
  /-- There is no fix. -/
  | decline
  /-- It becomes a name. -/
  | rename (name : Tree) (constants : Constants)

/-- The name for a text that no constant above the call holds. -/
def newConstant (scope : Scope) (constants : Constants) (value : Text) : Resolution :=
  match constantName value with
  | none => .decline
  | some name =>
    let id := Tree.text (Text.ofChars name)
    if scope.reserved.any (·.same id) then .decline
    else match constants.lookup name with
      | some v => if v == value then .rename id constants else .decline
      | none => .rename id (constants ++ [(name, value)])

/-- What becomes of a literal text. A name that counts as false is no name to put in its place. -/
def resolveText (scope : Scope) (constants : Constants) (value : Text) : Resolution :=
  match reusableName scope.bindings scope.defined value with
  | none | some .null => newConstant scope constants value
  | some (.bool false) => .decline
  | some name => if name.truthy then .rename name constants else .keep

/-- What becomes of an argument. -/
def resolve (scope : Scope) (constants : Constants) (argument : Tree) : Except Fault Resolution := do
  if !(← argument.isStringLiteral) then return .keep
  match (← argument.field .value).text? with
  | some value => return resolveText scope constants value
  | none => return .keep

/-- Positions. -/
def isPosition : Field → Bool
  | .lineno | .colOffset | .endLineno | .endColOffset => true
  | _ => false

/-- The name that is read in place of a literal, at its position. -/
def nameInPlace (id literal : Tree) : Tree :=
  let position := match literal with
    | .node _ fs => fs.filter (isPosition ·.1)
    | _ => []
  .node .name ([(.id, id), (.ctx, .node .load [])] ++ position)

/-- Arguments gone through so far: the arguments as they will be, how many of them are new, and the constants they need. -/
structure Extraction where
  arguments : List Tree
  changed : Nat
  constants : Constants

/-- Puts names in place of positional arguments; nothing if the fix is declined. -/
def extractArgs (scope : Scope) (r : Extraction) : List Tree → Except Fault (Option Extraction)
  | [] => .ok (some r)
  | a :: rest => do
    match ← resolve scope r.constants a with
    | .decline => return none
    | .keep => extractArgs scope { r with arguments := r.arguments ++ [a] } rest
    | .rename id constants =>
      extractArgs scope ⟨r.arguments ++ [nameInPlace id a], r.changed + 1, constants⟩ rest

/-- A node with a field changed. -/
def setField (t : Tree) (f : Field) (v : Tree) : Tree :=
  match t with
  | .node c fs => .node c (fs.map fun (g, w) => if g == f then (g, v) else (g, w))
  | t => t

/-- Puts names in place of the values of keyword arguments; nothing if the fix is declined. -/
def extractKeywords (scope : Scope) (r : Extraction) : List Tree → Except Fault (Option Extraction)
  | [] => .ok (some r)
  | item :: rest => do
    let value ← item.field .value
    match ← resolve scope r.constants value with
    | .decline => return none
    | .keep => extractKeywords scope { r with arguments := r.arguments ++ [item] } rest
    | .rename id constants =>
      let item := setField item .value (nameInPlace id value)
      extractKeywords scope ⟨r.arguments ++ [item], r.changed + 1, constants⟩ rest

/-- A list of changed elements in place of a list; any other value stays. -/
def inPlaceOf (old : Tree) (items : List Tree) : Tree :=
  match old with
  | .list _ => .list items
  | old => old

/-- A call with its literal arguments replaced by names, and the constants it needs; nothing if the fix is declined or
no argument is a literal. -/
def extractCall (scope : Scope) (call : Tree) : Except Fault (Option (Tree × Constants)) := do
  let args ← call.field .args
  match ← extractArgs scope ⟨[], 0, []⟩ (← args.iterate) with
  | none => return none
  | some first =>
    let keywords ← call.field .keywords
    match ← extractKeywords scope { first with arguments := [] } (← keywords.iterate) with
    | none => return none
    | some second =>
      if second.changed == 0 then return none
      let call := setField call .args (inPlaceOf args first.arguments)
      return some (setField call .keywords (inPlaceOf keywords second.arguments), second.constants)

/-- The scope of a call in a module; nothing if an import may bind any name. -/
def callScope (tree call : Tree) : Except Fault (Option Scope) := do
  let bindings ← moduleBindings tree
  if bindings.binds (.text (Text.ofString "*")) then return none
  let loaded ← loadedNames tree
  let defined ← definedBefore call (← (← tree.field .body).iterate)
  return some ⟨bindings, defined, bindings.map (·.1) ++ loaded⟩

/-- What the fix is called. -/
def extractTitle : String := "Extract literal strings to module constants"

/-- The source of a changed call, if it can be read again. -/
def readableSource (call : Tree) : Except Fault (Option (List Char)) := do
  match (← call.print).toChars? with
  | none => .error .unwritable
  | some source =>
    match readTree .expression source with
    | .ok _ => return some source
    | .error .malformed => return none
    | .error .nul => .error .unwritable

/-- The fix for a finding in a module. -/
def extract : FixProvider := fun finding tree => do
  if !tree.isA .module then return none
  match ← findCall tree finding.location with
  | none => return none
  | some found =>
    match ← callScope tree found.node with
    | none => return none
    | some scope =>
      match ← extractCall scope found.node with
      | none => return none
      | some (call, constants) =>
        match ← readableSource call with
        | none => return none
        | some source => return some ⟨finding.location, some source, constants, extractTitle⟩

end CallLint.Fix

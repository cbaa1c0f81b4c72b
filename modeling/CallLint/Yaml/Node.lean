import CallLint.Yaml.Kind
import CallLint.Yaml.Token

/-!
# Nodes of a settings text

A document is a graph. Its nodes are numbered in the order in which they begin, and a collection holds the numbers of its parts;
an alias is the number of the node that it names, which may be a collection around it. `Document.ofTokens` reads the one document
that a text may hold.
-/

namespace CallLint.Yaml

/-- A node of a document. -/
inductive Node where
  | scalar (kind : Kind) (text : Text)
  | sequence (kind : Kind) (items : List Nat)
  | mapping (kind : Kind) (entries : List (Nat × Nat))
deriving Inhabited, Repr

/-- A document: its nodes with their numbers in the order in which they end, and the number of the outermost node. -/
structure Document where
  nodes : List (Nat × Node)
  root : Nat
deriving Inhabited, Repr

namespace Node

/-- The kind of a node. -/
def kind : Node → Kind
  | scalar k _ => k
  | sequence k _ => k
  | mapping k _ => k

/-- Whether the node is a mapping. -/
def isMapping : Node → Bool
  | mapping _ _ => true
  | _ => false

/-- The numbers of the parts of a node. -/
def parts : Node → List Nat
  | scalar _ _ => []
  | sequence _ items => items
  | mapping _ entries => entries.flatMap fun e => [e.1, e.2]

/-- The node of a place that is left empty. -/
def empty : Node := scalar .null []

/-- Where the reading of a document stands: the tokens that follow, the tag handles, the numbers that anchors stand for, how
many nodes have begun, and those that have ended, the last one first. -/
structure Reading where
  tokens : List Token
  handles : List (List Char × List Char) := []
  anchors : List (List Char × Nat) := []
  count : Nat := 0
  ended : List (Nat × Node) := []
deriving Inhabited, Repr

/-- A reader of nodes. -/
abbrev Reader := StateT Reading (Except Fault)

namespace Reader

/-- The next token. -/
def peek : Reader (Option Token) := return (← get).tokens.head?

/-- Past the next token. -/
def skip : Reader Unit := modify fun r => { r with tokens := r.tokens.drop 1 }

/-- Fails; at the place where the text could not be cut, with what was wrong there. -/
def refuse {α : Type} : Reader α := do
  match ← peek with
  | some (.fault f) => throw f
  | _ => throw .malformed

/-- Whether the next token is one of those given. -/
def nextIs (ts : List Token) : Reader Bool := do
  match ← peek with
  | some t => return ts.contains t
  | none => return false

/-- Past the token, which has to be there. -/
def expect (t : Token) : Reader Unit := do
  if ← nextIs [t] then skip else refuse

/-- Past the token, if it is there. -/
def accept (t : Token) : Reader Bool := do
  if ← nextIs [t] then
    skip
    return true
  else return false

/-- Numbers the node that begins here; from now on its anchor stands for it. -/
def start (anchor : Option (List Char)) : Reader Nat := do
  let r ← get
  set { r with count := r.count + 1, anchors := (anchor.map ((·, r.count))).toList ++ r.anchors }
  return r.count

/-- Reads a node from its content. -/
def node (anchor : Option (List Char)) (content : Reader Node) : Reader Nat := do
  let i ← start anchor
  let n ← content
  modify fun r => { r with ended := (i, n) :: r.ended }
  return i

/-- A node that is left out. -/
def absent : Reader Nat := node none (pure empty)

end Reader

open Reader

/-- What stands before the content of a node: an anchor and a tag, each at most once. -/
structure Properties where
  anchor : Option (List Char) := none
  tag : Option (List Char) := none
deriving Inhabited, Repr

/-- The tag that a handle and a suffix make. -/
def resolve (handle : Option (List Char)) (suffix : List Char) : Reader (List Char) := do
  match handle with
  | none => return suffix
  | some h =>
    match (← get).handles.lookup h with
    | some meaning => return meaning ++ suffix
    | none => throw .malformed

/-- A tag, if one stands here. -/
def tag? : Reader (Option (Option (List Char) × List Char)) := do
  match ← peek with
  | some (.tag handle suffix) =>
    skip
    return some (handle, suffix)
  | _ => return none

/-- An anchor, if one stands here. -/
def anchor? : Reader (Option (List Char)) := do
  match ← peek with
  | some (.anchor name) =>
    skip
    return some name
  | _ => return none

/-- The properties of a node, in either order. An anchor is not used twice. -/
def properties : Reader Properties := do
  let before ← tag?
  let anchor ← anchor?
  let after ← if before.isNone && anchor.isSome then tag? else pure none
  let tag ← match before.orElse fun _ => after with
    | some (handle, suffix) => some <$> resolve handle suffix
    | none => pure none
  match anchor with
  | some name => if ((← get).anchors.lookup name).isSome then throw .malformed else return { anchor, tag }
  | none => return { anchor, tag }

/-- The kind of a collection. A lone exclamation mark is no tag. -/
def Properties.collectionKind (p : Properties) (usual : Kind) : Kind :=
  match p.tag with
  | none => usual
  | some t => if t == ['!'] then usual else Kind.ofTag t

/-- The kind of a scalar. A lone exclamation mark asks for what a plain scalar would be. -/
def Properties.scalarKind (p : Properties) (isPlain : Bool) (t : Text) : Kind :=
  match p.tag with
  | none => if isPlain then Kind.ofText t else .text
  | some tag => if tag == ['!'] then Kind.ofText t else Kind.ofTag tag

/-- Where a node may stand: in brackets, in a block, or in a block where a sequence needs no indentation of its own. -/
inductive Place where
  | flow
  | block
  | loose
deriving DecidableEq, Repr, Inhabited

/-- Runs a reader of one item until it says that there is none. -/
def gather {α : Type} (item : Reader (Option α)) : Nat → Reader (List α)
  | 0 => refuse
  | fuel + 1 => do
    match ← item with
    | some a => return a :: (← gather item fuel)
    | none => return []

/-- A node, or an empty one if what follows shows that it is left out. -/
def optional (self : Place → Reader Nat) (place : Place) (enders : List Token) : Reader Nat := do
  if ← nextIs enders then absent else self place

/-- An item after a dash, if there is one. -/
def dashItem (self : Place → Reader Nat) (enders : List Token) : Reader (Option Nat) := do
  if ← accept .blockEntry then some <$> optional self .block enders else return none

/-- An entry of a block mapping, if there is one: a key and a value, which may be left out. -/
def blockEntry (self : Place → Reader Nat) : Reader (Option (Nat × Nat)) := do
  let enders := [.key, .value, .blockEnd]
  if ← accept .key then
    let key ← optional self .loose enders
    let value ← if ← accept .value then optional self .loose enders else absent
    return some (key, value)
  else return none

/-- What stands between items in brackets: nothing before the first, a comma before the others. Says whether an item can
follow. -/
def separated (isFirst : Bool) (closer : Token) : Reader Bool := do
  if ← nextIs [closer] then return false
  else
    if isFirst then return true
    else
      expect .flowEntry
      return !(← nextIs [closer])

/-- The value after a key in brackets, which may be left out with its colon. -/
def flowValue (self : Place → Reader Nat) (closer : Token) : Reader Nat := do
  if ← accept .value then optional self .flow [.flowEntry, closer] else absent

/-- An item of a sequence in brackets; a key there makes a mapping of one entry. -/
def flowItem (self : Place → Reader Nat) : Reader Nat := do
  if ← accept .key then
    node none do
      let key ← optional self .flow [.value, .flowEntry, .flowSequenceEnd]
      let value ← flowValue self .flowSequenceEnd
      return mapping .mapping [(key, value)]
  else self .flow

/-- An entry of a mapping in brackets; a node alone is a key without a value. -/
def flowPair (self : Place → Reader Nat) : Reader (Nat × Nat) := do
  if ← accept .key then
    let key ← optional self .flow [.value, .flowEntry, .flowMappingEnd]
    let value ← flowValue self .flowMappingEnd
    return (key, value)
  else return (← self .flow, ← absent)

/-- The items in brackets, up to the closing one. -/
def flowItems {α : Type} (item : Reader α) (closer : Token) : Nat → Bool → Reader (List α)
  | 0, _ => refuse
  | fuel + 1, isFirst => do
    if ← separated isFirst closer then
      let a ← item
      return a :: (← flowItems item closer fuel false)
    else
      expect closer
      return []

/-- A node after its properties. -/
def withProperties (self : Place → Reader Nat) (place : Place) (p : Properties) : Reader Nat := do
  let fuel := (← get).tokens.length + 1
  let sequenceOf (items : List Nat) : Node := sequence (p.collectionKind .sequence) items
  let mappingOf (entries : List (Nat × Nat)) : Node := mapping (p.collectionKind .mapping) entries
  match ← peek with
  | some .blockEntry =>
    if place == .loose then
      node p.anchor (sequenceOf <$> gather (dashItem self [.blockEntry, .key, .value, .blockEnd]) fuel)
    else bare
  | some (.scalar t isPlain) =>
    skip
    node p.anchor (pure (scalar (p.scalarKind isPlain t) t))
  | some .flowSequence =>
    skip
    node p.anchor (sequenceOf <$> flowItems (flowItem self) .flowSequenceEnd fuel true)
  | some .flowMapping =>
    skip
    node p.anchor (mappingOf <$> flowItems (flowPair self) .flowMappingEnd fuel true)
  | some .blockSequence =>
    if place == .flow then bare
    else
      skip
      node p.anchor do
        let items ← gather (dashItem self [.blockEntry, .blockEnd]) fuel
        expect .blockEnd
        return sequenceOf items
  | some .blockMapping =>
    if place == .flow then bare
    else
      skip
      node p.anchor do
        let entries ← gather (blockEntry self) fuel
        expect .blockEnd
        return mappingOf entries
  | _ => bare
where
  /-- A node without content has to have properties. -/
  bare : Reader Nat := do
    if p.anchor.isNone && p.tag.isNone then refuse
    else node p.anchor (pure (scalar (p.scalarKind true []) []))

/-- A node; `fuel` bounds how deep nodes stand in each other. -/
def read : Nat → Place → Reader Nat
  | 0, _ => throw .malformed
  | fuel + 1, place => do
    match ← peek with
    | some (.alias name) =>
      match (← get).anchors.lookup name with
      | some i =>
        skip
        return i
      | none => throw .malformed
    | _ => withProperties (read fuel) place (← properties)

/-- The tag handles that need no directive. -/
def usualHandles : List (List Char × List Char) := [(['!'], ['!']), (['!', '!'], Kind.tagSpace)]

/-- The directives before a document: at most one version, which is 1, and each handle at most once. -/
def directives : Nat → Bool → Reader Unit
  | 0, _ => refuse
  | fuel + 1, versioned => do
    match ← peek with
    | some (.directive d) =>
      skip
      match d with
      | .version major _ =>
        if versioned || major != 1 then throw .malformed else directives fuel true
      | .shorthand mark meaning =>
        let r ← get
        if (r.handles.lookup mark).isSome then throw .malformed
        else
          set { r with handles := (mark, meaning) :: r.handles }
          directives fuel versioned
      | .other => directives fuel versioned
    | _ => modify fun r => { r with handles := r.handles ++ usualHandles }

/-- Whether the next token begins or ends a document, or there is none. -/
def atBoundary : Reader Bool := do
  match ← peek with
  | none | some (.directive _) | some .documentStart | some .documentEnd => return true
  | _ => return false

/-- The outermost node of the document of a text, if it has one. A second document is refused. -/
def document : Reader (Option Nat) := do
  let fuel := (← get).tokens.length + 1
  match ← peek with
  | none => return none
  | some (.directive _) | some .documentStart =>
    directives fuel false
    expect .documentStart
    finish fuel (← if ← atBoundary then absent else read fuel .block)
  | _ =>
    modify fun r => { r with handles := usualHandles }
    finish fuel (← read fuel .block)
where
  /-- After the document there are only marks of its end. -/
  finish (fuel i : Nat) : Reader (Option Nat) := do
    let _ ← gather (do if ← accept .documentEnd then return some () else return none) fuel
    match ← peek with
    | none => return some i
    | some _ => refuse

end Node

/-- The document of the tokens, if there is one. -/
def Document.ofTokens (ts : List Token) : Except Fault (Option Document) := do
  let (root, r) ← Node.document.run { tokens := ts }
  return root.map fun i => ⟨r.ended.reverse, i⟩

end CallLint.Yaml

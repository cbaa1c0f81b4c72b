import CallLint.Printer.Literal
import CallLint.Printer.Precedence

/-!
# Printing expressions

The source text of an expression tree, with as few parentheses as the precedence of its operators allows. As in the
grammar, each rule takes the writer of inner trees as `self`, and `writeTree` ties them together with fuel.
-/

namespace CallLint.Printer

open CallLint.Tree (Fault NodeClass Field)

/-- Text in pieces; a piece is missing where a name is no text. -/
abbrev Pieces := List (Option Text)

namespace Pieces

/-- One piece. -/
def ofString (s : String) : Pieces := [some (Text.ofString s)]

/-- One piece. -/
def ofChars (cs : List Char) : Pieces := [some (Text.ofChars cs)]

/-- One piece, which has to be a text. -/
def ofTree (t : Tree) : Pieces := [t.text?]

/-- The text of all pieces. -/
def join (ps : Pieces) : Except Fault Text :=
  match ps.mapM id with
  | some ts => .ok ts.flatten
  | none => .error .mismatch

end Pieces

/-- What is written: an expression at a place, with or without backslashes in its literals, or a part of a format
string. -/
inductive Task where
  | expr (avoid : Bool) (place : Precedence)
  | part

/-- Writes a tree. -/
abbrev Writer := Task → Tree → Except Fault Pieces

section Rules

variable (self : Writer) (avoid : Bool)

/-- An inner expression. -/
def inner (place : Precedence) (t : Tree) : Except Fault Pieces := self (.expr avoid place) t

/-- Fails on a list, to which no place can be assigned. -/
def requirePlace (t : Tree) : Except Fault Unit := if t.items?.isSome then .error .mismatch else .ok ()

/-- An inner expression at a place other than the usual one. -/
def innerAt (place : Precedence) (t : Tree) : Except Fault Pieces := do
  requirePlace t
  inner self avoid place t

/-- Pieces between two others. -/
def delimited (left right : String) (ps : Pieces) : Pieces := Pieces.ofString left ++ ps ++ Pieces.ofString right

/-- Pieces in parentheses, if asked for. -/
def parenthesizedIf (b : Bool) (ps : Pieces) : Pieces := if b then delimited "(" ")" ps else ps

/-- Writes trees with a separator between. -/
def separated (separator : String) (write : Tree → Except Fault Pieces) : List Tree → Except Fault Pieces
  | [] => .ok []
  | [t] => write t
  | t :: ts => do
    let first ← write t
    let rest ← separated separator write ts
    return first ++ Pieces.ofString separator ++ rest

/-- Writes trees one behind the other. -/
def consecutive (write : Tree → Except Fault Pieces) : List Tree → Except Fault Pieces
  | [] => .ok []
  | t :: ts => do
    let first ← write t
    return first ++ (← consecutive write ts)

/-- The number of elements of a list, text or byte string. -/
def elementCount (t : Tree) : Except Fault Nat := t.iterate.map List.length

/-- The elements of a tuple; a single one has a comma. -/
def tupleItems (t : Tree) : Except Fault Pieces := do
  match ← t.iterate with
  | [item] => return (← inner self avoid .test item) ++ Pieces.ofString ","
  | items => separated ", " (inner self avoid .test) items

/-- Spellings of connectives. -/
def connective? : NodeClass → Option (String × Precedence)
  | .andOp => some ("and", .and)
  | .orOp => some ("or", .or)
  | _ => none

/-- Spellings of signs; those of the tightest level stand directly before the operand. -/
def sign? : NodeClass → Option (String × Precedence)
  | .invertOp => some ("~", .factor)
  | .notOp => some ("not ", .not)
  | .uAddOp => some ("+", .factor)
  | .uSubOp => some ("-", .factor)
  | _ => none

/-- Spellings of binary operators. -/
def operator? : NodeClass → Option (String × Precedence)
  | .addOp => some ("+", .arith)
  | .subOp => some ("-", .arith)
  | .multOp => some ("*", .term)
  | .matMultOp => some ("@", .term)
  | .divOp => some ("/", .term)
  | .modOp => some ("%", .term)
  | .lShiftOp => some ("<<", .shift)
  | .rShiftOp => some (">>", .shift)
  | .bitOrOp => some ("|", .bitOr)
  | .bitXorOp => some ("^", .bitXor)
  | .bitAndOp => some ("&", .bitAnd)
  | .floorDivOp => some ("//", .term)
  | .powOp => some ("**", .power)
  | _ => none

/-- Spellings of comparisons. -/
def comparison? : NodeClass → Option String
  | .eqOp => some "=="
  | .notEqOp => some "!="
  | .ltOp => some "<"
  | .ltEOp => some "<="
  | .gtOp => some ">"
  | .gtEOp => some ">="
  | .isOp => some "is"
  | .isNotOp => some "is not"
  | .inOp => some "in"
  | .notInOp => some "not in"
  | _ => none

/-- The spelling of an operator node. -/
def spelling {α : Type} (table : NodeClass → Option α) (op : Tree) : Except Fault α :=
  match op.cls?.bind table with
  | some a => .ok a
  | none => .error .noOperator

/-- A chain of one connective; each operand binds tighter than the one before. -/
def writeBoolOp (place : Precedence) (t : Tree) : Except Fault Pieces := do
  let (word, own) ← spelling connective? (← t.field .op)
  let values ← (← t.field .values).iterate
  let rec go (level : Precedence) : List Tree → Except Fault Pieces
    | [] => .ok []
    | v :: vs => do
      let first ← innerAt self avoid level.next v
      if vs.isEmpty then return first
      return first ++ Pieces.ofString (" " ++ word ++ " ") ++ (← go level.next vs)
  return parenthesizedIf (place.encloses own) (← go own values)

/-- An assignment by `:=`. -/
def writeNamed (place : Precedence) (t : Tree) : Except Fault Pieces := do
  let target ← t.field .target
  let value ← t.field .value
  requirePlace target
  requirePlace value
  let left ← inner self avoid .atom target
  let right ← inner self avoid .atom value
  return parenthesizedIf (place.encloses .named) (left ++ Pieces.ofString " := " ++ right)

/-- A binary operation. Powers group to the right. -/
def writeBinOp (place : Precedence) (t : Tree) : Except Fault Pieces := do
  let (word, own) ← spelling operator? (← t.field .op)
  let left ← innerAt self avoid (if own == .power then own.next else own) (← t.field .left)
  let right ← innerAt self avoid (if own == .power then own else own.next) (← t.field .right)
  return parenthesizedIf (place.encloses own) (left ++ Pieces.ofString (" " ++ word ++ " ") ++ right)

/-- A signed operand or a negation. -/
def writeUnaryOp (place : Precedence) (t : Tree) : Except Fault Pieces := do
  let (word, own) ← spelling sign? (← t.field .op)
  let operand ← innerAt self avoid own (← t.field .operand)
  return parenthesizedIf (place.encloses own) (Pieces.ofString word ++ operand)

/-- A chain of comparisons. -/
def writeCompare (place : Precedence) (t : Tree) : Except Fault Pieces := do
  let left ← t.field .left
  let comparators ← (← t.field .comparators).iterate
  requirePlace left
  comparators.forM requirePlace
  let first ← inner self avoid (Precedence.compare).next left
  let ops ← (← t.field .ops).iterate
  let links ← (ops.zip comparators).mapM fun (op, e) => do
    let word ← spelling comparison? op
    return Pieces.ofString (" " ++ word ++ " ") ++ (← inner self avoid (Precedence.compare).next e)
  return parenthesizedIf (place.encloses .compare) (first ++ links.flatten)

/-- A conditional expression. -/
def writeIfExp (place : Precedence) (t : Tree) : Except Fault Pieces := do
  let body ← t.field .body
  let test ← t.field .test
  requirePlace body
  requirePlace test
  let body ← inner self avoid (Precedence.test).next body
  let test ← inner self avoid (Precedence.test).next test
  let orelse ← innerAt self avoid .test (← t.field .orelse)
  return parenthesizedIf (place.encloses .test)
    (body ++ Pieces.ofString " if " ++ test ++ Pieces.ofString " else " ++ orelse)

/-- An annotation behind its colon, if there is one. -/
def writeAnnot (t : Tree) : Except Fault Pieces := do
  let annot ← t.field .annot
  if annot.truthy then return Pieces.ofString ": " ++ (← inner self avoid .test annot)
  return []

/-- A parameter. -/
def writeParam (t : Tree) : Except Fault Pieces := do
  let id ← t.field .arg
  return Pieces.ofTree id ++ (← writeAnnot self avoid t)

/-- A parameter with its default. -/
def writeDefaulted (p default : Tree) : Except Fault Pieces := do
  let first ← inner self avoid .test p
  if default.truthy then return first ++ Pieces.ofString "=" ++ (← inner self avoid .test default)
  return first

/-- The elements of two lists, or of two texts, one behind the other. -/
def appended (a b : Tree) : Except Fault (List Tree) :=
  match a, b with
  | .list xs, .list ys => .ok (xs ++ ys)
  | .text s, .text t => (Tree.text (s ++ t)).iterate
  | .bytes s, .bytes t => (Tree.bytes (s ++ t)).iterate
  | _, _ => .error .mismatch

/-- The parameters that have a place, with their defaults; a slash ends those without a name. -/
def positionalItems (t : Tree) : Except Fault (List Pieces) := do
  let posonly ← t.field .posonlyargs
  let all ← appended posonly (← t.field .args)
  let defaults ← match ← t.field .defaults with
    | .list ds => pure ds
    | _ => .error .mismatch
  let padded := List.replicate (all.length - defaults.length) Tree.null ++ defaults
  let slash ← elementCount posonly
  (all.zip padded).zipIdx.mapM fun ((p, d), i) => do
    let item ← writeDefaulted self avoid p d
    return if i + 1 == slash then item ++ Pieces.ofString ", /" else item

/-- The starred parameter, or a bare star before those that have only a name. -/
def starItems (t : Tree) : Except Fault (List Pieces) := do
  let vararg ← t.field .vararg
  let kwonly ← t.field .kwonlyargs
  if vararg.truthy then
    let id ← vararg.field .arg
    return [Pieces.ofString "*" ++ Pieces.ofTree id ++ (← writeAnnot self avoid vararg)]
  return if kwonly.truthy then [Pieces.ofString "*"] else []

/-- The parameters that have only a name, with their defaults. -/
def keywordOnlyItems (t : Tree) : Except Fault (List Pieces) := do
  let kwonly ← t.field .kwonlyargs
  if !kwonly.truthy then return []
  let names ← kwonly.iterate
  let kwDefaults ← (← t.field .kwDefaults).iterate
  (names.zip kwDefaults).mapM fun (p, d) => writeDefaulted self avoid p d

/-- The double-starred parameter. -/
def doubleStarItems (t : Tree) : Except Fault (List Pieces) := do
  let kwarg ← t.field .kwarg
  if !kwarg.truthy then return []
  match (← kwarg.field .arg).text? with
  | some id => return [[some (Text.ofString "**" ++ id)] ++ (← writeAnnot self avoid kwarg)]
  | none => .error .mismatch

/-- The items of a parameter list, without the commas between. -/
def paramItems (t : Tree) : Except Fault (List Pieces) := do
  let positional ← positionalItems self avoid t
  let star ← starItems self avoid t
  let keywordOnly ← keywordOnlyItems self avoid t
  return positional ++ star ++ keywordOnly ++ (← doubleStarItems self avoid t)

/-- Parameters. -/
def writeParams (t : Tree) : Except Fault Pieces := do
  let items ← paramItems self avoid t
  return (items.intersperse (Pieces.ofString ", ")).flatten

/-- An anonymous function. -/
def writeLambda (place : Precedence) (t : Tree) : Except Fault Pieces := do
  let ps ← inner self avoid .test (← t.field .args)
  let ps := if ps.isEmpty then [] else Pieces.ofString " " ++ ps
  let body ← innerAt self avoid .test (← t.field .body)
  return parenthesizedIf (place.encloses .test) (Pieces.ofString "lambda" ++ ps ++ Pieces.ofString ": " ++ body)

/-- A dictionary. -/
def writeDict (t : Tree) : Except Fault Pieces := do
  let keys ← (← t.field .keys).iterate
  let values ← (← t.field .values).iterate
  let items ← (keys.zip values).mapM fun (k, v) => do
    match k with
    | .null => return Pieces.ofString "**" ++ (← innerAt self avoid .bitOr v)
    | k =>
      let key ← inner self avoid .test k
      return key ++ Pieces.ofString ": " ++ (← inner self avoid .test v)
  return delimited "\x7b" "\x7d" (items.intersperse (Pieces.ofString ", ")).flatten

/-- A set; an empty one has no display of its own. -/
def writeSet (t : Tree) : Except Fault Pieces := do
  let elts ← t.field .elts
  if !elts.truthy then return Pieces.ofString "\x7b*()\x7d"
  return delimited "\x7b" "\x7d" (← separated ", " (inner self avoid .test) (← elts.iterate))

/-- The `for` clauses of a comprehension. -/
def writeClauses (t : Tree) : Except Fault Pieces := do
  consecutive (inner self avoid .test) (← (← t.field .generators).iterate)

/-- A comprehension with one element. -/
def writeComp (left right : String) (t : Tree) : Except Fault Pieces := do
  let elt ← inner self avoid .test (← t.field .elt)
  return delimited left right (elt ++ (← writeClauses self avoid t))

/-- A comprehension with a key and a value. -/
def writeDictComp (t : Tree) : Except Fault Pieces := do
  let key ← inner self avoid .test (← t.field .key)
  let value ← inner self avoid .test (← t.field .value)
  return delimited "\x7b" "\x7d" (key ++ Pieces.ofString ": " ++ value ++ (← writeClauses self avoid t))

/-- One `for` clause. -/
def writeClause (t : Tree) : Except Fault Pieces := do
  let opening := if (← t.field .isAsync).truthy then " async for " else " for "
  let target ← innerAt self avoid .tuple (← t.field .target)
  let iter ← t.field .iter
  let ifs ← (← t.field .ifs).iterate
  requirePlace iter
  ifs.forM requirePlace
  let iter ← inner self avoid (Precedence.test).next iter
  let conditions ← ifs.mapM fun e => do
    return Pieces.ofString " if " ++ (← inner self avoid (Precedence.test).next e)
  return Pieces.ofString opening ++ target ++ Pieces.ofString " in " ++ iter ++ conditions.flatten

/-- An `await` or `yield` expression. -/
def writeKeyword (word : String) (own place : Precedence) (t : Tree) : Except Fault Pieces := do
  let value ← t.field .value
  let operand ← if value.truthy then do
      pure (Pieces.ofString " " ++ (← innerAt self avoid .atom value))
    else pure []
  return parenthesizedIf (place.encloses own) (Pieces.ofString word ++ operand)

/-- A `yield from` expression. -/
def writeYieldFrom (place : Precedence) (t : Tree) : Except Fault Pieces := do
  let value ← t.field .value
  if !value.truthy then .error .unwritable
  else
    let operand ← innerAt self avoid .atom value
    return parenthesizedIf (place.encloses .yield) (Pieces.ofString "yield from " ++ operand)

/-- A call. -/
def writeCall (t : Tree) : Except Fault Pieces := do
  let func ← innerAt self avoid .atom (← t.field .func)
  let args ← (← (← t.field .args).iterate).mapM (inner self avoid .test)
  let keywords ← (← (← t.field .keywords).iterate).mapM (inner self avoid .test)
  return func ++ delimited "(" ")" ((args ++ keywords).intersperse (Pieces.ofString ", ")).flatten

/-- A keyword argument. -/
def writeKeywordArg (t : Tree) : Except Fault Pieces := do
  let opening := match ← t.field .arg with
    | .null => Pieces.ofString "**"
    | id => Pieces.ofTree id ++ Pieces.ofString "="
  return opening ++ (← inner self avoid .test (← t.field .value))

/-- A member access. A whole number needs a blank before the dot. -/
def writeMember (t : Tree) : Except Fault Pieces := do
  let value ← t.field .value
  let left ← innerAt self avoid .atom value
  let isWhole ← if value.isA .constant then do pure (← value.field .value).int?.isSome else pure false
  let attr ← t.field .attr
  return left ++ Pieces.ofString (if isWhole then " ." else ".") ++ Pieces.ofTree attr

/-- A subscript. A tuple that is not empty needs no parentheses. -/
def writeSubscript (t : Tree) : Except Fault Pieces := do
  let value ← innerAt self avoid .atom (← t.field .value)
  let index ← t.field .slice
  let bare ← if index.isA .tuple then do pure (← index.field .elts).truthy else pure false
  let index ← if bare then do tupleItems self avoid (← index.field .elts) else inner self avoid .test index
  return value ++ delimited "[" "]" index

/-- A bound of a slice, if there is one. -/
def writeBound (opening : String) (t : Tree) : Except Fault Pieces := do
  if t.truthy then return Pieces.ofString opening ++ (← inner self avoid .test t)
  return []

/-- A slice. -/
def writeSlice (t : Tree) : Except Fault Pieces := do
  let lower ← writeBound self avoid "" (← t.field .lower)
  let upper ← writeBound self avoid "" (← t.field .upper)
  let step ← writeBound self avoid ":" (← t.field .step)
  return lower ++ Pieces.ofString ":" ++ upper ++ step

/-- A constant. -/
def writeConstantNode (t : Tree) : Except Fault Pieces := do
  match ← t.field .value with
  | .ellipsis => return Pieces.ofString "..."
  | v =>
    let isUnicode := (← t.field .kind).same (.text (Text.ofString "u"))
    let body ← writeConstant avoid v
    return (if isUnicode then Pieces.ofString "u" else []) ++ Pieces.ofChars body

/-- The character of a conversion. -/
def conversionText (v : Tree) : Except Fault Text :=
  match v.int? with
  | none => .error .mismatch
  | some n =>
    match if n < 0 then none else CodePoint.ofNat? n.toNat with
    | some c => .ok [.scalar '!', c]
    | none => .error .unwritable

/-- The conversion of a field of a format string, if it has one. -/
def writeConversion (t : Tree) : Except Fault Pieces := do
  let conversion ← t.field .conversion
  if conversion.same (.int (-1)) then return []
  return [some (← conversionText conversion)]

/-- The format specification of a field of a format string, if it has one. -/
def writeFormatSpec (t : Tree) : Except Fault Pieces := do
  let spec ← t.field .formatSpec
  if spec.truthy then return Pieces.ofString ":" ++ (← self .part spec)
  return []

/-- A field of a format string. Its expression has to do without backslashes. -/
def writeField (t : Tree) : Except Fault Pieces := do
  let value ← t.field .value
  requirePlace value
  let e ← (← self (.expr true (Precedence.test).next) value).join
  if e.contains (.scalar '\\') then .error .unwritable
  else
    let blank := if e.head? == some (.scalar '\x7b') then Pieces.ofString " " else []
    let conversion ← writeConversion t
    let spec ← writeFormatSpec self t
    return delimited "\x7b" "\x7d" (blank ++ [some e] ++ conversion ++ spec)

/-- A text with its braces doubled. -/
def doubleBraces (t : Text) : Text :=
  t.flatMap fun c => if c == .scalar '\x7b' || c == .scalar '\x7d' then [c, c] else [c]

/-- A part of a format string: literal text, a field, or such parts joined. -/
def writePart (t : Tree) : Except Fault Pieces := do
  match t.cls? with
  | some .joinedStr => consecutive (self .part) (← (← t.field .values).iterate)
  | some .constant =>
    match ← t.field .value with
    | .text v => return [some (doubleBraces v)]
    | _ => .error .unwritable
  | some .formattedValue => writeField self t
  | _ => .error .unwritable

/-- Narrows the quotes down to those that fit every part; literal parts may escape line breaks. -/
def fitParts : List Quote → List (Text × Bool) → List Char × List Quote
  | quotes, [] => ([], quotes)
  | quotes, (t, isLiteral) :: ps =>
    let (body, quotes) := fitQuotes isLiteral quotes t
    let (rest, quotes) := fitParts quotes ps
    (body ++ rest, quotes)

/-- A format string. -/
def writeJoined (t : Tree) : Except Fault Pieces := do
  if avoid then
    let body ← (← self .part t).join
    return Pieces.ofString "f" ++ Pieces.ofChars (avoidingBackslashes body)
  let values ← (← t.field .values).iterate
  let parts ← values.mapM fun v => do return (← (← self .part v).join, v.isA .constant)
  let (body, quotes) := fitParts allQuotes parts
  return Pieces.ofString "f" ++ Pieces.ofChars (enclose body quotes)

/-- A node. Contexts and operators alone leave no text; statements cannot be written. -/
def writeNode (place : Precedence) (t : Tree) : Except Fault Pieces := do
  match t.cls? with
  | none => .error .absent
  | some c =>
    match c with
    | .name => return Pieces.ofTree (← t.field .id)
    | .member => writeMember self avoid t
    | .call => writeCall self avoid t
    | .keyword => writeKeywordArg self avoid t
    | .constant => writeConstantNode avoid t
    | .starred => return Pieces.ofString "*" ++ (← innerAt self avoid .bitOr (← t.field .value))
    | .subscript => writeSubscript self avoid t
    | .slice => writeSlice self avoid t
    | .list => return delimited "[" "]" (← separated ", " (inner self avoid .test) (← (← t.field .elts).iterate))
    | .tuple =>
      let elts ← t.field .elts
      let enclosed := (← elementCount elts) == 0 || place.encloses .tuple
      return parenthesizedIf enclosed (← tupleItems self avoid elts)
    | .set => writeSet self avoid t
    | .dict => writeDict self avoid t
    | .listComp => writeComp self avoid "[" "]" t
    | .setComp => writeComp self avoid "\x7b" "\x7d" t
    | .generatorExp => writeComp self avoid "(" ")" t
    | .dictComp => writeDictComp self avoid t
    | .comprehension => writeClause self avoid t
    | .boolOp => writeBoolOp self avoid place t
    | .namedExpr => writeNamed self avoid place t
    | .binOp => writeBinOp self avoid place t
    | .unaryOp => writeUnaryOp self avoid place t
    | .compare => writeCompare self avoid place t
    | .ifExp => writeIfExp self avoid place t
    | .lambda => writeLambda self avoid place t
    | .arguments => writeParams self avoid t
    | .arg => writeParam self avoid t
    | .await => writeKeyword self avoid "await" .await place t
    | .yield => writeKeyword self avoid "yield" .yield place t
    | .yieldFrom => writeYieldFrom self avoid place t
    | .joinedStr => writeJoined self avoid t
    | .formattedValue => writeField self t
    | c => if c.positioned || !c.fields.isEmpty then .error .unwritable else .ok []

end Rules

/-- Writes trees that go at most `fuel` deep. A list is written as its elements one behind the other. -/
def writeTree : Nat → Writer
  | 0, _, _ => .error .mismatch
  | fuel + 1, .part, t => writePart (writeTree fuel) t
  | fuel + 1, .expr avoid place, t =>
    match t with
    | .list ts => consecutive (writeTree fuel (.expr avoid .test)) ts
    | t => writeNode (writeTree fuel) avoid place t

end CallLint.Printer

namespace CallLint.Tree

mutual

/-- The number of values in a tree. -/
def size : Tree → Nat
  | node _ fs => fieldsSize fs + 1
  | list ts => listSize ts + 1
  | _ => 1

/-- The number of values in fields. -/
def fieldsSize : List (Field × Tree) → Nat
  | [] => 0
  | (_, t) :: fs => size t + fieldsSize fs

/-- The number of values in a list. -/
def listSize : List Tree → Nat
  | [] => 0
  | t :: ts => size t + listSize ts

end

/-- The source text of an expression. No tree is deeper than it is large. -/
def print (t : Tree) : Except Fault Text := do
  (← Printer.writeTree (2 * t.size + 2) (.expr false .test) t).join

end CallLint.Tree

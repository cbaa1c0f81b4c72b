import CallLint.Decimal.Binary64
import CallLint.Text.CodePoint

/-!
# Abstract syntax of a module

The shapes that the grammar of Python modules produces, each with the span of source it came from. Names are stored in
their normal form; adjacent string literals are one constant.
-/

namespace CallLint.Source

open Decimal

/-- A place in the source: line from 1, column in bytes from 0. -/
structure Pos where
  line : Nat
  column : Nat
deriving DecidableEq, Repr, Inhabited

/-- A half-open stretch of source. -/
structure Span where
  start : Pos
  stop : Pos
deriving DecidableEq, Repr, Inhabited

/-- Whether a target-like expression is read, assigned or deleted. -/
inductive Context where
  | load | store | del
deriving DecidableEq, Repr, Inhabited

/-- Connectives. -/
inductive BoolOp where
  | and | or
deriving DecidableEq, Repr, Inhabited

/-- Binary operators. -/
inductive BinOp where
  | add | sub | mult | matMult | div | mod | pow | lShift | rShift | bitOr | bitXor | bitAnd | floorDiv
deriving DecidableEq, Repr, Inhabited

/-- Unary operators. -/
inductive UnaryOp where
  | invert | not | plus | minus
deriving DecidableEq, Repr, Inhabited

/-- Comparison operators. -/
inductive CompareOp where
  | eq | notEq | lt | ltE | gt | gtE | is | isNot | contained | notContained
deriving DecidableEq, Repr, Inhabited

/-- The value of a constant. -/
inductive Literal where
  | none
  | bool (b : Bool)
  | ellipsis
  | int (n : Nat)
  | real (x : Binary64)
  | imaginary (x : Binary64)
  | text (t : Text)
  | bytes (bs : List UInt8)
deriving DecidableEq, Repr, Inhabited

mutual

/-- Expressions. -/
inductive Expr where
  | boolOp (span : Span) (op : BoolOp) (values : List Expr)
  | named (span : Span) (target value : Expr)
  | binOp (span : Span) (left : Expr) (op : BinOp) (right : Expr)
  | unaryOp (span : Span) (op : UnaryOp) (operand : Expr)
  | lambda (span : Span) (params : Params) (body : Expr)
  | ifExp (span : Span) (test body orelse : Expr)
  | dict (span : Span) (keys : List (Option Expr)) (values : List Expr)
  | set (span : Span) (elts : List Expr)
  | listComp (span : Span) (elt : Expr) (generators : List Comprehension)
  | setComp (span : Span) (elt : Expr) (generators : List Comprehension)
  | dictComp (span : Span) (key value : Expr) (generators : List Comprehension)
  | generator (span : Span) (elt : Expr) (generators : List Comprehension)
  | await (span : Span) (value : Expr)
  | yield (span : Span) (value : Option Expr)
  | yieldFrom (span : Span) (value : Expr)
  | compare (span : Span) (left : Expr) (ops : List CompareOp) (comparators : List Expr)
  | call (span : Span) (func : Expr) (args : List Expr) (keywords : List Keyword)
  | formatted (span : Span) (value : Expr) (conversion : Int) (spec : Option Expr)
  | joined (span : Span) (values : List Expr)
  | constant (span : Span) (value : Literal) (unicode : Bool)
  | member (span : Span) (value : Expr) (attr : Text) (ctx : Context)
  | subscript (span : Span) (value index : Expr) (ctx : Context)
  | starred (span : Span) (value : Expr) (ctx : Context)
  | name (span : Span) (id : Text) (ctx : Context)
  | list (span : Span) (elts : List Expr) (ctx : Context)
  | tuple (span : Span) (elts : List Expr) (ctx : Context)
  | slice (span : Span) (lower upper step : Option Expr)

/-- Keyword arguments; without a name, an unpacked mapping. -/
inductive Keyword where
  | mk (span : Span) (arg : Option Text) (value : Expr)

/-- One `for` clause of a comprehension with its conditions. -/
inductive Comprehension where
  | mk (target iter : Expr) (ifs : List Expr) (isAsync : Bool)

/-- Parameters. -/
inductive Param where
  | mk (span : Span) (name : Text) (annot : Option Expr)

/-- The parameters of a function: positional-only, ordinary, starred, keyword-only with their defaults, double
starred; `defaults` belong to the last of the first two kinds. -/
inductive Params where
  | mk (posonly args : List Param) (vararg : Option Param) (kwonly : List Param) (kwDefaults : List (Option Expr))
      (kwarg : Option Param) (defaults : List Expr)

end

instance : Inhabited Expr := ⟨.name default [] .load⟩

/-- Patterns of a `match` statement. -/
inductive Pattern where
  | value (span : Span) (value : Expr)
  | singleton (span : Span) (value : Literal)
  | sequence (span : Span) (patterns : List Pattern)
  | mapping (span : Span) (keys : List Expr) (patterns : List Pattern) (rest : Option Text)
  | ofClass (span : Span) (cls : Expr) (patterns : List Pattern) (attrs : List Text) (attrPatterns : List Pattern)
  | star (span : Span) (name : Option Text)
  | alias (span : Span) (pattern : Option Pattern) (name : Option Text)
  | either (span : Span) (patterns : List Pattern)
deriving Inhabited

/-- A name in an import, with its local name. -/
structure Alias where
  span : Span
  name : Text
  asname : Option Text
deriving Inhabited

/-- One context manager of a `with` statement. -/
structure WithItem where
  context : Expr
  target : Option Expr
deriving Inhabited

mutual

/-- Statements. -/
inductive Stmt where
  | functionDef (span : Span) (isAsync : Bool) (name : Text) (params : Params) (body : List Stmt)
      (decorators : List Expr) (returns : Option Expr)
  | classDef (span : Span) (name : Text) (bases : List Expr) (keywords : List Keyword) (body : List Stmt)
      (decorators : List Expr)
  | returnStmt (span : Span) (value : Option Expr)
  | delete (span : Span) (targets : List Expr)
  | assign (span : Span) (target : Expr) (further : List Expr) (value : Expr)
  | augAssign (span : Span) (target : Expr) (op : BinOp) (value : Expr)
  | annAssign (span : Span) (target annot : Expr) (value : Option Expr) (simple : Bool)
  | forStmt (span : Span) (isAsync : Bool) (target iter : Expr) (body orelse : List Stmt)
  | whileStmt (span : Span) (test : Expr) (body orelse : List Stmt)
  | ifStmt (span : Span) (test : Expr) (body orelse : List Stmt)
  | withStmt (span : Span) (isAsync : Bool) (items : List WithItem) (body : List Stmt)
  | matchStmt (span : Span) (subject : Expr) (cases : List Case)
  | raiseStmt (span : Span) (exc cause : Option Expr)
  | tryStmt (span : Span) (star : Bool) (body : List Stmt) (handlers : List Handler) (orelse finalbody : List Stmt)
  | assertStmt (span : Span) (test : Expr) (msg : Option Expr)
  | importStmt (span : Span) (names : List Alias)
  | importFrom (span : Span) (source : Option Text) (names : List Alias) (level : Nat)
  | globalStmt (span : Span) (names : List Text)
  | nonlocalStmt (span : Span) (names : List Text)
  | exprStmt (span : Span) (value : Expr)
  | passStmt (span : Span)
  | breakStmt (span : Span)
  | continueStmt (span : Span)

/-- Handlers of a `try` statement. -/
inductive Handler where
  | mk (span : Span) (type : Option Expr) (name : Option Text) (body : List Stmt)

/-- Cases of a `match` statement. -/
inductive Case where
  | mk (pattern : Pattern) (guard : Option Expr) (body : List Stmt)

end

instance : Inhabited Stmt := ⟨.passStmt default⟩

/-- A parsed source: a module, or a single expression. -/
inductive Program where
  | module (body : List Stmt)
  | expression (body : Expr)

end CallLint.Source

import CallLint.Source.Grammar.Pattern

/-!
# The grammar of statements

Simple statements stand on one line and are separated by semicolons; compound statements have blocks, which are either
indented or the rest of the line. The reader of blocks is passed to the rules as `block`, and `blockRule` ties them
together with fuel.
-/

namespace CallLint.Source.Grammar

open Parse

/-- Names joined by dots. -/
def joinDots (names : List Text) : Text := List.intercalate [.scalar '.'] names

/-- The operator of an augmented assignment. -/
def augmentedOp? : TokenKind → Option BinOp
  | .punct .plusEqual => some .add
  | .punct .minusEqual => some .sub
  | .punct .starEqual => some .mult
  | .punct .atEqual => some .matMult
  | .punct .slashEqual => some .div
  | .punct .percentEqual => some .mod
  | .punct .ampersandEqual => some .bitAnd
  | .punct .barEqual => some .bitOr
  | .punct .caretEqual => some .bitXor
  | .punct .leftShiftEqual => some .lShift
  | .punct .rightShiftEqual => some .rShift
  | .punct .doubleStarEqual => some .pow
  | .punct .doubleSlashEqual => some .floorDiv
  | _ => none

section Simple

variable (expr : Rule → Parse Expr)

/-- The right side of an assignment. -/
def assignedValue : Parse Expr := do
  if ← atWord .kYield then yieldExpr expr else expr .starExpressions

/-- An annotated assignment behind its target. -/
def annotatedFrom (start : Pos) (simple : Bool) (target : Expr) : Parse Stmt := do
  punct .colon
  let annot ← expr .expression
  let value ← if ← acceptPunct .equal then pure (some (← assignedValue expr)) else pure none
  match target.toSingleTarget? with
  | some target => return .annAssign (← since start) target annot value simple
  | none => fail

/-- A chain of assignments behind its first target. -/
def assignedFrom (start : Pos) (first : Expr) : Parse Stmt := do
  let (targets, value) ← iterate (fun (targets, value) => do
    if ← acceptPunct .equal then
      let target ← asTarget .store value
      return some (target :: targets, ← assignedValue expr)
    else return none) (([] : List Expr), first)
  match targets.reverse with
  | target :: further => return .assign (← since start) target further value
  | [] => fail

/-- An expression, or an assignment. A target of one token, a bare name, is simple. -/
def expressionStmt : Parse Stmt := do
  let start ← here
  if ← atWord .kYield then
    let e ← yieldExpr expr
    return .exprStmt (← since start) e
  let simple := (← peekSecond) == .punct .colon
  let first ← expr .starExpressions
  let k ← peek
  match augmentedOp? k with
  | some op =>
    let _ ← next
    let value ← assignedValue expr
    match first.toSingleTarget? with
    | some target => return .augAssign (← since start) target op value
    | none => fail
  | none =>
    if k == .punct .colon then annotatedFrom expr start simple first
    else if k == .punct .equal then assignedFrom expr start first
    else return .exprStmt (← since start) first

/-- A `del` statement. -/
def deleteStmt : Parse Stmt := spanned do
  word .kDel
  let first ← expr .bitwiseOr
  let (rest, _) ← commaTail (expr .bitwiseOr)
  match Expr.toTargets? .del (first :: rest) with
  | some targets => return fun span => .delete span targets
  | none => fail

/-- A local name behind `as`. -/
def asName : Parse (Option Text) := do
  if ← acceptWord .kAs then return some (← name) else return none

/-- A module name with dots. -/
def moduleName : Parse Text := do
  let first ← name
  let rest ← many (do
    if ← acceptPunct .dot then return some (← name) else return none)
  return joinDots (first :: rest)

/-- A name that is imported; `imported` reads it. -/
def importAlias (imported : Parse Text) : Parse Alias := spanned do
  let id ← imported
  let asname ← asName
  return fun span => ⟨span, id, asname⟩

/-- An `import` statement. -/
def importStmt : Parse Stmt := spanned do
  word .kImport
  let names ← commaSeparated (importAlias moduleName)
  return fun span => .importStmt span names

/-- The dots before a module name. -/
def importLevel : Parse Nat := do
  let dots ← many (do
    if ← acceptPunct .dot then return some 1
    else if ← acceptPunct .ellipsis then return some 3
    else return none)
  return dots.foldr (· + ·) 0

/-- The names that are imported from a module. -/
def importedNames : Parse (List Alias) := do
  if ← atPunct .star then
    let start ← here
    punct .star
    return [⟨← since start, [.scalar '*'], none⟩]
  if ← acceptPunct .leftParen then
    let names ← commaSeparated (importAlias name)
    let _ ← acceptPunct .comma
    punct .rightParen
    return names
  let names ← commaSeparated (importAlias name)
  if ← atPunct .comma then fail
  return names

/-- A `from … import` statement. -/
def importFromStmt : Parse Stmt := spanned do
  word .kFrom
  let level ← importLevel
  let source ← if level != 0 && (← atWord .kImport) then pure none else pure (some (← moduleName))
  word .kImport
  let names ← importedNames
  return fun span => .importFrom span source names level

/-- A `raise` statement. -/
def raiseStmt : Parse Stmt := spanned do
  word .kRaise
  match ← attempt (expr .expression) with
  | none => return fun span => .raiseStmt span none none
  | some exc =>
    let cause ← if ← acceptWord .kFrom then pure (some (← expr .expression)) else pure none
    return fun span => .raiseStmt span (some exc) cause

/-- An `assert` statement. -/
def assertStmt : Parse Stmt := spanned do
  word .kAssert
  let test ← expr .expression
  let msg ← if ← acceptPunct .comma then pure (some (← expr .expression)) else pure none
  return fun span => .assertStmt span test msg

/-- A statement that is one word. -/
def wordStmt (w : Reserved) (f : Span → Stmt) : Parse Stmt := spanned do
  word w
  return f

/-- A simple statement. -/
def simpleStmt : Parse Stmt := do
  match ← peek with
  | .word .kReturn =>
    spanned do
      word .kReturn
      let value ← attempt (expr .starExpressions)
      return fun span => .returnStmt span value
  | .word .kImport => importStmt
  | .word .kFrom => importFromStmt
  | .word .kRaise => raiseStmt expr
  | .word .kPass => wordStmt .kPass .passStmt
  | .word .kBreak => wordStmt .kBreak .breakStmt
  | .word .kContinue => wordStmt .kContinue .continueStmt
  | .word .kDel => deleteStmt expr
  | .word .kAssert => assertStmt expr
  | .word .kGlobal =>
    spanned do
      word .kGlobal
      let names ← commaSeparated name
      return fun span => .globalStmt span names
  | .word .kNonlocal =>
    spanned do
      word .kNonlocal
      let names ← commaSeparated name
      return fun span => .nonlocalStmt span names
  | _ => expressionStmt expr

/-- The simple statements of one line. -/
def simpleStmts : Parse (List Stmt) := do
  let first ← simpleStmt expr
  let stmts ← manyFrom first (attempt (do punct .semicolon; simpleStmt expr))
  let _ ← acceptPunct .semicolon
  expect .newline
  return stmts

end Simple

section Compound

variable (expr : Rule → Parse Expr) (pattern : Parse Pattern) (block : Parse (List Stmt))

/-- A block behind its colon. -/
def suite : Parse (List Stmt) := do
  punct .colon
  block

/-- A block behind a word, if the word comes next. -/
def optionalSuite (w : Reserved) : Parse (List Stmt) := do
  if ← acceptWord w then suite block else return []

/-- An annotation behind its colon, if there is one; `item` reads it. -/
def annot? (item : Parse Expr) : Parse (Option Expr) := do
  if ← acceptPunct .colon then return some (← item) else return none

/-- A function definition behind its decorators. -/
def functionDef (start : Pos) (isAsync : Bool) (decorators : List Expr) : Parse Stmt := do
  word .kDef
  let id ← name
  punct .leftParen
  let ps ← params (annot? (expr .expression)) (annot? (starExpression expr)) (expr .expression) .rightParen
  punct .rightParen
  let returns ← if ← acceptPunct .arrow then pure (some (← expr .expression)) else pure none
  let body ← suite block
  return .functionDef (← since start) isAsync id ps body decorators returns

/-- A class definition behind its decorators. -/
def classDef (start : Pos) (decorators : List Expr) : Parse Stmt := do
  word .kClass
  let id ← name
  let (bases, keywords) ← if ← acceptPunct .leftParen then arguments expr else pure ([], [])
  let body ← suite block
  return .classDef (← since start) id bases keywords body decorators

/-- A definition with decorators. -/
def decorated : Parse Stmt := do
  let decorators ← many (do
    if ← acceptPunct .at then
      let e ← expr .named
      expect .newline
      return some e
    else return none)
  let start ← here
  if ← atWord .kClass then classDef expr block start decorators
  else
    let isAsync ← acceptWord .kAsync
    functionDef expr block start isAsync decorators

/-- A conditional with its further branches. Each branch behind the first is a conditional inside the one before. -/
def ifStmt : Parse Stmt := do
  let branch (w : Reserved) : Parse (Pos × Expr × List Stmt) := do
    let start ← here
    word w
    let test ← expr .named
    return (start, test, ← suite block)
  let (start, test, body) ← branch .kIf
  let branches ← many (do
    if ← atWord .kElif then return some (← branch .kElif) else return none)
  let orelse ← optionalSuite block .kElse
  let span ← since start
  let inner := branches.foldr (fun (p, t, b) rest => [.ifStmt ⟨p, span.stop⟩ t b rest]) orelse
  return .ifStmt span test body inner

/-- A `while` loop. -/
def whileStmt : Parse Stmt := spanned do
  word .kWhile
  let test ← expr .named
  let body ← suite block
  let orelse ← optionalSuite block .kElse
  return fun span => .whileStmt span test body orelse

/-- A `for` loop. -/
def forStmt (start : Pos) (isAsync : Bool) : Parse Stmt := do
  word .kFor
  let target ← forTargets expr
  word .kIn
  let iter ← expr .starExpressions
  let body ← suite block
  let orelse ← optionalSuite block .kElse
  return .forStmt (← since start) isAsync target iter body orelse

/-- A context manager with its target. -/
def withItem : Parse WithItem := do
  let context ← expr .expression
  if ← acceptWord .kAs then
    let target ← asTarget .store (← targetItem expr)
    return ⟨context, some target⟩
  return ⟨context, none⟩

/-- Context managers in parentheses, and the colon behind them. -/
def parenthesizedItems : Parse (List WithItem) := do
  punct .leftParen
  let items ← commaSeparated (withItem expr)
  let _ ← acceptPunct .comma
  punct .rightParen
  punct .colon
  return items

/-- Context managers without parentheses, and the colon behind them. -/
def plainItems : Parse (List WithItem) := do
  let items ← commaSeparated (withItem expr)
  punct .colon
  return items

/-- A `with` statement. -/
def withStmt (start : Pos) (isAsync : Bool) : Parse Stmt := do
  word .kWith
  let items ← either (parenthesizedItems expr) (plainItems expr)
  let body ← block
  return .withStmt (← since start) isAsync items body

/-- A handler of a `try` statement, for groups if `star`. -/
def handler (star : Bool) : Parse Handler := spanned do
  word .kExcept
  if star then punct .star
  if !star && (← atPunct .colon) then
    let body ← suite block
    return fun span => .mk span none none body
  let type ← expr .expression
  let id ← asName
  let body ← suite block
  return fun span => .mk span (some type) id body

/-- A `try` statement. The first handler decides whether all are for groups. -/
def tryStmt : Parse Stmt := spanned do
  word .kTry
  let body ← suite block
  let star := (← atWord .kExcept) && (← peekSecond) == .punct .star
  let handlers ← many (do
    if ← atWord .kExcept then return some (← handler expr block star) else return none)
  let orelse ← if handlers.isEmpty then pure [] else optionalSuite block .kElse
  if handlers.isEmpty && !(← atWord .kFinally) then fail
  let finalbody ← optionalSuite block .kFinally
  return fun span => .tryStmt span star body handlers orelse finalbody

/-- The name with the given spelling. -/
def softWord (w : List Char) : Parse Unit := expect (.name w)

/-- What a `match` statement looks at. -/
def subject : Parse Expr := do
  let start ← here
  let first ← starNamed expr
  if ← atPunct .comma then
    let (rest, _) ← commaTail (starNamed expr)
    return .tuple (← since start) (first :: rest) .load
  if isStarred first then fail
  return first

/-- The first line of a `match` statement. -/
def matchHeader : Parse Expr := do
  softWord "match".toList
  let e ← subject expr
  punct .colon
  expect .newline
  expect .indent
  return e

/-- A case of a `match` statement. -/
def matchCase : Parse Case := do
  softWord "case".toList
  let p ← casePattern pattern
  let guard ← if ← acceptWord .kIf then pure (some (← expr .named)) else pure none
  let body ← suite block
  return .mk p guard body

/-- The rest of a `match` statement behind its first line. -/
def matchFrom (start : Pos) (e : Expr) : Parse Stmt := do
  let first ← matchCase expr pattern block
  let cases ← manyFrom first (do
    if (← peek) == .dedent then return none else return some (← matchCase expr pattern block))
  expect .dedent
  return .matchStmt (← since start) e cases

/-- A statement, or the simple statements of a line. -/
def statement : Parse (List Stmt) := do
  let start ← here
  match ← peek with
  | .punct .at | .word .kDef | .word .kClass => return [← decorated expr block]
  | .word .kIf => return [← ifStmt expr block]
  | .word .kWhile => return [← whileStmt expr block]
  | .word .kFor => return [← forStmt expr block start false]
  | .word .kWith => return [← withStmt expr block start false]
  | .word .kTry => return [← tryStmt expr block]
  | .word .kAsync =>
    match ← peekSecond with
    | .word .kFor =>
      let _ ← next
      return [← forStmt expr block start true]
    | .word .kWith =>
      let _ ← next
      return [← withStmt expr block start true]
    | _ => return [← decorated expr block]
  | .name spelling =>
    if spelling == "match".toList then
      match ← attempt (matchHeader expr) with
      | some e => return [← matchFrom expr pattern block start e]
      | none => simpleStmts expr
    else simpleStmts expr
  | _ => simpleStmts expr

/-- Statements up to the end of the block or the source. -/
def statements : Parse (List Stmt) := do
  let groups ← many (do
    match ← peek with
    | .dedent | .stop => return none
    | _ => return some (← statement expr pattern block))
  return groups.flatten

end Compound

/-- The reader of blocks that go at most `fuel` deep: indented statements, or the rest of a line. -/
def blockRule (expr : Rule → Parse Expr) (pattern : Parse Pattern) : Nat → Parse (List Stmt)
  | 0 => fail
  | fuel + 1 => do
    if ← accept .newline then
      expect .indent
      let first ← statement expr pattern (blockRule expr pattern fuel)
      let rest ← statements expr pattern (blockRule expr pattern fuel)
      expect .dedent
      return first ++ rest
    else simpleStmts expr

end CallLint.Source.Grammar

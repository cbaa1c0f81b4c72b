import CallLint.Source.Grammar.Params
import CallLint.Source.Grammar.Strings
import CallLint.Source.Grammar.Target

/-!
# The grammar of expressions

Each rule is a reader that takes the readers of inner expressions as `self`, so that no rule refers to itself;
`exprRule` ties them together with fuel. A rule calls `self` only behind a token it has taken, so that the number of
tokens is fuel enough.
-/

namespace CallLint.Source.Grammar

open Parse

/-- The rules that occur inside other expressions. -/
inductive Rule where
  /-- A conditional, a lambda, or an operation. -/
  | expression
  /-- An expression or an assignment by `:=`. -/
  | named
  /-- One or more expressions, some starred, that make a tuple when there is a comma. -/
  | starExpressions
  /-- An operation, connectives included. -/
  | disjunction
  /-- A negation or a comparison. -/
  | inversion
  /-- An operation without comparisons. -/
  | bitwiseOr
  /-- A signed operand. -/
  | factor
deriving DecidableEq, Repr

section Rules

variable (self : Rule → Parse Expr)

/-- A starred expression; `inner` reads what is starred. -/
def starred (inner : Parse Expr) : Parse Expr := spanned do
  punct .star
  let value ← inner
  return fun span => .starred span value .load

/-- An element of a display: starred, or named. -/
def starNamed : Parse Expr := do
  if ← atPunct .star then starred (self .bitwiseOr) else self .named

/-- An element of an expression list: starred, or an expression. -/
def starExpression : Parse Expr := do
  if ← atPunct .star then starred (self .bitwiseOr) else self .expression

/-- A target in a `for` clause or behind `as`, still as an expression. -/
def targetItem : Parse Expr := do
  if ← atPunct .star then starred (self .bitwiseOr) else self .bitwiseOr

/-- An item, or a tuple of items when there is a comma. -/
def tupleOr (item : Parse Expr) : Parse Expr := do
  let start ← here
  let first ← item
  if ← atPunct .comma then
    let (rest, _) ← commaTail item
    return .tuple (← since start) (first :: rest) .load
  return first

/-- Turns an expression into a target. -/
def asTarget (ctx : Context) (e : Expr) : Parse Expr :=
  match e.toTarget? ctx with
  | some t => return t
  | none => fail

/-- Reads the targets of a `for` clause. -/
def forTargets : Parse Expr := do asTarget .store (← tupleOr (targetItem self))

/-- One `for` clause of a comprehension. -/
def forClause : Parse (Option Comprehension) := do
  let isAsync ← acceptWord .kAsync
  if !(← acceptWord .kFor) then
    if isAsync then fail else return none
  let target ← forTargets self
  word .kIn
  let iter ← self .disjunction
  let ifs ← many (do
    if ← acceptWord .kIf then return some (← self .disjunction) else return none)
  return some (.mk target iter ifs isAsync)

/-- Whether a `for` clause comes next. -/
def atForClause : Parse Bool := do
  match ← peek with
  | .word .kFor | .word .kAsync => return true
  | _ => return false

/-- The `for` clauses of a comprehension. -/
def forClauses : Parse (List Comprehension) := many (forClause self)

/-- Whether an expression is starred. -/
def isStarred : Expr → Bool
  | .starred .. => true
  | _ => false

/-- A `yield` expression. -/
def yieldExpr : Parse Expr := spanned do
  word .kYield
  if ← acceptWord .kFrom then
    let value ← self .expression
    return fun span => .yieldFrom span value
  let value ← attempt (self .starExpressions)
  return fun span => .yield span value

/-- What stands in parentheses: a tuple, a generator, or a single expression, which keeps its own span. -/
def parenthesized : Parse Expr := do
  let start ← here
  punct .leftParen
  if ← acceptPunct .rightParen then return .tuple (← since start) [] .load
  if ← atWord .kYield then
    let e ← yieldExpr self
    punct .rightParen
    return e
  let first ← starNamed self
  if ← atPunct .comma then
    let (rest, _) ← commaTail (starNamed self)
    punct .rightParen
    return .tuple (← since start) (first :: rest) .load
  if isStarred first then fail
  if ← atForClause then
    let clauses ← forClauses self
    punct .rightParen
    return .generator (← since start) first clauses
  punct .rightParen
  return first

/-- What stands in brackets: a list or a list comprehension. -/
def bracketed : Parse Expr := do
  let start ← here
  punct .leftBracket
  if ← acceptPunct .rightBracket then return .list (← since start) [] .load
  let first ← starNamed self
  if ← atForClause then
    if isStarred first then fail
    let clauses ← forClauses self
    punct .rightBracket
    return .listComp (← since start) first clauses
  let (rest, _) ← commaTail (starNamed self)
  punct .rightBracket
  return .list (← since start) (first :: rest) .load

/-- An item of a dictionary: a key with its value, or an unpacked mapping. -/
def dictItem : Parse (Option Expr × Expr) := do
  if ← acceptPunct .doubleStar then return (none, ← self .bitwiseOr)
  let key ← self .expression
  punct .colon
  return (some key, ← self .expression)

/-- The dictionary that starts with an item. -/
def dictFrom (start : Pos) (first : Option Expr × Expr) : Parse Expr := do
  let (rest, _) ← commaTail (dictItem self)
  punct .rightBrace
  let items := first :: rest
  return .dict (← since start) (items.map (·.1)) (items.map (·.2))

/-- The set that starts with an element. -/
def setFrom (start : Pos) (first : Expr) : Parse Expr := do
  if ← atForClause then
    if isStarred first then fail
    let clauses ← forClauses self
    punct .rightBrace
    return .setComp (← since start) first clauses
  let (rest, _) ← commaTail (starNamed self)
  punct .rightBrace
  return .set (← since start) (first :: rest)

/-- What stands in braces: a dictionary, a set, or a comprehension of one of them. -/
def braced : Parse Expr := do
  let start ← here
  punct .leftBrace
  if ← acceptPunct .rightBrace then return .dict (← since start) [] []
  if ← atPunct .doubleStar then dictFrom self start (← dictItem self)
  else if (← atPunct .star) || (← peekSecond) == .punct .colonEqual then setFrom self start (← starNamed self)
  else
    let first ← self .expression
    if ← acceptPunct .colon then
      let value ← self .expression
      if ← atForClause then
        let clauses ← forClauses self
        punct .rightBrace
        return .dictComp (← since start) first value clauses
      dictFrom self start (some first, value)
    else setFrom self start first

/-- The expression of a field, up to the end of its line. -/
def fieldLine : Parse Expr := do
  let e ← self .starExpressions
  expect .newline
  return e

/-- Reads the source of a field of a format string. -/
def fieldExpr (source : List Char) (pos : Pos) : Option Expr :=
  match fieldTokens source pos with
  | none => none
  | some tokens => (fieldLine self ⟨tokens, pos⟩).map (·.1)

/-- Adjacent string literals. -/
def strings : Parse Expr := do
  let start ← here
  let tokens ← many (do
    match ← peek with
    | .string s =>
      let t ← next
      return some (s, t.span)
    | _ => return none)
  match stringsExpr (fieldExpr self) (← since start) tokens with
  | some e => return e
  | none => fail

/-- A constant of one token. -/
def constant (value : Literal) : Parse Expr := spanned do
  let _ ← next
  return fun span => .constant span value false

/-- A name that is read. -/
def nameExpr : Parse Expr := spanned do
  let id ← name
  return fun span => .name span id .load

/-- The operands that need no operator. -/
def atom : Parse Expr := do
  match ← peek with
  | .name _ => nameExpr
  | .word .kTrue => constant (.bool true)
  | .word .kFalse => constant (.bool false)
  | .word .kNone => constant .none
  | .punct .ellipsis => constant .ellipsis
  | .number value => constant value
  | .string _ => strings self
  | .punct .leftParen => parenthesized self
  | .punct .leftBracket => bracketed self
  | .punct .leftBrace => braced self
  | _ => fail

/-- How far an argument list has come. -/
inductive ArgStage where
  /-- Only positional arguments so far. -/
  | positional
  /-- A keyword argument has been read. -/
  | keyword
  /-- An unpacked mapping has been read. -/
  | mapping
deriving DecidableEq

/-- Arguments read so far, last first. -/
structure Arguments where
  stage : ArgStage
  args : List Expr
  keywords : List Keyword

/-- Reads one more argument. Behind a keyword argument a positional one has to be starred; behind an unpacked mapping
there is none. -/
def argument (a : Arguments) : Parse Arguments := do
  let start ← here
  match ← peek, ← peekSecond with
  | .name _, .punct .equal =>
    let id ← name
    punct .equal
    let value ← self .expression
    let stage := if a.stage == .positional then .keyword else a.stage
    return ⟨stage, a.args, .mk (← since start) (some id) value :: a.keywords⟩
  | .punct .doubleStar, _ =>
    let _ ← next
    let value ← self .expression
    return ⟨.mapping, a.args, .mk (← since start) none value :: a.keywords⟩
  | .punct .star, _ =>
    if a.stage == .mapping then fail
    return { a with args := (← starred (self .expression)) :: a.args }
  | _, _ =>
    if a.stage != .positional then fail
    let e ← self .named
    if ← atPunct .equal then fail
    return { a with args := e :: a.args }

/-- The arguments up to a closing parenthesis, which is taken, behind those read so far. -/
def argumentsFrom (a : Arguments) : Parse (List Expr × List Keyword) := do
  let a ← iterate (fun a => attempt (do punct .comma; argument self a)) a
  let _ ← acceptPunct .comma
  punct .rightParen
  return (a.args.reverse, a.keywords.reverse)

/-- Arguments behind an opening parenthesis. -/
def arguments : Parse (List Expr × List Keyword) := do
  if ← acceptPunct .rightParen then return ([], [])
  argumentsFrom self (← argument self ⟨.positional, [], []⟩)

/-- The arguments of a call, parentheses included. A generator that is the only argument needs no parentheses of its
own, and its span is that of the parentheses. -/
def callArguments : Parse (List Expr × List Keyword) := do
  let start ← here
  punct .leftParen
  if ← acceptPunct .rightParen then return ([], [])
  let a ← argument self ⟨.positional, [], []⟩
  if ← atForClause then
    match a.args, a.keywords with
    | [e], [] =>
      if isStarred e then fail
      let clauses ← forClauses self
      punct .rightParen
      return ([.generator (← since start) e clauses], [])
    | _, _ => fail
  argumentsFrom self a

/-- The bound of a slice, unless a colon, a comma or the closing bracket comes next. -/
def sliceBound : Parse (Option Expr) := do
  match ← peek with
  | .punct .colon | .punct .comma | .punct .rightBracket => return none
  | _ => return some (← self .expression)

/-- The rest of a slice behind its lower bound. -/
def sliceFrom (start : Pos) (lower : Option Expr) : Parse Expr := do
  punct .colon
  let upper ← sliceBound self
  let step ← if ← acceptPunct .colon then sliceBound self else pure none
  return .slice (← since start) lower upper step

/-- An index or a slice. -/
def sliceItem : Parse Expr := do
  let start ← here
  match ← peek, ← peekSecond with
  | .punct .colon, _ => sliceFrom self start none
  | .punct .star, _ => starred (self .expression)
  | .name _, .punct .colonEqual => self .named
  | _, _ =>
    let e ← self .expression
    if ← atPunct .colon then sliceFrom self start (some e) else return e

/-- What stands in the brackets of a subscript. A starred index makes a tuple without a comma. -/
def slices : Parse Expr := do
  let start ← here
  let first ← sliceItem self
  if isStarred first || (← atPunct .comma) then
    let (rest, _) ← commaTail (sliceItem self)
    return .tuple (← since start) (first :: rest) .load
  return first

/-- An operand with members, calls and subscripts behind it. -/
def primary : Parse Expr := do
  let start ← here
  let first ← atom self
  iterate (fun e => do
    match ← peek with
    | .punct .dot =>
      let _ ← next
      let attr ← name
      return some (.member (← since start) e attr .load)
    | .punct .leftParen =>
      let (args, keywords) ← callArguments self
      return some (.call (← since start) e args keywords)
    | .punct .leftBracket =>
      let _ ← next
      let index ← slices self
      punct .rightBracket
      return some (.subscript (← since start) e index .load)
    | _ => return none) first

/-- An operand, awaited or not. -/
def awaited : Parse Expr := do
  if ← atWord .kAwait then
    spanned do
      word .kAwait
      let value ← primary self
      return fun span => .await span value
  else primary self

/-- A power; its exponent may be signed. -/
def power : Parse Expr := do
  let start ← here
  let base ← awaited self
  if ← acceptPunct .doubleStar then
    let exponent ← self .factor
    return .binOp (← since start) base .pow exponent
  return base

/-- The operator of a sign. -/
def signOp? : TokenKind → Option UnaryOp
  | .punct .plus => some .plus
  | .punct .minus => some .minus
  | .punct .tilde => some .invert
  | _ => none

/-- A signed operand. -/
def factor : Parse Expr := do
  match signOp? (← peek) with
  | some op =>
    spanned do
      let _ ← next
      let operand ← self .factor
      return fun span => .unaryOp span op operand
  | none => power self

/-- Operands joined by operators of one precedence, from the left. -/
def leftAssoc (op? : TokenKind → Option BinOp) (operand : Parse Expr) : Parse Expr := do
  let start ← here
  let first ← operand
  iterate (fun left => do
    match op? (← peek) with
    | none => return none
    | some op =>
      let _ ← next
      let right ← operand
      return some (.binOp (← since start) left op right)) first

/-- Multiplicative operators. -/
def termOp? : TokenKind → Option BinOp
  | .punct .star => some .mult
  | .punct .slash => some .div
  | .punct .doubleSlash => some .floorDiv
  | .punct .percent => some .mod
  | .punct .at => some .matMult
  | _ => none

/-- Additive operators. -/
def sumOp? : TokenKind → Option BinOp
  | .punct .plus => some .add
  | .punct .minus => some .sub
  | _ => none

/-- Shifts. -/
def shiftOp? : TokenKind → Option BinOp
  | .punct .leftShift => some .lShift
  | .punct .rightShift => some .rShift
  | _ => none

/-- An operator with one spelling. -/
def onlyOp? (p : Punct) (op : BinOp) (k : TokenKind) : Option BinOp := if k == .punct p then some op else none

/-- An operation without comparisons. -/
def bitwiseOr : Parse Expr :=
  let sum := leftAssoc sumOp? (leftAssoc termOp? (factor self))
  let conjoined := leftAssoc (onlyOp? .ampersand .bitAnd) (leftAssoc shiftOp? sum)
  leftAssoc (onlyOp? .bar .bitOr) (leftAssoc (onlyOp? .caret .bitXor) conjoined)

/-- Takes a comparison operator if one comes next. -/
def compareOp : Parse (Option CompareOp) := do
  let one (op : CompareOp) : Parse (Option CompareOp) := do
    let _ ← next
    return some op
  match ← peek with
  | .punct .doubleEqual => one .eq
  | .punct .notEqual => one .notEq
  | .punct .less => one .lt
  | .punct .lessEqual => one .ltE
  | .punct .greater => one .gt
  | .punct .greaterEqual => one .gtE
  | .word .kIn => one .contained
  | .word .kIs =>
    let _ ← next
    if ← acceptWord .kNot then return some .isNot else return some .is
  | .word .kNot =>
    if (← peekSecond) == .word .kIn then
      let _ ← next
      one .notContained
    else return none
  | _ => return none

/-- A chain of comparisons. -/
def comparison : Parse Expr := do
  let start ← here
  let left ← bitwiseOr self
  let links ← many (do
    match ← compareOp with
    | none => return none
    | some op => return some (op, ← bitwiseOr self))
  if links.isEmpty then return left
  return .compare (← since start) left (links.map (·.1)) (links.map (·.2))

/-- A negation or a comparison. -/
def inversion : Parse Expr := do
  if ← atWord .kNot then
    spanned do
      word .kNot
      let operand ← self .inversion
      return fun span => .unaryOp span .not operand
  else comparison self

/-- Operands joined by one connective. -/
def connected (w : Reserved) (op : BoolOp) (operand : Parse Expr) : Parse Expr := do
  let start ← here
  let first ← operand
  let rest ← many (do
    if ← acceptWord w then return some (← operand) else return none)
  if rest.isEmpty then return first
  return .boolOp (← since start) op (first :: rest)

/-- An operation, connectives included. -/
def disjunction : Parse Expr := connected .kOr .or (connected .kAnd .and (inversion self))

/-- An anonymous function. -/
def lambda : Parse Expr := spanned do
  word .kLambda
  let ps ← params (pure none) (pure none) (self .expression) .colon
  punct .colon
  let body ← self .expression
  return fun span => .lambda span ps body

/-- A conditional, a lambda, or an operation. -/
def expression : Parse Expr := do
  if ← atWord .kLambda then lambda self
  else
    let start ← here
    let body ← disjunction self
    if ← acceptWord .kIf then
      let test ← self .disjunction
      word .kElse
      let orelse ← self .expression
      return .ifExp (← since start) test body orelse
    return body

/-- An expression or an assignment by `:=`. -/
def namedExpression : Parse Expr := do
  match ← peek, ← peekSecond with
  | .name _, .punct .colonEqual =>
    spanned do
      let target ← nameExpr
      punct .colonEqual
      let value ← self .expression
      let target ← asTarget .store target
      return fun span => .named span target value
  | _, _ =>
    let e ← expression self
    if ← atPunct .colonEqual then fail
    return e

/-- One or more expressions, some starred, that make a tuple when there is a comma. -/
def starExpressions : Parse Expr :=
  tupleOr do
    if ← atPunct .star then starred (self .bitwiseOr) else expression self

/-- The reader of a rule over the readers of inner expressions. -/
def ruleOver : Rule → Parse Expr
  | .expression => expression self
  | .named => namedExpression self
  | .starExpressions => starExpressions self
  | .disjunction => disjunction self
  | .inversion => inversion self
  | .bitwiseOr => bitwiseOr self
  | .factor => factor self

end Rules

/-- The reader of a rule that goes at most `fuel` deep. -/
def exprRule : Nat → Rule → Parse Expr
  | 0, _ => fail
  | fuel + 1, rule => ruleOver (exprRule fuel) rule

end CallLint.Source.Grammar

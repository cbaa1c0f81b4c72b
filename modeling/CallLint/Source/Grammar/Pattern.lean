import CallLint.Source.Grammar.Expr

/-!
# The grammar of patterns

What may stand behind `case`. As for expressions, each rule takes the reader of inner patterns as `self`, and
`patternRule` ties them together with fuel.
-/

namespace CallLint.Source.Grammar

open Parse

section Rules

variable (expr : Rule → Parse Expr) (self : Parse Pattern)

/-- Whether a name is the wildcard. -/
def isWildcard : TokenKind → Bool
  | .name spelling => spelling == ['_']
  | _ => false

/-- Whether a token behind a name shows that the name is not captured. -/
def endsCapture : TokenKind → Bool
  | .punct .dot | .punct .leftParen | .punct .equal => true
  | _ => false

/-- A name that a pattern binds. -/
def captureName : Parse Text := do
  if isWildcard (← peek) then fail
  let id ← name
  if endsCapture (← peek) then fail
  return id

/-- A number, possibly negative. -/
def signedNumber : Parse Expr := do
  match ← peek, ← peekSecond with
  | .number value, _ => constant value
  | .punct .minus, .number value =>
    spanned do
      let _ ← next
      let operand ← constant value
      return fun span => .unaryOp span .minus operand
  | _, _ => fail

/-- Whether a signed number is real. -/
def isRealNumber : Expr → Bool
  | .constant _ (.imaginary _) _ => false
  | .unaryOp _ _ (.constant _ (.imaginary _) _) => false
  | _ => true

/-- A number, possibly complex. -/
def numberPattern : Parse Expr := do
  let start ← here
  let left ← signedNumber
  match sumOp? (← peek) with
  | none => return left
  | some op =>
    if !isRealNumber left then fail
    let _ ← next
    match ← peek with
    | .number (.imaginary x) =>
      let right ← constant (.imaginary x)
      return .binOp (← since start) left op right
    | _ => fail

/-- A name with members. -/
def dottedName : Parse Expr := do
  let start ← here
  let first ← nameExpr
  iterate (fun e => do
    if ← acceptPunct .dot then
      let attr ← name
      return some (.member (← since start) e attr .load)
    else return none) first

/-- The literal of a key or a value: a number, strings, or one of the named constants. -/
def literalExpr : Parse Expr := do
  match ← peek with
  | .number _ | .punct .minus => numberPattern
  | .string _ => strings expr
  | .word .kNone => constant .none
  | .word .kTrue => constant (.bool true)
  | .word .kFalse => constant (.bool false)
  | _ => fail

/-- Gives a pattern of one token that binds nothing. -/
def singletonPattern (value : Literal) : Parse Pattern := spanned do
  let _ ← next
  return fun span => .singleton span value

/-- A starred name in a sequence. -/
def starPattern : Parse Pattern := spanned do
  punct .star
  if ← (return isWildcard (← peek)) then
    let _ ← next
    return fun span => .star span none
  let id ← captureName
  return fun span => .star span (some id)

/-- An element of a sequence. -/
def sequenceItem : Parse Pattern := do
  if ← atPunct .star then starPattern else self

/-- Whether a pattern is a starred name. -/
def isStarPattern : Pattern → Bool
  | .star .. => true
  | _ => false

/-- A pattern in parentheses, or a sequence. -/
def parenPattern : Parse Pattern := do
  let start ← here
  punct .leftParen
  if ← acceptPunct .rightParen then return .sequence (← since start) []
  let first ← sequenceItem self
  if ← atPunct .comma then
    let (rest, _) ← commaTail (sequenceItem self)
    punct .rightParen
    return .sequence (← since start) (first :: rest)
  if isStarPattern first then fail
  punct .rightParen
  return first

/-- A sequence in brackets. -/
def bracketPattern : Parse Pattern := spanned do
  punct .leftBracket
  if ← acceptPunct .rightBracket then return fun span => .sequence span []
  let first ← sequenceItem self
  let (rest, _) ← commaTail (sequenceItem self)
  punct .rightBracket
  return fun span => .sequence span (first :: rest)

/-- An entry of a mapping: a literal or dotted key with its pattern. -/
def keyPattern : Parse (Expr × Pattern) := do
  let key ← match ← peek with
    | .name _ =>
      if (← peekSecond) == .punct .dot then dottedName else fail
    | _ => literalExpr expr
  punct .colon
  return (key, ← self)

/-- The name that takes the rest of a mapping, behind its stars. -/
def restName : Parse Text := do
  punct .doubleStar
  captureName

/-- A mapping. -/
def mappingPattern : Parse Pattern := spanned do
  punct .leftBrace
  if ← acceptPunct .rightBrace then return fun span => .mapping span [] [] none
  if ← atPunct .doubleStar then
    let rest ← restName
    let _ ← acceptPunct .comma
    punct .rightBrace
    return fun span => .mapping span [] [] (some rest)
  let entries ← commaSeparated (keyPattern expr self)
  let comma ← acceptPunct .comma
  let rest ← if comma && (← atPunct .doubleStar) then
      let rest ← restName
      let _ ← acceptPunct .comma
      pure (some rest)
    else pure none
  punct .rightBrace
  return fun span => .mapping span (entries.map (·.1)) (entries.map (·.2)) rest

/-- A pattern for a named member. -/
def keywordPattern : Parse (Text × Pattern) := do
  let id ← name
  punct .equal
  return (id, ← self)

/-- Patterns for named members up to the closing parenthesis. -/
def keywordPatterns : Parse (List (Text × Pattern)) := do
  let entries ← commaSeparated (keywordPattern self)
  let _ ← acceptPunct .comma
  punct .rightParen
  return entries

/-- The arguments of a class pattern: those by position, then those by name. -/
def classArguments : Parse (List Pattern × List (Text × Pattern)) := do
  punct .leftParen
  if ← acceptPunct .rightParen then return ([], [])
  match ← peek, ← peekSecond with
  | .name _, .punct .equal => return ([], ← keywordPatterns self)
  | _, _ =>
    let positional ← commaSeparated self
    if ← acceptPunct .comma then
      if ← acceptPunct .rightParen then return (positional, [])
      return (positional, ← keywordPatterns self)
    punct .rightParen
    return (positional, [])

/-- A pattern that starts with a name followed by a dot or a parenthesis: a class or a value. -/
def namedPattern : Parse Pattern := do
  let start ← here
  let e ← dottedName
  if ← atPunct .leftParen then
    let (positional, keywords) ← classArguments self
    return .ofClass (← since start) e positional (keywords.map (·.1)) (keywords.map (·.2))
  if ← atPunct .equal then fail
  return .value (← since start) e

/-- A pattern without alternatives. -/
def closedPattern : Parse Pattern := do
  match ← peek with
  | .word .kNone => singletonPattern .none
  | .word .kTrue => singletonPattern (.bool true)
  | .word .kFalse => singletonPattern (.bool false)
  | .number _ | .punct .minus | .string _ =>
    spanned do
      let e ← literalExpr expr
      return fun span => .value span e
  | .punct .leftParen => parenPattern self
  | .punct .leftBracket => bracketPattern self
  | .punct .leftBrace => mappingPattern expr self
  | .name spelling =>
    if spelling == ['_'] then
      spanned do
        let _ ← next
        return fun span => .alias span none none
    else if endsCapture (← peekSecond) then namedPattern self
    else
      spanned do
        let id ← captureName
        return fun span => .alias span none (some id)
  | _ => fail

/-- Alternatives, possibly with a name for what matched. -/
def patternOver : Parse Pattern := do
  let start ← here
  let first ← closedPattern expr self
  let rest ← many (do
    if ← acceptPunct .bar then return some (← closedPattern expr self) else return none)
  let body ← if rest.isEmpty then pure first else pure (.either (← since start) (first :: rest))
  if ← acceptWord .kAs then
    let id ← captureName
    return .alias (← since start) (some body) (some id)
  return body

end Rules

/-- The reader of patterns that go at most `fuel` deep. -/
def patternRule (expr : Rule → Parse Expr) : Nat → Parse Pattern
  | 0 => fail
  | fuel + 1 => patternOver expr (patternRule expr fuel)

/-- What stands behind `case`: a pattern, or a sequence without brackets. -/
def casePattern (pattern : Parse Pattern) : Parse Pattern := do
  let start ← here
  let first ← sequenceItem pattern
  if ← atPunct .comma then
    let (rest, _) ← commaTail (sequenceItem pattern)
    return .sequence (← since start) (first :: rest)
  if isStarPattern first then fail
  return first

end CallLint.Source.Grammar

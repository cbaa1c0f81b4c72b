import CallLint.Source.Token
import CallLint.Text.Normal

/-!
# Reading tokens

A reader takes tokens from the front of the input or fails; on failure the caller's input is untouched, so another
alternative can be tried from the same place. The input remembers where the last token with a width ended, because
that is where the span of a finished construct ends.
-/

namespace CallLint.Source

/-- The tokens still to read, and the end of the last one that was no mark. -/
structure Input where
  tokens : List Token
  last : Pos
deriving Repr, Inhabited

/-- A reader of tokens. -/
abbrev Parse (α : Type) := StateT Input Option α

namespace Parse

/-- Fails. -/
def fail {α : Type} : Parse α := fun _ => none

/-- The kind of the next token. -/
def peek : Parse TokenKind := fun s => some ((s.tokens.head?.map (·.kind)).getD .stop, s)

/-- The kind of the token after the next. -/
def peekSecond : Parse TokenKind := fun s => some ((s.tokens[1]?.map (·.kind)).getD .stop, s)

/-- Where the next token starts. -/
def here : Parse Pos := fun s => some ((s.tokens.head?.map (·.span.start)).getD s.last, s)

/-- Whether a kind of token is a mark of logical lines, which no span reaches. -/
def isMark : TokenKind → Bool
  | .newline | .indent | .dedent | .stop => true
  | _ => false

/-- Takes the next token. -/
def next : Parse Token := fun s =>
  match s.tokens with
  | [] => none
  | t :: ts => some (t, ⟨ts, if isMark t.kind then s.last else t.span.stop⟩)

/-- Takes the next token if it is of the given kind. -/
def accept (k : TokenKind) : Parse Bool := do
  if (← peek) == k then
    let _ ← next
    return true
  else return false

/-- Takes a token of the given kind or fails. -/
def expect (k : TokenKind) : Parse Unit := do
  if !(← accept k) then fail

/-- Whether the next token is the given punctuation. -/
def atPunct (p : Punct) : Parse Bool := return (← peek) == .punct p

/-- Takes the given punctuation if it comes next. -/
def acceptPunct (p : Punct) : Parse Bool := accept (.punct p)

/-- Takes the given punctuation or fails. -/
def punct (p : Punct) : Parse Unit := expect (.punct p)

/-- Whether the next token is the given reserved word. -/
def atWord (w : Reserved) : Parse Bool := return (← peek) == .word w

/-- Takes the given reserved word if it comes next. -/
def acceptWord (w : Reserved) : Parse Bool := accept (.word w)

/-- Takes the given reserved word or fails. -/
def word (w : Reserved) : Parse Unit := expect (.word w)

/-- Takes a name, in its normal form. -/
def name : Parse Text := do
  match (← next).kind with
  | .name spelling => return Text.ofChars (Text.normalForm spelling)
  | _ => fail

/-- Tries a reader; if it fails, nothing is taken. -/
def attempt {α : Type} (p : Parse α) : Parse (Option α) := fun s =>
  match p s with
  | some (a, s') => some (some a, s')
  | none => some (none, s)

/-- The first of two readers that succeeds. -/
def either {α : Type} (p q : Parse α) : Parse α := fun s =>
  match p s with
  | some r => some r
  | none => q s

/-- The span from `start` to the end of the last token taken. -/
def since (start : Pos) : Parse Span := fun s => some (⟨start, s.last⟩, s)

/-- Gives the result of a reader the span from here to its last token. -/
def spanned {α : Type} (p : Parse (Span → α)) : Parse α := do
  let start ← here
  let f ← p
  return f (← since start)

/-- Repeats a step as long as it gives a new value. -/
def iterateFor {α : Type} : Nat → (α → Parse (Option α)) → α → Parse α
  | 0, _, _ => fail
  | n + 1, step, a => do
    match ← step a with
    | none => return a
    | some b => iterateFor n step b

/-- Repeats a step that takes at least one token whenever it gives a new value. -/
def iterate {α : Type} (step : α → Parse (Option α)) (a : α) : Parse α := fun s =>
  iterateFor (s.tokens.length + 1) step a s

/-- One or more items, as long as `more` finds another one. -/
def manyFrom {α : Type} (first : α) (more : Parse (Option α)) : Parse (List α) := do
  let reversed ← iterate (fun acc => do
    match ← more with
    | none => return none
    | some a => return some (a :: acc)) [first]
  return reversed.reverse

/-- Items as long as `more` finds another one. -/
def many {α : Type} (more : Parse (Option α)) : Parse (List α) := do
  match ← more with
  | none => return []
  | some a => manyFrom a more

/-- One or more items between commas, without a comma at the end. -/
def commaSeparated {α : Type} (item : Parse α) : Parse (List α) := do
  let first ← item
  manyFrom first (attempt (do punct .comma; item))

/-- The items that follow a first one, each after a comma, and whether a comma ends the list. -/
def commaTail {α : Type} (item : Parse α) : Parse (List α × Bool) := do
  let items ← many (attempt (do punct .comma; item))
  let trailing ← acceptPunct .comma
  return (items, trailing)

end Parse

end CallLint.Source

import CallLint.Text.CodePoint

/-!
# Places in a settings text

A cursor is what is left of a text together with the line and column that have been reached. Past the end it shows the
character `NUL`, which no readable text holds. Lines end in a line feed, a next-line character, or one of the two Unicode
separators; carriage returns have been unified with line feeds before.
-/

namespace CallLint.Yaml

/-- Why a settings text has no value. -/
inductive Fault where
  | malformed
  /-- An escape for a number that is no code point. -/
  | noCodePoint
  /-- An escape for a number that does not fit a machine integer. -/
  | escapeTooLarge
  /-- A text that spells no number. -/
  | notNumber
  /-- A number without digits. -/
  | noDigits
  /-- A number in base 60 with a place out of range. -/
  | placeTooLarge
  /-- A word that is no truth value. -/
  | notTruth
  /-- A text that is no point in time. -/
  | notTime
  /-- A mapping that is asked for a point in time. -/
  | timeOfMapping
  /-- A time that does not exist. -/
  | noSuchTime
  /-- A mapping that stands for itself. -/
  | endless
deriving DecidableEq, Repr, Inhabited

/-- Whether the character ends a line. -/
def isBreak (c : Char) : Bool := c == '\n' || c == '\x85' || c == '\u2028' || c == '\u2029'

/-- Whether the character is the end of the text or of a line. -/
def isLineEnd (c : Char) : Bool := c == '\x00' || isBreak c

/-- Whether the character is a space, or the end of the text or of a line. -/
def isSpaceOrEnd (c : Char) : Bool := c == ' ' || isLineEnd c

/-- Whether the character is a space or tab, or the end of the text or of a line. -/
def isBlankOrEnd (c : Char) : Bool := c == '\t' || isSpaceOrEnd c

/-- Whether the character may stand in the name of an anchor, a tag handle or a directive. -/
def isNameChar (c : Char) : Bool := c.isAlphanum || c == '-' || c == '_'

/-- Whether the character may stand in a settings text. -/
def isReadable (c : Char) : Bool :=
  let n := c.toNat
  n == 0x9 || n == 0xA || n == 0xD || (0x20 ≤ n && n ≤ 0x7E) || n == 0x85 || (0xA0 ≤ n && n ≤ 0xFFFD) || 0x10000 ≤ n

/-- The rest of a text, and where it begins. -/
structure Cursor where
  rest : List Char
  index : Nat := 0
  line : Nat := 0
  column : Nat := 0
deriving Repr, Inhabited

namespace Cursor

/-- The next character. -/
def peek (c : Cursor) : Char := c.rest.headD '\x00'

/-- The character `k` places further. -/
def peekAt (c : Cursor) (k : Nat) : Char := (c.rest.drop k).headD '\x00'

/-- Past the next character. A byte order mark takes no column. -/
def next (c : Cursor) : Cursor :=
  match c.rest with
  | [] => c
  | ch :: rest =>
    if isBreak ch then { rest, index := c.index + 1, line := c.line + 1, column := 0 }
    else
      { rest, index := c.index + 1, line := c.line, column := if ch == '\ufeff' then c.column else c.column + 1 }

/-- Past `n` characters. -/
def skip : Nat → Cursor → Cursor
  | 0, c => c
  | n + 1, c => skip n c.next

/-- The characters from here that are in the class. -/
def run (p : Char → Bool) (c : Cursor) : List Char := c.rest.takeWhile p

/-- Past the characters that are in the class. -/
def skipRun (p : Char → Bool) (c : Cursor) : Cursor := c.skip (c.run p).length

/-- The line break that stands here, as it is kept in a value, and the place after it. -/
def lineBreak (c : Cursor) : List Char × Cursor :=
  let ch := c.peek
  if ch == '\n' || ch == '\x85' then (['\n'], c.next)
  else if isBreak ch then ([ch], c.next)
  else ([], c)

/-- Whether three dashes or three points stand here, followed by a blank. -/
def atSeparator (c : Cursor) : Bool :=
  let mark := c.rest.take 3
  (mark == ['-', '-', '-'] || mark == ['.', '.', '.']) && isBlankOrEnd (c.peekAt 3)

/-- Past a comment, if one begins here. -/
def skipComment (c : Cursor) : Cursor := if c.peek == '#' then c.skipRun (!isBreak ·) else c

/-- Past spaces, comments and line breaks, and whether a line ended on the way. -/
def toToken : Nat → Bool → Cursor → Bool × Cursor
  | 0, crossed, c => (crossed, c)
  | fuel + 1, crossed, c =>
    let c := (c.skipRun (· == ' ')).skipComment
    if isBreak c.peek then toToken fuel true c.next else (crossed, c)

/-- Past the rest of a line that may hold only spaces and a comment. -/
def finishLine (c : Cursor) : Except Fault Cursor :=
  let c := (c.skipRun (· == ' ')).skipComment
  if isLineEnd c.peek then .ok c.lineBreak.2 else .error .malformed

end Cursor

end CallLint.Yaml

import CallLint.Text.Escape
import CallLint.Yaml.Cursor

/-!
# The texts of scalars

A scalar is written plainly, between quotes, or as an indented block. Each reader here starts at the first character of a
scalar and gives the text that is meant and the place after it.
-/

namespace CallLint.Yaml

namespace Plain

/-- How many characters from here belong to the word of a plain scalar. A colon ends it before a blank, and inside
brackets so do the bracket characters, the comma and the question mark. -/
def wordLength (flow : Bool) : List Char → Nat
  | [] => 0
  | ch :: rest =>
    let next := rest.headD '\x00'
    let colonEnds := isBlankOrEnd next || (flow && ",[]\x7b\x7d".toList.contains next)
    if isBlankOrEnd ch || (ch == ':' && colonEnds) || (flow && ",?[]\x7b\x7d".toList.contains ch) then 0
    else wordLength flow rest + 1

/-- The line breaks of the blank lines from here, or nothing at a document separator. -/
def emptyLines : Nat → List Char → Cursor → Option (List Char) × Cursor
  | 0, acc, c => (some acc, c)
  | fuel + 1, acc, c =>
    if c.peek == ' ' then emptyLines fuel acc c.next
    else if isBreak c.peek then
      let (br, c) := c.lineBreak
      if c.atSeparator then (none, c) else emptyLines fuel (acc ++ br) c
    else (some acc, c)

/-- What stands for the white space between two words: the spaces, or a fold of the line breaks. It is empty where the
scalar ends. -/
structure Gap where
  text : List Char
  crossed : Bool
  after : Cursor

/-- A single line feed folds to a space; further ones are kept. -/
def fold (first more : List Char) : List Char :=
  (if first != ['\n'] then first else if more.isEmpty then [' '] else []) ++ more

/-- The gap that begins here. -/
def gap (c : Cursor) : Gap :=
  let spaces := c.run (· == ' ')
  let c := c.skip spaces.length
  if isBreak c.peek then
    let (first, c) := c.lineBreak
    if c.atSeparator then ⟨[], true, c⟩
    else
      match emptyLines (c.rest.length + 1) [] c with
      | (some more, c) => ⟨fold first more, true, c⟩
      | (none, c) => ⟨[], true, c⟩
  else ⟨spaces, false, c⟩

/-- A plain scalar: its text, whether a line ended after its last word, and the place after it. Lines that continue it
are indented by `indent` at least, unless it stands in brackets. -/
def read (flow : Bool) (indent : Int) : Nat → List Char → Gap → List Char × Bool × Cursor
  | 0, acc, g => (acc, g.crossed, g.after)
  | fuel + 1, acc, g =>
    let c := g.after
    let length := if c.peek == '#' then 0 else wordLength flow c.rest
    if length == 0 then (acc, g.crossed, c)
    else
      let acc := acc ++ g.text ++ c.rest.take length
      let g := gap (c.skip length)
      let outdented := !flow && decide ((g.after.column : Int) < indent)
      if g.text.isEmpty || g.after.peek == '#' || outdented then (acc, g.crossed, g.after)
      else read flow indent fuel acc g

end Plain

/-- A plain scalar that begins here. -/
def plain (flow : Bool) (indent : Int) (c : Cursor) : List Char × Bool × Cursor :=
  Plain.read flow indent (c.rest.length + 1) [] ⟨[], false, c⟩

namespace Quote

/-- Escapes of one character. -/
def simpleEscapes : List (Char × Char) := [
  ('0', '\x00'), ('a', '\x07'), ('b', '\x08'), ('t', '\t'), ('\t', '\t'), ('n', '\n'), ('v', '\x0b'), ('f', '\x0c'),
  ('r', '\r'), ('e', '\x1b'), (' ', ' '), ('"', '"'), ('\\', '\\'), ('/', '/'), ('N', '\x85'), ('_', '\u00a0'),
  ('L', '\u2028'), ('P', '\u2029')]

/-- The number of hexadecimal digits after an escape. -/
def escapeWidth : Char → Option Nat
  | 'x' => some 2
  | 'u' => some 4
  | 'U' => some 8
  | _ => none

/-- The code point of hexadecimal digits. -/
def codePoint (digits : List Char) : Except Fault CodePoint :=
  match digits.mapM Text.hexValue? with
  | none => .error .malformed
  | some ds =>
    let n := ds.foldl (fun acc d => acc * 16 + d) 0
    match CodePoint.ofNat? n with
    | some p => .ok p
    | none => .error (if n < Nat.pow 2 31 then .noCodePoint else .escapeTooLarge)

/-- The line breaks of the blank lines from here. A document separator is refused. -/
def emptyLines : Nat → List Char → Cursor → Except Fault (List Char × Cursor)
  | 0, acc, c => .ok (acc, c)
  | fuel + 1, acc, c =>
    if c.atSeparator then .error .malformed
    else
      let c := c.skipRun fun ch => ch == ' ' || ch == '\t'
      if isBreak c.peek then
        let (br, c) := c.lineBreak
        emptyLines fuel (acc ++ br) c
      else .ok (acc, c)

/-- What the white space from here stands for. -/
def gap (c : Cursor) : Except Fault (List Char × Cursor) :=
  let blanks := c.run fun ch => ch == ' ' || ch == '\t'
  let c := c.skip blanks.length
  if c.peek == '\x00' then .error .malformed
  else if isBreak c.peek then do
    let (first, c) := c.lineBreak
    let (more, c) ← emptyLines (c.rest.length + 1) [] c
    return (Plain.fold first more, c)
  else .ok (blanks, c)

/-- What an escape stands for; the cursor is after the backslash. An escaped line break joins two lines. -/
def escape (c : Cursor) : Except Fault (Text × Cursor) :=
  let ch := c.peek
  match simpleEscapes.lookup ch, escapeWidth ch with
  | some r, _ => .ok ([.scalar r], c.next)
  | none, some width => do
    let digits := c.next.rest.take width
    if digits.length == width then
      let p ← codePoint digits
      return ([p], c.next.skip width)
    else .error .malformed
  | none, none =>
    if isBreak ch then do
      let c := c.lineBreak.2
      let (more, c) ← emptyLines (c.rest.length + 1) [] c
      return (Text.ofChars more, c)
    else .error .malformed

/-- The rest of a quoted scalar, its text gathered last first. -/
def read (double : Bool) : Nat → Text → Cursor → Except Fault (Text × Cursor)
  | 0, _, _ => .error .malformed
  | fuel + 1, acc, c =>
    let ch := c.peek
    let quote := if double then '"' else '\''
    if ch == quote then
      if !double && c.peekAt 1 == '\'' then read double fuel (.scalar '\'' :: acc) (c.skip 2)
      else .ok (acc.reverse, c.next)
    else if double && ch == '\\' then do
      let (t, c) ← escape c.next
      read double fuel (t.reverse ++ acc) c
    else if isBlankOrEnd ch then do
      let (t, c) ← gap c
      read double fuel ((Text.ofChars t).reverse ++ acc) c
    else read double fuel (.scalar ch :: acc) c.next

end Quote

/-- A quoted scalar that begins here. -/
def quotedScalar (double : Bool) (c : Cursor) : Except Fault (Text × Cursor) :=
  Quote.read double (c.rest.length + 1) [] c.next

namespace Block

/-- What happens to the line breaks at the end of a block: one is kept, none, or all. -/
inductive Chomping where
  | clip
  | strip
  | keep
deriving DecidableEq, Repr, Inhabited

/-- The chomping that a sign asks for. -/
def chomping? : Char → Option Chomping
  | '+' => some .keep
  | '-' => some .strip
  | _ => none

/-- An indentation of 1 to 9. -/
def width? (c : Char) : Option Nat := if c.isDigit then some (c.toNat - '0'.toNat) else none

/-- The head of a block: a sign and a width, in either order, each at most once. -/
def head (c : Cursor) : Except Fault (Chomping × Option Nat × Cursor) := do
  let (chomping, width, c) := match chomping? c.peek, width? c.peek with
    | some k, _ =>
      match width? c.next.peek with
      | some w => (k, some w, c.skip 2)
      | none => (k, none, c.next)
    | none, some w =>
      match chomping? c.next.peek with
      | some k => (k, some w, c.skip 2)
      | none => (.clip, some w, c.next)
    | none, none => (.clip, none, c)
  if width == some 0 then .error .malformed
  else if isSpaceOrEnd c.peek then return (chomping, width, ← c.finishLine)
  else .error .malformed

/-- The blank lines before a block: their breaks and the deepest column that spaces reach. -/
def leading : Nat → List Char → Nat → Cursor → List Char × Nat × Cursor
  | 0, acc, deepest, c => (acc, deepest, c)
  | fuel + 1, acc, deepest, c =>
    if c.peek == ' ' then leading fuel acc (max deepest c.next.column) c.next
    else if isBreak c.peek then
      let (br, c) := c.lineBreak
      leading fuel (acc ++ br) deepest c
    else (acc, deepest, c)

/-- Past the spaces before column `indent`. -/
def skipIndent (indent : Nat) (c : Cursor) : Cursor :=
  c.skip (min (c.run (· == ' ')).length (indent - c.column))

/-- The line breaks of the blank lines from here, up to a line that is not blank below the indentation. -/
def emptyLines (indent : Nat) : Nat → List Char → Cursor → List Char × Cursor
  | 0, acc, c => (acc, c)
  | fuel + 1, acc, c =>
    let c := skipIndent indent c
    if isBreak c.peek then
      let (br, c) := c.lineBreak
      emptyLines indent fuel (acc ++ br) c
    else (acc, c)

/-- Whether a line of the block begins here. -/
def atLine (indent : Nat) (c : Cursor) : Bool := c.column == indent && c.peek != '\x00'

/-- The lines of a block: the text so far, the break of its last line, the blank lines after it, and the place. A folded
block joins two lines that do not begin with a blank. -/
def lines (folded : Bool) (indent : Nat) :
    Nat → List Char → List Char → Cursor → List Char × List Char × List Char × Cursor
  | 0, acc, empty, c => (acc, [], empty, c)
  | fuel + 1, acc, empty, c =>
    let blank (c : Cursor) : Bool := c.peek == ' ' || c.peek == '\t'
    let body := c.run fun ch => !isLineEnd ch
    let acc := acc ++ empty ++ body
    let (br, after) := (c.skip body.length).lineBreak
    let (empty, after) := emptyLines indent (after.rest.length + 1) [] after
    if atLine indent after then
      let joint :=
        if folded && br == ['\n'] && !blank c && !blank after then (if empty.isEmpty then [' '] else []) else br
      lines folded indent fuel (acc ++ joint) empty after
    else (acc, br, empty, after)

/-- The line breaks that stay at the end. -/
def tail (k : Chomping) (br empty : List Char) : List Char :=
  match k with
  | .strip => []
  | .clip => br
  | .keep => br ++ empty

end Block

/-- A block scalar that begins here, inside a collection that is indented by `outer`. -/
def blockScalar (folded : Bool) (outer : Int) (c : Cursor) : Except Fault (List Char × Cursor) := do
  let (chomping, width, c) ← Block.head c.next
  let least := max 1 (outer + 1).toNat
  let fuel := c.rest.length + 1
  let (indent, empty, c) := match width with
    | some w =>
      let indent := least + w - 1
      (indent, Block.emptyLines indent fuel [] c)
    | none =>
      let (empty, deepest, c) := Block.leading fuel [] 0 c
      (max least deepest, empty, c)
  if Block.atLine indent c then
    let (text, br, empty, c) := Block.lines folded indent fuel [] empty c
    return (text ++ Block.tail chomping br empty, c)
  else return (Block.tail chomping [] empty, c)

end CallLint.Yaml

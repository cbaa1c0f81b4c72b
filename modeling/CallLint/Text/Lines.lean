import CallLint.Text.Utf8

/-!
# Lines

A line ends after a line feed, after a carriage return that no line feed follows, or at the end of the text. These
are the only breaks that line numbers count; a form feed or a Unicode line separator is part of its line. Lines keep
their breaks, so a text is the concatenation of its lines.
-/

namespace CallLint.Text

/-- Whether a line ends behind `c`, given what follows. -/
def endsLine (c : Char) (rest : List Char) : Bool :=
  c == '\n' || (c == '\r' && rest.head? != some '\n')

/-- The lines of a text, breaks included. -/
def splitLines : List Char → List (List Char)
  | [] => []
  | c :: cs =>
    if endsLine c cs then [c] :: splitLines cs
    else match splitLines cs with
      | [] => [[c]]
      | line :: lines => (c :: line) :: lines

/-- The break at the end of a line, if it has one. -/
def lineBreak? (line : List Char) : Option (List Char) :=
  match line.reverse with
  | '\n' :: '\r' :: _ => some ['\r', '\n']
  | '\n' :: _ => some ['\n']
  | '\r' :: _ => some ['\r']
  | _ => none

/-- The break of the first line that has one; a line feed if none has. -/
def newlineOf (lines : List (List Char)) : List Char :=
  (lines.findSome? lineBreak?).getD ['\n']

/-- Every line break as a line feed. -/
def unifyBreaks : List Char → List Char
  | [] => []
  | c :: cs =>
    if c == '\r' then
      match cs with
      | [] => ['\n']
      | d :: ds => if d == '\n' then '\n' :: unifyBreaks ds else '\n' :: unifyBreaks (d :: ds)
    else c :: unifyBreaks cs

/-- Why a line and byte column give no position in a text: there is no such line, or the column falls inside a
character. -/
inductive OffsetError where
  | noLine
  | insideCharacter
deriving DecidableEq, Repr

/-- The end of the slice that stops at `stop`; a negative stop counts from the end. -/
def sliceEnd (length : Nat) (stop : Int) : Nat :=
  if 0 ≤ stop then min stop.toNat length else (length + stop).toNat

/-- The element at an index, a negative one counting from the end. -/
def indexed? {α : Type} (xs : List α) (i : Int) : Option α :=
  if 0 ≤ i then xs[i.toNat]? else if -i ≤ xs.length then xs[(xs.length + i).toNat]? else none

/-- The number of characters before byte column `column` of line `line` (from 1). Lines past the end are empty, and a
column past the end of its line means the end. -/
def charOffset (lines : List (List Char)) (line column : Int) : Except OffsetError Nat :=
  let before := (lines.take (sliceEnd lines.length (line - 1))).foldr (fun l n => l.length + n) 0
  let current? := if line - 1 < lines.length then indexed? lines (line - 1) else some []
  match current? with
  | none => .error .noLine
  | some current =>
    match Utf8.charsInBytes? (sliceEnd (Utf8.size current) column) current with
    | none => .error .insideCharacter
    | some n => .ok (before + n)

end CallLint.Text

/-!
# Glob patterns

`*` stands for any text, slashes included, `?` for any character, and brackets for one character of a set. There is no
way to quote a special character but to put it into brackets.
-/

namespace CallLint.Files

/-- Parts of a pattern. -/
inductive Glob where
  /-- Any text. -/
  | star
  /-- Any character. -/
  | any
  /-- This character. -/
  | exact (c : Char)
  /-- A character in one of the ranges, or in none of them. -/
  | oneOf (negated : Bool) (ranges : List (Char × Char))
deriving DecidableEq, Repr

namespace Glob

/-- A character of a set as it is written: a hyphen that makes a range is told from other characters. -/
inductive SetChar where
  | plain (c : Char)
  | hyphen
deriving DecidableEq, Repr

/-- The character itself. -/
def SetChar.char : SetChar → Char
  | plain c => c
  | hyphen => '-'

/-- Cuts a set at the hyphens that make ranges: a piece has at least `least` characters before the next one. -/
def cutAtHyphens : Nat → List Char → List (List Char)
  | _, [] => [[]]
  | least, c :: cs =>
    if least == 0 && c == '-' then [] :: cutAtHyphens 2 cs
    else match cutAtHyphens (least - 1) cs with
      | piece :: pieces => (c :: piece) :: pieces
      | [] => [[c]]

/-- A hyphen at the end belongs to the piece before it. -/
def closeLast : List (List Char) → List (List Char)
  | [piece, []] => [piece ++ ['-']]
  | piece :: pieces => piece :: closeLast pieces
  | [] => []

/-- Joins pieces whose range would be empty, from the right; the two characters around the hyphen are dropped. -/
def dropEmptyRanges : List (List Char) → List (List Char)
  | [] => []
  | piece :: pieces =>
    match dropEmptyRanges pieces with
    | [] => [piece]
    | next :: rest =>
      match piece.getLast?, next.head? with
      | some a, some b => if b < a then (piece.dropLast ++ next.tail) :: rest else piece :: next :: rest
      | _, _ => piece :: next :: rest

/-- The characters of a set with the hyphens that make ranges. -/
def setChars (body : List Char) : List SetChar :=
  if !body.contains '-' then body.map .plain
  else
    let least := if body.head? == some '!' then 2 else 1
    let pieces := dropEmptyRanges (closeLast (cutAtHyphens least body))
    (pieces.map fun p => p.map SetChar.plain).intersperse [.hyphen] |>.flatten

/-- The ranges of a set. -/
def rangesOf : List SetChar → List (Char × Char)
  | .plain a :: .hyphen :: b :: rest => (a, b.char) :: rangesOf rest
  | a :: rest => (a.char, a.char) :: rangesOf rest
  | [] => []

/-- The part that a set in brackets stands for. -/
def ofSet (body : List Char) : Glob :=
  match setChars body with
  | [.plain '!'] => any
  | .plain '!' :: rest => oneOf true (rangesOf rest)
  | cs => oneOf false (rangesOf cs)

/-- The body of a set, up to its closing bracket, and how much of the pattern it takes; a bracket that comes first, also
behind `!`, belongs to the set. -/
def setBody? (cs : List Char) : Option (List Char) :=
  let opening := match cs with
    | '!' :: ']' :: _ => 2
    | '!' :: _ => 1
    | ']' :: _ => 1
    | _ => 0
  let rest := (cs.drop opening).takeWhile (· != ']')
  if opening + rest.length < cs.length then some (cs.take opening ++ rest) else none

/-- Reads a pattern; `skip` characters belong to a set that has been read. -/
def parseFrom : Nat → List Char → List Glob
  | _, [] => []
  | skip + 1, _ :: cs => parseFrom skip cs
  | 0, c :: cs =>
    if c == '*' then star :: parseFrom 0 cs
    else if c == '?' then any :: parseFrom 0 cs
    else if c == '[' then
      match setBody? cs with
      | some body => ofSet body :: parseFrom (body.length + 1) cs
      | none => exact '[' :: parseFrom 0 cs
    else exact c :: parseFrom 0 cs

/-- Reads a pattern. -/
def parse (cs : List Char) : List Glob := parseFrom 0 cs

/-- Whether a part stands for a character. -/
def accepts (g : Glob) (c : Char) : Bool :=
  match g with
  | star | any => true
  | exact d => c == d
  | oneOf negated ranges => (ranges.any fun (lo, hi) => decide (lo ≤ c) && decide (c ≤ hi)) != negated

/-- From the places where the rest of a pattern matches, those where it matches behind any text. -/
def starRow : List Bool → List Bool
  | [] => []
  | b :: bs =>
    match starRow bs with
    | [] => [b]
    | later :: rest => (b || later) :: later :: rest

/-- From the places where the rest of a pattern matches, those where it matches behind one character. -/
def stepRow (g : Glob) : List Char → List Bool → List Bool
  | c :: cs, _ :: b :: bs => (b && g.accepts c) :: stepRow g cs (b :: bs)
  | _, _ => [false]

/-- For each place of a text, whether the pattern matches what follows it. -/
def matchRow (text : List Char) : List Glob → List Bool
  | [] => List.replicate text.length false ++ [true]
  | star :: gs => starRow (matchRow text gs)
  | g :: gs => stepRow g text (matchRow text gs)

/-- Whether a pattern matches a text. -/
def isMatch (pattern text : List Char) : Bool := (matchRow text (parse pattern)).headD false

end Glob

end CallLint.Files

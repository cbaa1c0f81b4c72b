import CallLint.Source.Ast
import CallLint.Text.Escape

/-!
# Number literals

Integers in four bases, real numbers and imaginary numbers. Underscores may stand between digits. A literal may be
followed directly by a few reserved words, but by no other letter or digit.
-/

namespace CallLint.Source

open Decimal

/-- An ASCII digit. -/
def isDigit (c : Char) : Bool := '0' ≤ c && c ≤ '9'

/-- What may continue a name as far as splitting into tokens goes: ASCII letters and digits, the underscore, and
everything beyond ASCII. -/
def isNameChar (c : Char) : Bool :=
  ('a' ≤ c && c ≤ 'z') || ('A' ≤ c && c ≤ 'Z') || isDigit c || c == '_' || 128 ≤ c.toNat

/-- The digits of a run in which underscores separate digits, and the rest. `due` says that a digit has to come. -/
def scanDigits (ok : Char → Bool) (due : Bool) : List Char → Option (List Char × List Char)
  | [] => if due then none else some ([], [])
  | c :: cs =>
    if ok c then (scanDigits ok false cs).map fun p => (c :: p.1, p.2)
    else if due then none
    else if c == '_' then scanDigits ok true cs
    else some ([], c :: cs)

/-- The value of digits in a base. -/
def digitsValue (base : Nat) (ds : List Char) : Nat :=
  ds.foldl (fun n c => n * base + (Text.hexValue? c).getD 0) 0

/-- Whether the rest starts with `word`, and the word ends there. -/
def startsWord (word rest : List Char) : Bool :=
  word.isPrefixOf rest && !((rest.drop word.length).head?.any isNameChar)

/-- Whether a number may end where `rest` begins. -/
def numberEnds (rest : List Char) : Bool :=
  match rest with
  | [] => true
  | c :: cs =>
    if c == 'i' && (cs.head?.any fun d => d == 'f' || d == 'n' || d == 's') then true
    else if ["and", "else", "for", "or", "not"].any fun w => startsWord w.toList rest then true
    else !isNameChar c

/-- The longest decimal integer literal that is read. -/
def maxDecimalDigits : Nat := 4300

/-- An integer in base 16, 8 or 2, after its two-character prefix. -/
def scanBased (base : Nat) (ok : Char → Bool) (cs : List Char) : Option (Literal × List Char) :=
  let cs := if cs.head? == some '_' then cs.tail else cs
  match scanDigits ok true cs with
  | none => none
  | some (ds, rest) =>
    if rest.head?.any isDigit || !numberEnds rest then none
    else some (.int (digitsValue base ds), rest)

/-- A real number with the given digits, of which `places` are behind the point, and exponent. -/
def realOf (ds : List Char) (places : Nat) (exponent : Int) : Binary64 :=
  Binary64.ofDecimal false (digitsValue 10 ds) (exponent - places)

/-- The end of a real number: an imaginary unit, or nothing. -/
def scanUnit (x : Binary64) (rest : List Char) : Option (Literal × List Char) :=
  match rest with
  | c :: cs =>
    if c == 'j' || c == 'J' then (if numberEnds cs then some (.imaginary x, cs) else none)
    else if numberEnds rest then some (.real x, rest) else none
  | [] => some (.real x, [])

/-- What a number is when no exponent follows: `whole` for a literal without a point. -/
def scanNoExponent (ds : List Char) (places : Nat) (whole : Option Literal) (rest : List Char) :
    Option (Literal × List Char) :=
  match whole, rest.head? with
  | some v, c => if c == some 'j' || c == some 'J' then scanUnit (realOf ds places 0) rest
      else if numberEnds rest then some (v, rest) else none
  | none, _ => scanUnit (realOf ds places 0) rest

/-- An optional exponent, then the end of the number. An `e` that starts no exponent may start `else`. -/
def scanExponent (ds : List Char) (places : Nat) (whole : Option Literal) (rest : List Char) :
    Option (Literal × List Char) :=
  match rest with
  | c :: cs =>
    if c == 'e' || c == 'E' then
      let sign := cs.head?.any fun d => d == '+' || d == '-'
      let body := if sign then cs.tail else cs
      if body.head?.any isDigit then
        match scanDigits isDigit false body with
        | none => none
        | some (es, rest) =>
          let e : Int := digitsValue 10 es
          scanUnit (realOf ds places (if cs.head? == some '-' then -e else e)) rest
      else if sign || !numberEnds rest then none
      else some (whole.getD (.real (realOf ds places 0)), rest)
    else scanNoExponent ds places whole rest
  | [] => scanNoExponent ds places whole rest

/-- What follows the point of a number with the digits `ds` in front of it. -/
def scanFraction (ds cs : List Char) : Option (Literal × List Char) :=
  if cs.head?.any isDigit then
    match scanDigits isDigit false cs with
    | none => none
    | some (fs, rest) => scanExponent (ds ++ fs) fs.length none rest
  else scanExponent ds 0 none cs

/-- A decimal number. Zeros may lead an integer only if it is zero. -/
def scanDecimal (cs : List Char) : Option (Literal × List Char) :=
  match scanDigits isDigit false cs with
  | none => none
  | some (ds, rest) =>
    let leading := ds.head? == some '0' && ds.any (· != '0')
    let whole : Literal := if leading then .real (realOf ds 0 0) else .int (digitsValue 10 ds)
    match rest with
    | '.' :: cs => scanFraction ds cs
    | c :: _ =>
      if leading && !(c == 'e' || c == 'E' || c == 'j' || c == 'J') then none
      else limit ds (scanExponent ds 0 (some whole) rest)
    | [] => if leading then none else limit ds (scanExponent ds 0 (some whole) rest)
where
  /-- Refuses an integer with too many digits. -/
  limit (ds : List Char) : Option (Literal × List Char) → Option (Literal × List Char)
    | some (.int n, rest) => if maxDecimalDigits < ds.length then none else some (.int n, rest)
    | other => other

/-- The number that a text starting with a digit, or with a point and a digit, starts with. -/
def scanNumber (cs : List Char) : Option (Literal × List Char) :=
  match cs with
  | '.' :: rest => scanFraction [] rest
  | '0' :: c :: rest =>
    if c == 'x' || c == 'X' then scanBased 16 (fun d => (Text.hexValue? d).isSome) rest
    else if c == 'o' || c == 'O' then scanBased 8 (fun d => (Text.octalValue? d).isSome) rest
    else if c == 'b' || c == 'B' then scanBased 2 (fun d => d == '0' || d == '1') rest
    else scanDecimal cs
  | _ => scanDecimal cs

end CallLint.Source

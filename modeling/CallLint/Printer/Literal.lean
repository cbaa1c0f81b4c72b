import CallLint.Decimal.Shortest
import CallLint.Sorting
import CallLint.Text.Quoted
import CallLint.Tree.Basic

/-!
# Literals in printed expressions

The spelling of constants. Where a backslash is not allowed, inside the fields of format strings, a quote is chosen
that needs none if there is one.
-/

namespace CallLint.Printer

open CallLint.Tree (Fault)
open Decimal

/-- A quote, single or tripled. -/
abbrev Quote := List Char

/-- The quotes of a literal, in the order in which they are tried. -/
def allQuotes : List Quote := [['\''], ['"'], ['"', '"', '"'], ['\'', '\'', '\'']]

/-- Whether a quote may enclose line breaks. -/
def Quote.isLong (q : Quote) : Bool := q.length == 3

/-- Whether `part` occurs in a list. -/
def occursIn (part : List Char) : List Char → Bool
  | [] => part.isEmpty
  | c :: cs => part.isPrefixOf (c :: cs) || occursIn part cs

/-- A code point of a literal with as few escapes as possible: line feeds and tabs stand as they are unless `whitespace`
asks to escape them, a backslash and what is not printable is escaped. -/
def plainEscape (whitespace : Bool) (c : CodePoint) : List Char :=
  match c with
  | .scalar x =>
    if !whitespace && (x == '\n' || x == '\t') then [x]
    else if x == '\\' then ['\\', '\\']
    else if Text.isPrintable c then [x] else Text.controlEscape c
  | .surrogate _ => Text.controlEscape c

/-- The body of a literal and the quotes that fit it, out of `quotes`. If none fits, the body is that of the usual
literal, with its quote. -/
def fitQuotes (whitespace : Bool) (quotes : List Quote) (t : Text) : List Char × List Quote :=
  let body := t.flatMap (plainEscape whitespace)
  let fits (q : Quote) : Bool := (q.isLong || !body.contains '\n') && !occursIn q body
  let possible := quotes.filter fits
  match possible with
  | [] =>
    let literal := Text.quoted t
    let mark := literal.headD '\''
    (literal.tail.dropLast, [(quotes.find? (·.contains mark)).getD [mark]])
  | _ =>
    match body.getLast? with
    | none => (body, possible)
    | some last =>
      let clashes (q : Quote) : Bool := q.head? == some last
      let sorted := possible.filter (!clashes ·) ++ possible.filter clashes
      if sorted.head?.any clashes then (body.dropLast ++ ['\\', last], sorted) else (body, sorted)

/-- The body between the first of the quotes. -/
def enclose (body : List Char) (quotes : List Quote) : List Char :=
  let q := quotes.headD []
  q ++ body ++ q

/-- A text as a literal that avoids backslashes where it can. -/
def avoidingBackslashes (t : Text) : List Char :=
  let (body, quotes) := fitQuotes false allQuotes t
  enclose body quotes

/-- The most digits of a whole number that can be written. -/
def maxDigits : Nat := 4300

/-- A whole number. -/
def writeInt (n : Int) : Except Fault (List Char) :=
  let ds := digitsOf n.natAbs
  if maxDigits < ds.length then .error .unwritable else .ok (if n < 0 then '-' :: ds else ds)

/-- A number that may be infinite or none: written as a literal too large to be finite, or a difference of two. -/
def writeReal (l : Layout) (x : Binary64) : List Char :=
  let huge := "1e309".toList
  match x with
  | .infinite negative => if negative then '-' :: huge else huge
  | .nan => ['('] ++ huge ++ ['-'] ++ huge ++ [')']
  | x => x.write l

mutual

/-- The spelling of a value inside a list. A node has none. -/
def writeValue : Tree → Except Fault (List Char)
  | .null => .ok "None".toList
  | .bool b => .ok (if b then "True".toList else "False".toList)
  | .int n => writeInt n
  | .real x => .ok (x.write realLayout)
  | .imaginary x => .ok (x.write imaginaryLayout ++ ['j'])
  | .text t => .ok (Text.quoted t)
  | .bytes bs => .ok (Text.quotedBytes bs)
  | .ellipsis => .ok "Ellipsis".toList
  | .list ts =>
    match writeValues ts with
    | .ok cs => .ok (['['] ++ cs ++ [']'])
    | .error e => .error e
  | .node _ _ => .error .unwritable

/-- The spellings of values, with commas between. -/
def writeValues : List Tree → Except Fault (List Char)
  | [] => .ok []
  | t :: ts =>
    match writeValue t, writeValues ts with
    | .ok a, .ok b => .ok (if ts.isEmpty then a else a ++ [',', ' '] ++ b)
    | .error e, _ => .error e
    | _, .error e => .error e

end

/-- The spelling of the value of a constant. -/
def writeConstant (avoid : Bool) (v : Tree) : Except Fault (List Char) :=
  match v with
  | .real x => .ok (writeReal realLayout x)
  | .imaginary x => .ok (writeReal imaginaryLayout x ++ ['j'])
  | .text t => if avoid then .ok (avoidingBackslashes t) else .ok (Text.quoted t)
  | .ellipsis => .ok "...".toList
  | v => writeValue v

end CallLint.Printer

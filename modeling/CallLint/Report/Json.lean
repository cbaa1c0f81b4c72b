import CallLint.Decimal.Shortest
import CallLint.Text.Quoted

/-!
# JSON text

Values and their indented text. The text is plain ASCII: every other character is written as one or two numeric
escapes of four digits.
-/

namespace CallLint.Report

open Decimal

/-- JSON values; the members of an object keep their order. -/
inductive Json where
  | null
  | bool (b : Bool)
  | int (n : Int)
  | real (x : Binary64)
  | text (t : Text)
  | array (items : List Json)
  | object (members : List (Text × Json))
deriving Inhabited

namespace Json

/-- The text of a string. -/
def ofString (s : String) : Json := text (Text.ofString s)

/-- A member with its name. -/
def member (name : String) (v : Json) : Text × Json := (Text.ofString name, v)

/-- One numeric escape. -/
def unitEscape (n : Nat) : List Char := '\\' :: 'u' :: Text.hexDigits 4 n

/-- A numeric escape of a code point, two for one beyond the first 65536. -/
def numericEscape (n : Nat) : List Char :=
  if n < 0x10000 then unitEscape n
  else unitEscape (0xD800 + (n - 0x10000) / 0x400) ++ unitEscape (0xDC00 + (n - 0x10000) % 0x400)

/-- A code point inside a string. -/
def escape (c : CodePoint) : List Char :=
  match c with
  | .scalar '"' => ['\\', '"']
  | .scalar '\\' => ['\\', '\\']
  | .scalar '\n' => ['\\', 'n']
  | .scalar '\r' => ['\\', 'r']
  | .scalar '\t' => ['\\', 't']
  | .scalar '\x0c' => ['\\', 'f']
  | .scalar '\x08' => ['\\', 'b']
  | .scalar x => if 0x20 ≤ x.toNat && x.toNat < 0x7F then [x] else numericEscape x.toNat
  | .surrogate _ => numericEscape c.toNat

/-- A string with its quotes. -/
def quote (t : Text) : List Char := '"' :: (t.flatMap escape ++ ['"'])

/-- A whole number. -/
def digits (n : Int) : List Char := if n < 0 then '-' :: digitsOf n.natAbs else digitsOf n.natAbs

/-- A line break and the indentation of a depth. -/
def breakAt (depth : Nat) : List Char := '\n' :: List.replicate (2 * depth) ' '

mutual

/-- The text of a value at a depth. -/
def writeAt (depth : Nat) : Json → List Char
  | null => "null".toList
  | bool b => if b then "true".toList else "false".toList
  | int n => digits n
  | real x => x.write realLayout
  | text t => quote t
  | array [] => ['[', ']']
  | array (v :: vs) => ['['] ++ breakAt (depth + 1) ++ writeItems (depth + 1) (v :: vs) ++ breakAt depth ++ [']']
  | object [] => ['\x7b', '\x7d']
  | object (m :: ms) =>
    ['\x7b'] ++ breakAt (depth + 1) ++ writeMembers (depth + 1) (m :: ms) ++ breakAt depth ++ ['\x7d']

/-- Items of an array, with commas between. -/
def writeItems (depth : Nat) : List Json → List Char
  | [] => []
  | [v] => writeAt depth v
  | v :: vs => writeAt depth v ++ [','] ++ breakAt depth ++ writeItems depth vs

/-- Members of an object, with commas between. -/
def writeMembers (depth : Nat) : List (Text × Json) → List Char
  | [] => []
  | [(k, v)] => quote k ++ [':', ' '] ++ writeAt depth v
  | (k, v) :: ms => quote k ++ [':', ' '] ++ writeAt depth v ++ [','] ++ breakAt depth ++ writeMembers depth ms

end

/-- The text of a value. -/
def write (v : Json) : List Char := writeAt 0 v

end Json

end CallLint.Report

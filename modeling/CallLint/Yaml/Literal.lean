import CallLint.Decimal.Arithmetic
import CallLint.Text.Digit
import CallLint.Text.Escape
import CallLint.Yaml.Kind

/-!
# Values of scalars

`Literal.value` is the value of a scalar of a given kind. A text whose kind was seen in its form always has a value, but for
days that no calendar shows and numbers made of underscores; a tag can ask for a kind that the text does not fit.
-/

namespace CallLint.Yaml.Literal

open Decimal

/-- The longest decimal number that is read. -/
def maxDigits : Nat := 4300

/-- The value of a digit in a base up to 16. -/
def digit? (base : Nat) (c : Char) : Option Nat :=
  match Text.hexValue? c with
  | some d => if d < base then some d else none
  | none => none

/-- The sign at the beginning of a text, and the rest. -/
def takeSign : List Char → Bool × List Char
  | '-' :: rest => (true, rest)
  | '+' :: rest => (false, rest)
  | cs => (false, cs)

/-- The letter that may stand after a zero at the beginning of a number in a base. -/
def baseLetter : Nat → Option Char
  | 2 => some 'b'
  | 8 => some 'o'
  | 16 => some 'x'
  | _ => none

/-- The digits after the mark of the base, if there is one. -/
def withoutMark (base : Nat) (cs : List Char) : List Char :=
  match cs with
  | '0' :: c :: rest => if baseLetter base == some c.toLower then rest else cs
  | _ => cs

/-- A whole number in a base: a sign, the mark of the base and digits of any script, with blanks around them. -/
def whole (base : Nat) (cs : List Char) : Except Fault Int :=
  let (negative, cs) := takeSign (Text.numeral cs)
  let ds := withoutMark base cs
  match ds.mapM (digit? base) with
  | none => .error .notNumber
  | some values =>
    if ds.isEmpty || (base == 10 && decide (maxDigits < ds.length)) then .error .notNumber
    else
      let n := values.foldl (fun n d => n * base + d) 0
      .ok (if negative then -(n : Int) else n)

/-- The value of parts in base 60, the most significant first. -/
def sixties (parts : List Int) : Int := parts.foldl (fun n d => n * 60 + d) 0

/-- A whole number: decimal, binary, octal, hexadecimal, or in base 60. Underscores are left out. -/
def int (cs : List Char) : Except Fault Int := do
  let (negative, cs) := takeSign (cs.filter (· != '_'))
  let n ← match cs with
    | [] => .error .noDigits
    | ['0'] => .ok 0
    | '0' :: 'b' :: rest => whole 2 rest
    | '0' :: 'x' :: rest => whole 16 rest
    | '0' :: _ => whole 8 cs
    | _ => if cs.contains ':' then sixties <$> (Kind.colonParts cs).mapM (whole 10) else whole 10 cs
  return if negative then -n else n

/-- Digits of a decimal and how many of them stand after the point. -/
def mantissa? (cs : List Char) : Option (List Char × Nat × List Char) :=
  let (before, rest) := cs.span Char.isDigit
  let (after, rest) := match rest with
    | '.' :: rest => rest.span Char.isDigit
    | rest => ([], rest)
  if before.isEmpty && after.isEmpty then none else some (before ++ after, after.length, rest)

/-- An exponent, or nothing. -/
def exponent? : List Char → Option Int
  | [] => some 0
  | e :: rest =>
    let (negative, ds) := takeSign rest
    if (e == 'e' || e == 'E') && !ds.isEmpty && ds.all Char.isDigit then
      let n := ds.foldl (fun n d => n * 10 + (d.toNat - '0'.toNat)) 0
      some (if negative then -(n : Int) else n)
    else none

/-- A decimal number in digits of any script with blanks around it, or one of the words for infinity and no number. -/
def decimal (cs : List Char) : Except Fault Binary64 :=
  let (negative, cs) := takeSign (Text.numeral cs)
  let word := cs.map Char.toLower
  if word == "inf".toList || word == "infinity".toList then .ok (.infinite negative)
  else if word == "nan".toList then .ok .nan
  else
    match mantissa? cs with
    | none => .error .notNumber
    | some (ds, places, rest) =>
      match exponent? rest with
      | none => .error .notNumber
      | some e =>
        let n := ds.foldl (fun n d => n * 10 + (d.toNat - '0'.toNat)) 0
        .ok (.ofDecimal negative n (e - places))

/-- The value of parts in base 60, the least significant first, the place of the first worth `scale`. A place must be
worth a finite number. -/
def addSixties (scale : Nat) (total : Binary64) : List Binary64 → Except Fault Binary64
  | [] => .ok total
  | part :: parts =>
    match Binary64.ofRatio false scale 1 with
    | .infinite _ => .error .placeTooLarge
    | worth => addSixties (scale * 60) (total.add (part.mul worth)) parts

/-- A number with a decimal point and no sign, in base 10 or 60, an infinity, or no number. -/
def unsignedReal (cs : List Char) : Except Fault Binary64 :=
  if cs == ".inf".toList then .ok (.infinite false)
  else if cs == ".nan".toList then .ok .nan
  else if cs.contains ':' then do addSixties 1 .zero (← (Kind.colonParts cs).mapM decimal).reverse
  else decimal cs

/-- A number with a decimal point, perhaps with a sign. Underscores are left out, and letters may be of any case. -/
def real (cs : List Char) : Except Fault Binary64 :=
  match (cs.filter (· != '_')).map Char.toLower with
  | [] => .error .noDigits
  | cs =>
    let (negative, cs) := takeSign cs
    (if negative then Binary64.neg else id) <$> unsignedReal cs

/-- A truth value by its word, in any case. -/
def truth (cs : List Char) : Except Fault Bool :=
  match Kind.truthWords.lookup (cs.map Char.toLower) with
  | some b => .ok b
  | none => .error .notTruth

/-- A day or point in time. -/
def time (cs : List Char) : Except Fault Value :=
  match Stamp.read? (Kind.withoutLast cs) with
  | none => .error .notTime
  | some s =>
    match s.value? with
    | some v => .ok v
    | none => .error .noSuchTime

/-- The six bits of a character of base 64. -/
def sixBits? (c : Char) : Option Nat :=
  if c.isUpper then some (c.toNat - 'A'.toNat)
  else if c.isLower then some (c.toNat - 'a'.toNat + 26)
  else if c.isDigit then some (c.toNat - '0'.toNat + 52)
  else if c == '+' then some 62
  else if c == '/' then some 63
  else none

/-- The bytes of base 64. `count` characters of the group of four are read, `left` holds their bits not yet written, and
`pads` equals signs came after them. Other characters are passed over; enough equals signs end the text. -/
def base64 (count left pads : Nat) : List Char → Option (List UInt8)
  | [] => if count == 0 then some [] else none
  | c :: rest =>
    if c == '=' then
      if 2 ≤ count && 4 ≤ count + pads + 1 then some []
      else base64 count left (if 2 ≤ count then pads + 1 else pads) rest
    else
      match sixBits? c with
      | none => base64 count left pads rest
      | some v =>
        match count with
        | 0 => base64 1 v 0 rest
        | 1 => (UInt8.ofNat (left * 4 + v / 16) :: ·) <$> base64 2 (v % 16) 0 rest
        | 2 => (UInt8.ofNat (left * 16 + v / 4) :: ·) <$> base64 3 (v % 4) 0 rest
        | _ => (UInt8.ofNat (left * 64 + v) :: ·) <$> base64 0 0 0 rest

/-- The value of a scalar of a kind. -/
def value (k : Kind) (t : Text) : Except Fault Value :=
  let cs := t.map fun p => p.char?.getD '\ufffd'
  match k with
  | .null => .ok .null
  | .text => .ok (.text t)
  | .bool => .bool <$> truth cs
  | .int => .int <$> int cs
  | .real => .real <$> real cs
  | .timestamp => time cs
  | .binary =>
    match base64 0 0 0 cs with
    | some bs => if cs.all fun c => c.toNat < 128 then .ok (.bytes bs) else .error .malformed
    | none => .error .malformed
  | _ => .error .malformed

end CallLint.Yaml.Literal

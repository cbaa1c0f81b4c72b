import CallLint.Text.CharName
import CallLint.Text.CodePoint

/-!
# Escapes in literals

What the body of a literal stands for. Escapes are read one character at a time, so that the reader is a recursion on
the body; the state says how much of an escape has been read. An unknown escape stands for itself, backslash
included, and a backslash at the very end stands for itself.
-/

namespace CallLint.Text

/-- The value of a hexadecimal digit. -/
def hexValue? (c : Char) : Option Nat :=
  if '0' ≤ c && c ≤ '9' then some (c.toNat - '0'.toNat)
  else if 'a' ≤ c && c ≤ 'f' then some (c.toNat - 'a'.toNat + 10)
  else if 'A' ≤ c && c ≤ 'F' then some (c.toNat - 'A'.toNat + 10)
  else none

/-- The value of an octal digit. -/
def octalValue? (c : Char) : Option Nat :=
  if '0' ≤ c && c ≤ '7' then some (c.toNat - '0'.toNat) else none

/-- The character of a one-letter escape. -/
def letterEscape? : Char → Option Char
  | '\\' => some '\\'
  | '\'' => some '\''
  | '"' => some '"'
  | 'a' => some '\x07'
  | 'b' => some '\x08'
  | 'f' => some '\x0c'
  | 'n' => some '\n'
  | 'r' => some '\r'
  | 't' => some '\t'
  | 'v' => some '\x0b'
  | _ => none

/-- How much of an escape has been read: nothing, its backslash, some octal digits, some of a fixed number of
hexadecimal digits, `\N`, or part of a character name. -/
inductive EscapeState where
  | plain
  | slash
  | octal (left value : Nat)
  | hex (left value : Nat)
  | nameOpen
  | name (reversed : List Char)
deriving DecidableEq, Repr

/-- The state after the backslash and `c`, with what `c` completes; `none` for an unknown escape. -/
def EscapeState.afterSlash (c : Char) : Option (Text × EscapeState) :=
  match letterEscape? c, octalValue? c with
  | some x, _ => some ([.scalar x], .plain)
  | none, some d => some ([], .octal 2 d)
  | none, none =>
    match c with
    | '\n' => some ([], .plain)
    | 'x' => some ([], .hex 2 0)
    | 'u' => some ([], .hex 4 0)
    | 'U' => some ([], .hex 8 0)
    | 'N' => some ([], .nameOpen)
    | _ => none

/-- The state after a character outside escapes. -/
def EscapeState.afterPlain (c : Char) : Text × EscapeState :=
  if c == '\\' then ([], .slash) else ([.scalar c], .plain)

/-- One character: what it adds to the text, and the next state. -/
def EscapeState.step (s : EscapeState) (c : Char) : Option (Text × EscapeState) :=
  match s with
  | .plain => some (afterPlain c)
  | .slash => (afterSlash c).orElse fun _ => some ([.scalar '\\', .scalar c], .plain)
  | .octal left value =>
    match left, octalValue? c with
    | left + 1, some d => some ([], .octal left (value * 8 + d))
    | _, _ => (CodePoint.ofNat? value).map fun p => (p :: (afterPlain c).1, (afterPlain c).2)
  | .hex left value =>
    match hexValue? c with
    | none => none
    | some d =>
      if left ≤ 1 then (CodePoint.ofNat? (value * 16 + d)).map fun p => ([p], .plain)
      else some ([], .hex (left - 1) (value * 16 + d))
  | .nameOpen => if c == '\x7b' then some ([], .name []) else none
  | .name reversed =>
    if c == '\x7d' then
      (charNamed reversed.reverse).bind fun n => (CodePoint.ofNat? n).map fun p => ([p], .plain)
    else some ([], .name (c :: reversed))

/-- What a body that ends in this state still adds; `none` inside an unfinished escape. -/
def EscapeState.finish : EscapeState → Option Text
  | .plain => some []
  | .slash => some [.scalar '\\']
  | .octal _ value => (CodePoint.ofNat? value).map ([·])
  | .hex _ _ | .nameOpen | .name _ => none

/-- The text that the rest of a body stands for. -/
def unescapeFrom (s : EscapeState) : List Char → Option Text
  | [] => s.finish
  | c :: cs =>
    match s.step c with
    | none => none
    | some (out, s') => (unescapeFrom s' cs).map (out ++ ·)

/-- The text that the body of a literal stands for, or `none` if an escape is malformed. -/
def unescape (body : List Char) : Option Text := unescapeFrom .plain body

/-- The body of a byte literal has numeric escapes of at most two hexadecimal or three octal digits, and octal
numbers count modulo 256. -/
def unescapeBytesFrom (s : EscapeState) : List Char → Option (List UInt8)
  | [] =>
    match s with
    | .plain => some []
    | .slash => some [0x5C]
    | .octal _ value => some [UInt8.ofNat value]
    | _ => none
  | c :: cs =>
    let byte := UInt8.ofNat c.toNat
    let plain : List UInt8 × EscapeState := if c == '\\' then ([], .slash) else ([byte], .plain)
    let next : Option (List UInt8 × EscapeState) :=
      match s with
      | .plain => some plain
      | .slash =>
        match letterEscape? c, octalValue? c with
        | some x, _ => some ([UInt8.ofNat x.toNat], .plain)
        | none, some d => some ([], .octal 2 d)
        | none, none =>
          if c == '\n' then some ([], .plain)
          else if c == 'x' then some ([], .hex 2 0)
          else some ([0x5C, byte], .plain)
      | .octal left value =>
        match left, octalValue? c with
        | left + 1, some d => some ([], .octal left (value * 8 + d))
        | _, _ => some (UInt8.ofNat value :: plain.1, plain.2)
      | .hex left value =>
        match hexValue? c with
        | none => none
        | some d =>
          if left ≤ 1 then some ([UInt8.ofNat (value * 16 + d)], .plain)
          else some ([], .hex (left - 1) (value * 16 + d))
      | _ => none
    match next with
    | none => none
    | some (out, s') => (unescapeBytesFrom s' cs).map (out ++ ·)

/-- The bytes that the body of a byte literal stands for. -/
def unescapeBytes (body : List Char) : Option (List UInt8) := unescapeBytesFrom .plain body

end CallLint.Text

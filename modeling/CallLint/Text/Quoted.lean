import CallLint.Text.Printable

/-!
# Quoted literals

The spelling of a text or a byte string as a literal. A text is quoted with `'` unless it holds a `'` and no `"`;
the quote, the backslash and what is not printable are escaped, everything else stands as it is. The result is plain
source text, so it holds no lone surrogate.
-/

namespace CallLint.Text

/-- Lower-case hexadecimal digits of `n`, padded with zeros to `width`. -/
def hexDigits (width n : Nat) : List Char :=
  let ds := Nat.toDigits 16 n
  List.replicate (width - ds.length) '0' ++ ds

/-- The numeric escape of code point number `n`, in the shortest of its three forms. -/
def numericEscape (n : Nat) : List Char :=
  if n < 0x100 then '\\' :: 'x' :: hexDigits 2 n
  else if n < 0x10000 then '\\' :: 'u' :: hexDigits 4 n
  else '\\' :: 'U' :: hexDigits 8 n

/-- A code point that always needs an escape: tab and line breaks by letter, else by number. -/
def controlEscape (c : CodePoint) : List Char :=
  match c with
  | .scalar '\t' => ['\\', 't']
  | .scalar '\n' => ['\\', 'n']
  | .scalar '\r' => ['\\', 'r']
  | c => numericEscape c.toNat

/-- A code point inside a literal with the given quote. -/
def escape (quote : Char) (c : CodePoint) : List Char :=
  match c with
  | .scalar x =>
    if x == quote || x == '\\' then ['\\', x]
    else if isPrintable c then [x] else controlEscape c
  | .surrogate _ => controlEscape c

/-- The quote of a literal: `"` exactly when the text has a `'` and no `"`. -/
def quoteFor (t : Text) : Char :=
  if t.contains (.scalar '\'') && !t.contains (.scalar '"') then '"' else '\''

/-- The literal of a text. -/
def quoted (t : Text) : List Char :=
  let q := quoteFor t
  q :: (t.flatMap (escape q) ++ [q])

/-- The literal of a byte string. -/
def quotedBytes (bs : List UInt8) : List Char :=
  let q := quoteFor (bs.map fun b => .scalar (Char.ofNat b.toNat))
  let body := bs.flatMap fun b =>
    let x := Char.ofNat b.toNat
    if x == q || x == '\\' then ['\\', x]
    else if 0x20 ≤ b.toNat && b.toNat < 0x7F then [x] else controlEscape (.scalar x)
  'b' :: q :: (body ++ [q])

end CallLint.Text

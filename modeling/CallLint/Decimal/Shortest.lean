import CallLint.Decimal.Binary64

/-!
# Shortest decimals

A finite number is written with the fewest digits that read back to it. The reals that round to `m · 2^q` form an
interval, ends included when `m` is even. On each decimal grid only the two neighbours of the value need a test; the
first grid with a hit gives the digits, and of two hits the nearer is taken.
-/

namespace CallLint.Decimal

/-- Digits and decimal exponent: the number `digits · 10^exponent`. -/
structure Scientific where
  digits : Nat
  exponent : Int
deriving DecidableEq, Repr, Inhabited

/-- The value `m · 2^q` in quarters of its last place, and the ends of the interval that rounds to it. -/
structure Neighbourhood where
  low : Nat
  value : Nat
  high : Nat
  unit : Int
  closed : Bool

/-- The neighbourhood of `m · 2^q`; below a power of two the lower half is narrower. -/
def neighbourhood (m : Nat) (q : Int) : Neighbourhood :=
  let low := if m == Nat.pow 2 52 && -1074 < q then 4 * m - 1 else 4 * m - 2
  { low := low, value := 4 * m, high := 4 * m + 2, unit := q - 2, closed := m % 2 == 0 }

/-- `num / den` for `n · 2^unit · 10^(-k)`. -/
def onGrid (n : Nat) (unit k : Int) : Nat × Nat :=
  let s := scaleTwo n 1 unit
  scaleTen s.1 s.2 (-k)

/-- Whether `f · 10^k` rounds to the value of the neighbourhood. -/
def Neighbourhood.hit (w : Neighbourhood) (k : Int) (f : Nat) : Bool :=
  let l := onGrid w.low w.unit k
  let h := onGrid w.high w.unit k
  if w.closed then l.1 ≤ f * l.2 && f * h.2 ≤ h.1 else l.1 < f * l.2 && f * h.2 < h.1

/-- The neighbour of the value on the grid `10^k` that reads back, the nearer of two. -/
def Neighbourhood.onGrid? (w : Neighbourhood) (k : Int) : Option Nat :=
  let v := onGrid w.value w.unit k
  let f := v.1 / v.2
  let r := v.1 % v.2
  match w.hit k f && 0 < f, w.hit k (f + 1) with
  | true, true => some (if 2 * r < v.2 || (2 * r == v.2 && f % 2 == 0) then f else f + 1)
  | true, false => some f
  | false, true => some (f + 1)
  | false, false => none

/-- The least `t ≥ start` with `den ≤ num · 10^t`, within `fuel` steps. -/
def climbTen (num den : Nat) : Nat → Nat → Nat
  | 0, t => t
  | fuel + 1, t => if den ≤ num * Nat.pow 10 t then t else climbTen num den fuel (t + 1)

/-- The greatest `e` with `10^e ≤ num / den`, for a number in the range of 64-bit numbers. -/
def floorLogTen (num den : Nat) : Int :=
  if den ≤ num then (digitCount (num / den) : Int) - 1 else -(climbTen num den 400 1 : Int)

/-- Digits without trailing zeros, the exponent adjusted. -/
def stripZeros : Nat → Nat → Int → Scientific
  | 0, digits, exponent => ⟨digits, exponent⟩
  | fuel + 1, digits, exponent =>
    if digits != 0 && digits % 10 == 0 then stripZeros fuel (digits / 10) (exponent + 1) else ⟨digits, exponent⟩

/-- The grids from one digit upwards, for a value whose leading digit stands at `10^e`. -/
def firstGrid (w : Neighbourhood) (e : Int) : Nat → Nat → Scientific
  | 0, n =>
    let k := e - n
    let v := onGrid w.value w.unit k
    ⟨roundDiv v.1 v.2, k⟩
  | fuel + 1, n =>
    let k := e - n
    match w.onGrid? k with
    | some f => stripZeros 20 f k
    | none => firstGrid w e fuel (n + 1)

/-- The shortest decimal that reads back to `m · 2^q`. -/
def shortest (m : Nat) (q : Int) : Scientific :=
  if m == 0 then ⟨0, 0⟩
  else
    let w := neighbourhood m q
    let v := scaleTwo w.value 1 w.unit
    firstGrid w (floorLogTen v.1 v.2) 17 0

/-- How a decimal is laid out: positional from `10^least` up to below `10^most`, else with an exponent of at least two
digits; `point` asks for `.0` after a whole number. -/
structure Layout where
  least : Int
  most : Int
  point : Bool

/-- Decimal digits of a natural. -/
def digitsOf (n : Nat) : List Char := Nat.toDigits 10 n

/-- The text of `digits · 10^exponent`. -/
def Layout.write (l : Layout) (s : Scientific) : List Char :=
  let ds := digitsOf s.digits
  let e := s.exponent + ds.length - 1
  if s.digits == 0 then (if l.point then ['0', '.', '0'] else ['0'])
  else if l.least ≤ e && e < l.most then
    if e < 0 then ['0', '.'] ++ List.replicate ((-e).toNat - 1) '0' ++ ds
    else if ds.length ≤ e.toNat + 1 then
      ds ++ List.replicate (e.toNat + 1 - ds.length) '0' ++ (if l.point then ['.', '0'] else [])
    else ds.take (e.toNat + 1) ++ ['.'] ++ ds.drop (e.toNat + 1)
  else
    let mantissa := match ds with
      | [] => []
      | [d] => [d]
      | d :: rest => d :: '.' :: rest
    let power := digitsOf e.natAbs
    mantissa ++ ['e', if e < 0 then '-' else '+'] ++ (if power.length < 2 then '0' :: power else power)

/-- Real literals: positional from `1e-4` to below `1e16`, and a whole number shows `.0`. -/
def realLayout : Layout := ⟨-4, 16, true⟩

/-- Imaginary parts: as real literals, but a whole number stays bare. -/
def imaginaryLayout : Layout := ⟨-4, 16, false⟩

/-- The text of a number in a layout. -/
def Binary64.write (l : Layout) : Binary64 → List Char
  | .finite negative m q => (if negative then ['-'] else []) ++ l.write (shortest m q)
  | .infinite negative => (if negative then ['-'] else []) ++ ['i', 'n', 'f']
  | .nan => ['n', 'a', 'n']

end CallLint.Decimal

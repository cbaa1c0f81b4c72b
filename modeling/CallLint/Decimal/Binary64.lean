/-!
# Binary floating-point numbers of 64 bits

A number is kept as its significand and exponent, so that reading and writing decimals is exact arithmetic on
naturals. `ofRatio` rounds to nearest, ties to even.
-/

namespace CallLint.Decimal

/-- A number `± m · 2^q` with `m < 2^53` and `q ≥ -1074`, where `m ≥ 2^52` or `q = -1074`; an infinity; no number. -/
inductive Binary64 where
  | finite (negative : Bool) (m : Nat) (q : Int)
  | infinite (negative : Bool)
  | nan
deriving DecidableEq, Repr, Inhabited

/-- `num / den` rounded to a natural, ties to even. -/
def roundDiv (num den : Nat) : Nat :=
  let f := num / den
  let r := num % den
  if 2 * r < den then f
  else if den < 2 * r then f + 1
  else if f % 2 == 0 then f else f + 1

/-- `num / den` with `2^k` moved to the side where it is a natural. -/
def scaleTwo (num den : Nat) (k : Int) : Nat × Nat :=
  if 0 ≤ k then (num * Nat.pow 2 k.toNat, den) else (num, den * Nat.pow 2 (-k).toNat)

/-- `num / den` with `10^k` moved to the side where it is a natural. -/
def scaleTen (num den : Nat) (k : Int) : Nat × Nat :=
  if 0 ≤ k then (num * Nat.pow 10 k.toNat, den) else (num, den * Nat.pow 10 (-k).toNat)

/-- The number of decimal digits of `n`; one for zero. -/
def digitCount (n : Nat) : Nat := (Nat.toDigits 10 n).length

namespace Binary64

/-- Zero. -/
def zero : Binary64 := finite false 0 (-1074)

/-- The greatest exponent `k` with `2^k ≤ num / den`, for positive arguments. -/
def floorLog (num den : Nat) : Int :=
  let e : Int := (num.log2 : Int) - den.log2
  let s := scaleTwo num den (-e)
  if s.2 ≤ s.1 then e else e - 1

/-- The nearest number to `num / den`. -/
def ofRatio (negative : Bool) (num den : Nat) : Binary64 :=
  if num == 0 then finite negative 0 (-1074)
  else
    let q := max (floorLog num den - 52) (-1074)
    let s := scaleTwo num den (-q)
    let m := roundDiv s.1 s.2
    let (m, q) := if m == Nat.pow 2 53 then (Nat.pow 2 52, q + 1) else (m, q)
    if 971 < q then infinite negative else finite negative m q

/-- The nearest number to `± digits · 10^exponent`. Exponents far out of range are decided without the power. -/
def ofDecimal (negative : Bool) (digits : Nat) (exponent : Int) : Binary64 :=
  let size := exponent + digitCount digits
  if digits == 0 then finite negative 0 (-1074)
  else if 330 < size then infinite negative
  else if size < -360 then finite negative 0 (-1074)
  else
    let s := scaleTen digits 1 exponent
    ofRatio negative s.1 s.2

end Binary64

end CallLint.Decimal

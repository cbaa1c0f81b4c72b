import CallLint.Decimal.Binary64

/-!
# Sums and products

Two finite numbers are added and multiplied exactly, and the result is rounded once. A sum of zero is negative only if both
summands are negative zeros; opposite infinities have no sum, and an infinity and zero no product.
-/

namespace CallLint.Decimal.Binary64

/-- A finite number as a fraction. -/
def ratio? : Binary64 → Option (Int × Nat)
  | finite negative m q =>
    let s := scaleTwo m 1 q
    some (if negative then -(s.1 : Int) else s.1, s.2)
  | _ => none

/-- The number with the other sign. -/
def neg : Binary64 → Binary64
  | finite negative m q => finite (!negative) m q
  | infinite negative => infinite (!negative)
  | nan => nan

/-- The nearest number to a sum. -/
def add : Binary64 → Binary64 → Binary64
  | nan, _ | _, nan => nan
  | infinite a, infinite b => if a == b then infinite a else nan
  | infinite a, finite _ _ _ => infinite a
  | finite _ _ _, infinite b => infinite b
  | finite a m q, finite b n r =>
    let low := min q r
    let unit (negative : Bool) (k : Nat) (e : Int) : Int :=
      if negative then -((k * Nat.pow 2 (e - low).toNat : Nat) : Int) else (k * Nat.pow 2 (e - low).toNat : Nat)
    let sum := unit a m q + unit b n r
    if sum == 0 then finite (a && b) 0 (-1074)
    else
      let s := scaleTwo sum.natAbs 1 low
      ofRatio (decide (sum < 0)) s.1 s.2

/-- The nearest number to a product. -/
def mul : Binary64 → Binary64 → Binary64
  | nan, _ | _, nan => nan
  | infinite a, infinite b => infinite (a != b)
  | infinite a, finite b n _ => if n == 0 then nan else infinite (a != b)
  | finite a m _, infinite b => if m == 0 then nan else infinite (a != b)
  | finite a m q, finite b n r =>
    let s := scaleTwo (m * n) 1 (q + r)
    ofRatio (a != b) s.1 s.2

end CallLint.Decimal.Binary64

/-!
# Precedence

How tightly expressions bind. An expression is parenthesised where its place asks for a tighter one.
-/

namespace CallLint.Printer

/-- Levels of binding, the loosest first. -/
inductive Precedence where
  | named | tuple | yield | test | or | and | not | compare | bitOr | bitXor | bitAnd | shift | arith | term
  | factor | power | await | atom
deriving DecidableEq, Repr

namespace Precedence

/-- The number of a level. -/
def toNat : Precedence → Nat
  | named => 1
  | tuple => 2
  | yield => 3
  | test => 4
  | or => 5
  | and => 6
  | not => 7
  | compare => 8
  | bitOr => 9
  | bitXor => 10
  | bitAnd => 11
  | shift => 12
  | arith => 13
  | term => 14
  | factor => 15
  | power => 16
  | await => 17
  | atom => 18

/-- The next tighter level; the tightest is its own successor. -/
def next : Precedence → Precedence
  | named => tuple
  | tuple => yield
  | yield => test
  | test => or
  | or => and
  | and => not
  | not => compare
  | compare => bitOr
  | bitOr => bitXor
  | bitXor => bitAnd
  | bitAnd => shift
  | shift => arith
  | arith => term
  | term => factor
  | factor => power
  | power => await
  | await => atom
  | atom => atom

/-- Whether a place of level `place` asks for parentheses around an expression of level `own`. -/
def encloses (place own : Precedence) : Bool := decide (own.toNat < place.toNat)

end Precedence

end CallLint.Printer

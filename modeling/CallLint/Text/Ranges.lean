import CallLint.Text.CodePoint

/-!
# Range tables

A class of code points is a list of ranges, each given by its first number and how many it holds. Tables hold numbers, so
that a look-up can be computed in a proof.
-/

namespace CallLint.Text

/-- Some range of the list holds `n`. -/
def inRanges (rs : List (Nat × Nat)) (n : Nat) : Bool :=
  rs.any fun r => r.1 ≤ n && n < r.1 + r.2

end CallLint.Text

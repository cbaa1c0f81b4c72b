import CallLint.Text.Ranges

/-!
# Blank characters

White space in the wide sense: the ASCII blanks, the four information separators, and the spaces and line breaks of
Unicode 14.0. It is wider than what separates tokens.
-/

namespace CallLint.Text

/-- Ranges of blank characters. -/
def blankRanges : List (Nat × Nat) := [
  (0x9, 5), (0x1C, 5), (0x85, 1), (0xA0, 1), (0x1680, 1), (0x2000, 11), (0x2028, 2), (0x202F, 1), (0x205F, 1),
  (0x3000, 1)]

/-- Whether the character is blank. -/
def isBlank (c : Char) : Bool := inRanges blankRanges c.toNat

/-- The characters without those at both ends that count as blank. -/
def trimBy (blank : Char → Bool) (cs : List Char) : List Char := ((cs.dropWhile blank).reverse.dropWhile blank).reverse

/-- The characters without the blanks at both ends. -/
def trim (cs : List Char) : List Char := trimBy isBlank cs

end CallLint.Text

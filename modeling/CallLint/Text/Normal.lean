import CallLint.Text.CodePoint
import CallLint.Text.Normal.Decomposition
import CallLint.Text.Normal.Composition

/-!
# Compatibility normal form of identifiers

Two spellings are the same identifier when they have the same normal form: every character is decomposed for
compatibility, marks are put in order of their combining class, and what composes is composed again. The tables cover
identifier characters; every other character is left alone.
-/

namespace CallLint.Text.Normal

/-- The image of `n` under a run of characters that decompose into a run. -/
def ofRun (n : Nat) : Nat × Nat × Nat → Option Nat
  | (first, count, image) => if first ≤ n && n < first + count then some (image + (n - first)) else none

/-- The image of `n` in a row of characters. -/
def ofRow {α : Type} (n : Nat) : Nat × List α → Option α
  | (first, images) => if first ≤ n then images[n - first]? else none

/-- The decomposition of `n` in the tables; without one `n` is its own. -/
def listedParts (n : Nat) : List Nat :=
  match (shiftedRuns.findSome? (ofRun n)).or (imageRows.findSome? (·.findSome? (ofRow n))) with
  | some m => [m]
  | none => (multiples.findSome? (·.findSome? (ofRow n))).getD [n]

/-- The decomposition of `n`, which is composed of pairs at most `depth` deep. -/
def partsOf : Nat → Nat → List Nat
  | 0, n => listedParts n
  | depth + 1, n => match pairs.findSome? (·.find? (·.2.2 == n)) with
    | some (a, b, _) => partsOf depth a ++ [b]
    | none => listedParts n

/-- The parts of a Hangul syllable, given its distance from the first one. -/
def hangulParts (s : Nat) : List Nat :=
  let lead := 0x1100 + s / 588
  let vowel := 0x1161 + s % 588 / 28
  if s % 28 == 0 then [lead, vowel] else [lead, vowel, 0x11A7 + s % 28]

/-- The full compatibility decomposition of one character. -/
def decompose (c : Char) : List Char :=
  let n := c.toNat
  if n < 128 then [c]
  else if 0xAC00 ≤ n && n < 0xD7A4 then (hangulParts (n - 0xAC00)).map Char.ofNat
  -- a letter takes up to three marks
  else (partsOf 3 n).map Char.ofNat

/-- The canonical combining class of a character; 0 for what is no mark. -/
def combiningClass (c : Char) : Nat :=
  let n := c.toNat
  if n < 0x300 then 0
  else ((combiningRanges.find? fun r => r.1 ≤ n && n < r.1 + r.2.1).map (·.2.2)).getD 0

/-- Puts a mark of class `k` behind the last character whose class is not above `k`; the list is reversed. -/
def insertMark (k : Nat) (c : Char) : List (Nat × Char) → List (Nat × Char)
  | (k', c') :: r => if k < k' then (k', c') :: insertMark k c r else (k, c) :: (k', c') :: r
  | [] => [(k, c)]

/-- The characters with their classes, the marks after each starter in order of class. -/
def reorder (cs : List Char) : List (Nat × Char) :=
  (cs.foldl (fun acc c =>
    let k := combiningClass c
    if k == 0 then (0, c) :: acc else insertMark k c acc) []).reverse

/-- The character that a starter and a following character compose to. -/
def composePair (a b : Char) : Option Char :=
  let x := a.toNat
  let y := b.toNat
  if 0x1100 ≤ x && x < 0x1113 && 0x1161 ≤ y && y < 0x1176 then
    some (Char.ofNat (0xAC00 + ((x - 0x1100) * 21 + (y - 0x1161)) * 28))
  else if 0xAC00 ≤ x && x < 0xD7A4 && (x - 0xAC00) % 28 == 0 && 0x11A8 ≤ y && y < 0x11C3 then
    some (Char.ofNat (x + (y - 0x11A7)))
  else (pairs.findSome? (·.find? fun p => p.1 == x && p.2.1 == y)).map fun p => Char.ofNat p.2.2

/-- Composes from left to right: `starter` waits for marks, `marks` (reversed) are those that did not compose. -/
def compose (starter : Char) (marks : List (Nat × Char)) : List (Nat × Char) → List Char
  | [] => starter :: (marks.reverse.map (·.2))
  | (k, c) :: rest =>
    let free := match marks with
      | [] => true
      | (last, _) :: _ => last < k
    match (if free then composePair starter c else none) with
    | some whole => compose whole marks rest
    | none =>
      if k == 0 then starter :: (marks.reverse.map (·.2) ++ compose c [] rest)
      else compose starter ((k, c) :: marks) rest

end Normal

/-- The compatibility normal form of an identifier. -/
def normalForm (cs : List Char) : List Char :=
  if cs.all (·.toNat < 128) then cs
  else match Normal.reorder (cs.flatMap Normal.decompose) with
    | [] => []
    | (_, c) :: rest => Normal.compose c [] rest

end CallLint.Text

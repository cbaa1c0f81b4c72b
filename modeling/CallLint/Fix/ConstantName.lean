import CallLint.Source.Token
import CallLint.Text.Identifier
import CallLint.Text.Upper
import CallLint.Text.Word

/-!
# Names for constants

The name of the constant that holds a text: its words in upper case, joined by underscores.
-/

namespace CallLint.Fix

/-- The most code points of a derived name. -/
def maxNameLength : Nat := 64

/-- An underscore. -/
def underscore : CodePoint := .scalar '_'

/-- The text with each run of code points outside words as one underscore; `inRun` tells that such a run has begun. -/
def joinWords (inRun : Bool) : Text → Text
  | [] => []
  | c :: cs =>
    if Text.isWord c then c :: joinWords false cs
    else if inRun then joinWords true cs else underscore :: joinWords true cs

/-- The text without underscores at its ends. -/
def stripUnderscores (t : Text) : Text :=
  ((t.dropWhile (· == underscore)).reverse.dropWhile (· == underscore)).reverse

/-- The name before it is checked. -/
def nameCandidate (value : Text) : Text := (stripUnderscores (joinWords false value)).upper

/-- The name of the constant that holds a text: nothing if the candidate is empty, too long, or no identifier. -/
def constantName (value : Text) : Option (List Char) :=
  let candidate := nameCandidate value
  if candidate.isEmpty || maxNameLength < candidate.length || !candidate.isIdentifier then none
  else match candidate.toChars? with
    | none => none
    | some cs => if (Source.Reserved.ofChars? cs).isSome then none else some cs

end CallLint.Fix

/-!
# Code points and texts

A text is a list of code points. It is wider than a list of characters by the lone surrogates, which no file
holds in UTF-8 but which a string literal can spell with an escape. Names, literal values and the source that is
written for them are texts; file contents are character lists.
-/

namespace CallLint

/-- A code point: a scalar value, or a lone surrogate given by its distance from `U+D800`. -/
inductive CodePoint where
  | scalar (c : Char)
  | surrogate (offset : Fin 2048)
deriving DecidableEq, Repr, Inhabited

namespace CodePoint

/-- The number of a code point. -/
def toNat : CodePoint → Nat
  | scalar c => c.toNat
  | surrogate k => 0xD800 + k.val

/-- The code point with number `n`, if there is one. -/
def ofNat? (n : Nat) : Option CodePoint :=
  if h : n.isValidChar then some (scalar (Char.ofNatAux n h))
  else if h : 0xD800 ≤ n ∧ n < 0xE000 then some (surrogate ⟨n - 0xD800, by omega⟩)
  else none

/-- The character of a scalar value. -/
def char? : CodePoint → Option Char
  | scalar c => some c
  | surrogate _ => none

/-- A class of characters, extended to code points: no surrogate is in it. -/
def satisfies (p : Char → Bool) : CodePoint → Bool
  | scalar c => p c
  | surrogate _ => false

end CodePoint

/-- A text: the value of a string literal, a name, or source text made of such. -/
abbrev Text := List CodePoint

namespace Text

/-- The text of a list of characters. -/
def ofChars (cs : List Char) : Text := cs.map .scalar

/-- The text of a string. -/
def ofString (s : String) : Text := ofChars s.toList

/-- The characters of a text without lone surrogates. -/
def toChars? (t : Text) : Option (List Char) := t.mapM CodePoint.char?

/-- The string of a text without lone surrogates. -/
def toString? (t : Text) : Option String := t.toChars?.map String.ofList

/-- The string of a text, each lone surrogate shown as the replacement character. -/
def display (t : Text) : String := String.ofList (t.map fun c => c.char?.getD '\ufffd')

/-- Lexicographic order by code point. -/
def le : Text → Text → Bool
  | [], _ => true
  | _ :: _, [] => false
  | a :: s, b :: t => a.toNat < b.toNat || (a.toNat == b.toNat && le s t)

end Text

end CallLint

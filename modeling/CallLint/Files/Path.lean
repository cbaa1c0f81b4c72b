import CallLint.Sorting

/-!
# Paths

Paths with slashes. Empty components and single dots are left out when a path is read; double dots stay, since they
mean nothing without a file system.
-/

namespace CallLint.Files

/-- A path: how it starts at the root, if it does, and its components. -/
structure Path where
  root : List Char
  parts : List (List Char)
deriving DecidableEq, Repr, Inhabited

/-- Splits at each slash. -/
def splitSlashes : List Char → List (List Char)
  | [] => [[]]
  | c :: cs =>
    if c == '/' then [] :: splitSlashes cs
    else match splitSlashes cs with
      | part :: parts => (c :: part) :: parts
      | [] => [[c]]

namespace Path

/-- The start of an absolute path: one slash, or exactly two. -/
def rootOf (cs : List Char) : List Char :=
  match cs.takeWhile (· == '/') with
  | [] => []
  | ['/', '/'] => ['/', '/']
  | _ => ['/']

/-- Reads a path. -/
def ofChars (cs : List Char) : Path :=
  ⟨rootOf cs, (splitSlashes cs).filter fun p => !p.isEmpty && p != ['.']⟩

/-- Reads a path. -/
def ofString (s : String) : Path := ofChars s.toList

/-- The text of a path; a dot if it is empty. -/
def toChars (p : Path) : List Char :=
  if p.root.isEmpty && p.parts.isEmpty then ['.'] else p.root ++ List.intercalate ['/'] p.parts

/-- The text of a path. -/
def toString (p : Path) : String := String.ofList p.toChars

/-- The last component, empty if there is none. -/
def name (p : Path) : List Char := p.parts.getLast?.getD []

/-- The extension of a name: from its last dot on, unless the dot starts or ends it. -/
def suffixOf (name : List Char) : List Char :=
  let tail := name.reverse.takeWhile (· != '.')
  if tail.length + 1 < name.length && !tail.isEmpty then '.' :: tail.reverse else []

/-- The extension of the last component. -/
def suffix (p : Path) : List Char := suffixOf p.name

/-- The path of an entry below. -/
def child (p : Path) (name : List Char) : Path := { p with parts := p.parts ++ [name] }

/-- The path without its last component. -/
def parent (p : Path) : Path := { p with parts := p.parts.dropLast }

/-- Compares paths component by component. -/
def le (a b : Path) : Bool :=
  Sorting.lexLe (fun x y => !Sorting.lexLe Sorting.charLt y x) a.parts b.parts

end Path

end CallLint.Files

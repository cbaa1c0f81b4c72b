import CallLint.Source.Grammar.Stmt
import CallLint.Source.ToTree

/-!
# Reading a source

A source is read as a module or as a single expression. Line breaks are made alike first; positions count lines of the
source and bytes within them.
-/

namespace CallLint.Source

open Grammar Parse

/-- Why a source cannot be read: it holds a null character, or it does not follow the grammar. -/
inductive SyntaxFault where
  | nul
  | malformed
deriving DecidableEq, Repr

/-- Whether a source is read as a module or as an expression. -/
inductive Mode where
  | module
  | expression
deriving DecidableEq, Repr

/-- A whole module; nothing in it is deeper than `fuel`. -/
def moduleRule (fuel : Nat) : Parse Program := do
  let expr := exprRule fuel
  let pattern := patternRule expr fuel
  let body ← statements expr pattern (blockRule expr pattern fuel)
  expect .stop
  return .module body

/-- A single expression, possibly a tuple, and line ends behind it. -/
def expressionRule (fuel : Nat) : Parse Program := do
  let e ← tupleOr (exprRule fuel .expression)
  let _ ← many (do
    if ← accept .newline then return some () else return none)
  expect .stop
  return .expression e

/-- The characters that are read, with line breaks made alike; a module ends with one. -/
def Mode.prepare (mode : Mode) (source : List Char) : List Char :=
  match mode with
  | .module => endLine (Text.unifyBreaks source)
  | .expression => Text.unifyBreaks source

/-- The rule for a mode. -/
def Mode.rule (mode : Mode) (fuel : Nat) : Parse Program :=
  match mode with
  | .module => moduleRule fuel
  | .expression => expressionRule fuel

/-- Reads a source. Nothing can be deeper than the source is long. -/
def Program.read (mode : Mode) (source : List Char) : Except SyntaxFault Program :=
  if source.contains '\x00' then .error .nul
  else match lex ⟨1, 0⟩ (mode.prepare source) with
    | none => .error .malformed
    | some tokens =>
      match mode.rule (source.length + 2) ⟨tokens, ⟨1, 0⟩⟩ with
      | none => .error .malformed
      | some (program, _) => .ok program

/-- The tree of a source. -/
def readTree (mode : Mode) (source : List Char) : Except SyntaxFault Tree :=
  (Program.read mode source).map Program.toTree

end CallLint.Source

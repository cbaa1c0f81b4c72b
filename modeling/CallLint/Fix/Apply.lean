import CallLint.Fix.Extract
import CallLint.Text.Blank

/-!
# Applying fixes

The text of the call is replaced, and the new constants are inserted behind the header of the module. Everything else
stays as it is, line breaks included.
-/

namespace CallLint.Fix

open CallLint.Tree (Fault)
open Source

/-- Why a fix cannot be applied. -/
inductive ApplyError where
  /-- The proposal has no replacement. -/
  | noReplacement
  /-- The source cannot be read. -/
  | unread (fault : SyntaxFault)
  /-- No call is at the location of the proposal. -/
  | noCall (location : Location)
  /-- The position of the call is none in the source. -/
  | offset (error : Text.OffsetError)
  /-- The tree cannot be worked on. -/
  | tree (fault : Fault)

/-- A step on a tree as a step of applying a fix. -/
def onTree {α : Type} : Except Fault α → Except ApplyError α
  | .ok a => .ok a
  | .error e => .error (.tree e)

/-- A whole number that a tree holds. -/
def wholeNumber (t : Tree) : Except ApplyError Int :=
  match t.int? with
  | some n => .ok n
  | none => .error (.tree .mismatch)

/-- The offset in characters of a position that two fields of a node give. -/
def offsetOf (lines : List (List Char)) (t : Tree) (line column : Tree.Field) : Except ApplyError Nat := do
  let l ← wholeNumber (← onTree (t.field line))
  let c ← wholeNumber (← onTree (t.field column))
  match Text.charOffset lines l c with
  | .ok n => .ok n
  | .error e => .error (.offset e)

/-- Whether there is a line with a number from 0 that is not blank. -/
def hasText (lines : List (List Char)) (i : Nat) : Bool := (lines[i]?).any fun line => !(Text.trim line).isEmpty

/-- The definition of a constant. -/
def definition (newline : List Char) (name : List Char) (value : Text) : List Char :=
  name ++ " = ".toList ++ Text.quoted value ++ newline

/-- The lines that are inserted before line number `at` from 0: the definitions, set off from text before and behind
them. -/
def block (lines : List (List Char)) (insertAt : Nat) (constants : Constants) : List (List Char) :=
  let newline := Text.newlineOf lines
  let above := if 0 < insertAt && hasText lines (insertAt - 1) then [newline] else []
  let below := if hasText lines insertAt then [newline] else []
  above ++ constants.map (fun (name, value) => definition newline name value) ++ below

/-- The text with the definitions inserted behind the first `insertAt` lines, which have to be there. -/
def insertConstants (source : List Char) (insertAt : Nat) (constants : Constants) : Except ApplyError (List Char) :=
  let lines := Text.splitLines source
  if lines.length < insertAt then .error (.offset .noLine)
  else .ok (lines.take insertAt ++ block lines insertAt constants ++ lines.drop insertAt).flatten

/-- The source with a proposal applied. -/
def apply (source : List Char) (proposal : Proposal) : Except ApplyError (List Char) := do
  match proposal.replacement with
  | none => .error .noReplacement
  | some replacement =>
    match readTree .module source with
    | .error e => .error (.unread e)
    | .ok tree =>
      match ← onTree (findCall tree proposal.location) with
      | none => .error (.noCall proposal.location)
      | some found =>
        let lines := Text.splitLines source
        let start ← offsetOf lines found.node .lineno .colOffset
        let stop ← offsetOf lines found.node .endLineno .endColOffset
        let updated := source.take start ++ replacement ++ source.drop stop
        if proposal.constants.isEmpty then return updated
        let header ← wholeNumber (← onTree (headerEnd tree))
        insertConstants updated header.toNat proposal.constants

end CallLint.Fix

import CallLint.Fix.Apply

/-!
# Fix sessions

A session works on a text: it applies fixes, remembers proposals for later, and edits the text in between. A proposal
that was kept may be stale when it is applied.
-/

namespace CallLint.Fix

open Source

/-- A text being fixed, and the proposals that were kept, by number. -/
structure Session where
  text : List Char
  kept : List (Nat × Proposal)

/-- What can be done in a session. -/
inductive Step where
  /-- Apply the fix with a number. -/
  | fix (index : Nat)
  /-- Apply the first fix, at most so many times. -/
  | fixAll (limit : Nat)
  /-- Remember all fixes. -/
  | keep
  /-- Apply a fix that was kept. -/
  | applyKept (index : Nat)
  /-- Put text in front. -/
  | prepend (text : List Char)
  /-- Put text at the end. -/
  | append (text : List Char)
  /-- Replace all occurrences of a text. -/
  | replace (old new : List Char)

/-- Why a step fails. -/
inductive StepError where
  /-- The text cannot be analysed. -/
  | source (fault : Analyzer.SourceFault)
  /-- The fix cannot be applied. -/
  | apply (error : ApplyError)

/-- The findings in a text, each with its proposed fix. -/
def proposals (text : List Char) : Except Analyzer.SourceFault (List (Finding × Option Proposal)) :=
  match readTree .module text with
  | .error e => .error (.unread e)
  | .ok tree =>
    let found := do
      let findings ← Analyzer.default.analyzeTree tree ""
      findings.mapM fun f => do return (f, ← extract f tree)
    match found with
    | .ok rows => .ok rows
    | .error e => .error (.tree e)

/-- The fixes for a text, in the order of their findings. -/
def fixes (text : List Char) : Except StepError (List Proposal) :=
  match proposals text with
  | .ok rows => .ok (rows.filterMap (·.2))
  | .error e => .error (.source e)

/-- The text with a fix applied. -/
def applyStep (text : List Char) (p : Proposal) : Except StepError (List Char) :=
  match apply text p with
  | .ok t => .ok t
  | .error e => .error (.apply e)

/-- Applies the first fix again and again; the text so far stays when a step fails. -/
def fixRepeatedly : Nat → List Char → List Char × Option StepError
  | 0, text => (text, none)
  | n + 1, text =>
    match fixes text with
    | .error e => (text, some e)
    | .ok [] => (text, none)
    | .ok (p :: _) =>
      match applyStep text p with
      | .error e => (text, some e)
      | .ok text => fixRepeatedly n text

/-- All occurrences of `old`, from the left and without overlap, as `new`; `skip` characters belong to an occurrence. -/
def replaceFrom (old new : List Char) : Nat → List Char → List Char
  | _, [] => []
  | skip + 1, _ :: cs => replaceFrom old new skip cs
  | 0, c :: cs =>
    if old.isPrefixOf (c :: cs) then new ++ replaceFrom old new (old.length - 1) cs
    else c :: replaceFrom old new 0 cs

/-- All occurrences of `old` as `new`; the empty text occurs before each character and at the end. -/
def replaceAll (old new text : List Char) : List Char :=
  if old.isEmpty then text.flatMap (fun c => new ++ [c]) ++ new else replaceFrom old new 0 text

/-- Remembers fixes under the numbers from `i` on. -/
def keepFrom (kept : List (Nat × Proposal)) : Nat → List Proposal → List (Nat × Proposal)
  | _, [] => kept
  | i, p :: ps => (i, p) :: (keepFrom kept (i + 1) ps).filter (·.1 != i)

namespace Session

/-- Applies a fix, if there is one. -/
def applyOne (s : Session) (p : Option Proposal) : Session × Except StepError Bool :=
  match p with
  | none => (s, .ok true)
  | some p =>
    match applyStep s.text p with
    | .ok text => ({ s with text := text }, .ok false)
    | .error e => (s, .error e)

/-- The session after a step, and whether the step was skipped. -/
def run (s : Session) : Step → Session × Except StepError Bool
  | .fix i =>
    match fixes s.text with
    | .error e => (s, .error e)
    | .ok ps => s.applyOne ps[i]?
  | .fixAll n =>
    match fixRepeatedly n s.text with
    | (text, none) => ({ s with text := text }, .ok false)
    | (text, some e) => ({ s with text := text }, .error e)
  | .keep =>
    match fixes s.text with
    | .error e => (s, .error e)
    | .ok ps => ({ s with kept := keepFrom s.kept 0 ps }, .ok false)
  | .applyKept i => s.applyOne (s.kept.lookup i)
  | .prepend t => ({ s with text := t ++ s.text }, .ok false)
  | .append t => ({ s with text := s.text ++ t }, .ok false)
  | .replace old new => ({ s with text := replaceAll old new s.text }, .ok false)

end Session

end CallLint.Fix

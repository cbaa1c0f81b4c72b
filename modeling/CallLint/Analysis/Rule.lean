import CallLint.Analysis.Registry
import CallLint.Finding

/-!
# Literal strings as arguments

The rule flags calls of members that get a literal string as an argument. Role names, claim types and permissions tend
to be passed around as bare strings; a typo in one of them fails silently.
-/

namespace CallLint

open CallLint.Tree (Fault countStringLiterals)

/-- What a rule does with a node. -/
abbrev Action := Tree → Except Fault (Option Finding)

/-- The rule, with what its findings say. -/
structure Rule where
  descriptor : Descriptor
deriving Inhabited

namespace Rule

/-- What the rule says by default. -/
def literalStrings : Descriptor where
  id := "NoLiteralStringsInAuth"
  title := "Arguments passed in should not be literal strings"
  message := "The arguments should not be literal strings"
  category := "Authentication"
  severity := .warning
  description := "Using literal strings as arguments can lead to hard to find errors. " ++
    "It is preferable to use a value stored in a single location across the application"
  enabledByDefault := true

/-- The rules that run by default. -/
def defaults : List Rule := [⟨literalStrings⟩]

/-- The finding for a node, if it is a call of a member with a literal string among its arguments. The finding is located
at the member access. -/
def evaluate (r : Rule) : Action := fun t => do
  if (← t.shape) != .call then return none
  match ← t.receiver? with
  | none => return none
  | some receiver =>
    let arguments := t.arguments?.getD []
    if (← countStringLiterals arguments) == 0 then return none
    return (← receiver.location).map r.descriptor.finding

/-- Registers the rule for calls. -/
def install (registry : Registry Action) (r : Rule) : Registry Action :=
  (registry.register? r.evaluate [.call]).getD registry

end Rule

end CallLint

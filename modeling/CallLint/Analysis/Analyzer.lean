import CallLint.Analysis.Rule
import CallLint.Sorting
import CallLint.Source.Program

/-!
# The analyzer

Walks a tree, runs the registered actions on each node, completes their findings with the path and a proposed fix, and
sorts them by place.
-/

namespace CallLint

open Source
open CallLint.Tree (Fault)

/-- Proposes a fix for a finding in a tree, or declines. -/
abbrev FixProvider := Finding → Tree → Except Fault (Option Proposal)

namespace FixProvider

/-- Declines always. -/
def decline : FixProvider := fun _ _ => .ok none

/-- Proposes always, but nothing to put in place of the call. -/
def withoutReplacement : FixProvider := fun finding _ => .ok (some ⟨finding.location, none, [], ""⟩)

end FixProvider

/-- Rules, and where fixes come from. -/
structure Analyzer where
  rules : List Rule
  provider : FixProvider

namespace Analyzer

/-- The rules that run by default, without fixes. -/
def default : Analyzer := ⟨Rule.defaults, .decline⟩

/-- The actions of the rules. -/
def registry (a : Analyzer) : Registry Action := a.rules.foldl Rule.install .empty

/-- Adds the path and the proposed fix, if it has a replacement. -/
def complete (a : Analyzer) (tree : Tree) (path : String) (finding : Finding) : Except Fault Finding := do
  let finding := if path.isEmpty then finding else { finding with path := path }
  match ← a.provider finding tree with
  | some proposal => return if proposal.replacement.isSome then { finding with fix := some proposal } else finding
  | none => return finding

/-- Runs actions on a node. -/
def runActions (a : Analyzer) (tree : Tree) (path : String) (node : Tree) :
    List Action → Except Fault (List Finding)
  | [] => .ok []
  | action :: actions => do
    let first ← match ← action node with
      | none => pure []
      | some finding => pure [← a.complete tree path finding]
    return first ++ (← a.runActions tree path node actions)

/-- Runs the actions for its shape on each node. -/
def runNodes (a : Analyzer) (tree : Tree) (path : String) : List Tree → Except Fault (List Finding)
  | [] => .ok []
  | node :: nodes => do
    let first ← a.runActions tree path node (a.registry.actionsFor (← node.shape))
    return first ++ (← a.runNodes tree path nodes)

/-- The findings in a tree, by place; those at the same place in the order of the walk. -/
def analyzeTree (a : Analyzer) (tree : Tree) (path : String) : Except Fault (List Finding) := do
  let nodes ← tree.walk
  let findings ← a.runNodes tree path nodes
  return Sorting.sort (fun f g => f.location.startLe g.location) findings

/-- Why a source cannot be analysed: it cannot be read, or its tree cannot be worked on. -/
inductive SourceFault where
  | unread (fault : SyntaxFault)
  | tree (fault : Fault)
deriving DecidableEq, Repr

/-- The findings in the source of a module. -/
def analyzeSource (a : Analyzer) (source : List Char) (path : String) : Except SourceFault (List Finding) :=
  match readTree .module source with
  | .error e => .error (.unread e)
  | .ok tree =>
    match a.analyzeTree tree path with
    | .error e => .error (.tree e)
    | .ok findings => .ok findings

end Analyzer

end CallLint

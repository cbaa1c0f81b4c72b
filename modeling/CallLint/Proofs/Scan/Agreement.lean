import CallLint.Proofs.Analysis.Findings
import CallLint.Proofs.Fix.Unwritable
import CallLint.Scan

/-!
# Reports with and without fixes

A provider of fixes touches only the fixes of findings, as long as it does not fail (`analyzeTree_withoutFix`). A fix that
cannot be written fails the analysis of its source, and a scan then skips the file with all its findings. So asking for
fixes leaves a report as it is if and only if no scanned file is blocked in that way (`runWithin_suggestFixes`).
-/

namespace CallLint

open CallLint.Tree (Fault Extent Measured Everywhere)
open Files Report Source

/-- A finding without its fix. -/
def Finding.withoutFix (f : Finding) : Finding := { f with fix := none }

namespace Analyzer

variable {tree : Tree} {path : String}

/-! ### One source -/

/-- Completing a finding fails as its provider does, or changes the fix alone. -/
theorem complete_cases (a : Analyzer) (tree : Tree) (path : String) (f : Finding) :
    (∃ e, a.provider (f.inPath path) tree = .error e ∧ a.complete tree path f = .error e) ∨
      (∀ e, a.provider (f.inPath path) tree ≠ .error e) ∧
        ∃ g, a.complete tree path f = .ok g ∧ g.withoutFix = (f.inPath path).withoutFix := by
  unfold complete
  rw [← Finding.inPath]
  dsimp only
  cases a.provider (f.inPath path) tree with
  | error e => exact Or.inl ⟨e, rfl, rfl⟩
  | ok proposal? =>
    refine Or.inr ⟨nofun, ?_⟩
    cases proposal? with
    | none => exact ⟨_, rfl, rfl⟩
    | some proposal =>
      refine ⟨_, rfl, ?_⟩
      split <;> rfl

theorem mapM_complete_cases (a : Analyzer) (tree : Tree) (path : String) (fs : List Finding) :
    (∃ f ∈ fs, ∃ e, a.provider (f.inPath path) tree = .error e ∧ fs.mapM (a.complete tree path) = .error e) ∨
      (∀ f ∈ fs, ∀ e, a.provider (f.inPath path) tree ≠ .error e) ∧
        ∃ gs, fs.mapM (a.complete tree path) = .ok gs ∧
          gs.map (·.withoutFix) = (fs.map (·.inPath path)).map (·.withoutFix) := by
  induction fs with
  | nil => exact Or.inr ⟨by simp, [], rfl, rfl⟩
  | cons f fs ih =>
    rw [List.mapM_cons]
    rcases a.complete_cases tree path f with ⟨e, failed, eq⟩ | ⟨given, g, eq, same⟩
    · exact Or.inl ⟨f, List.mem_cons_self, e, failed, by rw [eq]; rfl⟩
    rw [eq, Tree.ok_bind]
    rcases ih with ⟨f', mem, e, failed, eq'⟩ | ⟨given', gs, eq', same'⟩
    · exact Or.inl ⟨f', List.mem_cons_of_mem f mem, e, failed, by rw [eq']; rfl⟩
    · exact Or.inr ⟨List.forall_mem_cons.2 ⟨given, given'⟩, g :: gs, by rw [eq']; rfl, by simp [same, same']⟩

/-- The extent of the member access of some flagged call of a tree. -/
def FlagsIn (tree : Tree) (s : Extent) : Prop := ∃ place call, tree.at? place = some call ∧ call.Flags s

theorem mem_rawFindings {calls : List (List Nat × Extent)} (flagged : tree.FlaggedCalls calls) {rules : List Rule}
    {f : Finding} :
    f ∈ rawFindings rules calls ↔ ∃ s, FlagsIn tree s ∧ ∃ r ∈ rules, f = r.descriptor.finding s.location := by
  simp only [rawFindings, List.mem_flatMap, List.mem_map]
  constructor
  · rintro ⟨⟨place, s⟩, mem, r, hr, rfl⟩
    obtain ⟨call, hcall, flags⟩ := (flagged.mem place s).1 mem
    exact ⟨s, ⟨place, call, hcall, flags⟩, r, hr, rfl⟩
  · rintro ⟨s, ⟨place, call, hcall, flags⟩, r, hr, rfl⟩
    exact ⟨(place, s), (flagged.mem place s).2 ⟨call, hcall, flags⟩, r, hr, rfl⟩

/-- An analysis fails as its provider does on some report, or it reports what it reports without fixes. -/
theorem analyzeTree_withoutFix (a : Analyzer) (path : String) (node : tree.isNode = true) (h : tree.Everywhere Measured) :
    ∃ reports, analyzeTree ⟨a.rules, .decline⟩ tree path = .ok reports ∧
      (∀ s, FlagsIn tree s → ∀ r ∈ a.rules, r.report path s ∈ reports) ∧
      ((∃ s, FlagsIn tree s ∧ ∃ r ∈ a.rules, ∃ e, a.provider (r.report path s) tree = .error e ∧
          a.analyzeTree tree path = .error e) ∨
        (∀ s, FlagsIn tree s → ∀ r ∈ a.rules, ∀ e, a.provider (r.report path s) tree ≠ .error e) ∧
          ∃ fs, a.analyzeTree tree path = .ok fs ∧ fs.map (·.withoutFix) = reports) := by
  obtain ⟨calls, flagged, eq⟩ := analyzeTree_eq node h
  have raw (f : Finding) :
      f ∈ rawFindings a.rules calls ↔ ∃ s, FlagsIn tree s ∧ ∃ r ∈ a.rules, f = r.descriptor.finding s.location :=
    mem_rawFindings flagged
  have unfixed : ((rawFindings a.rules calls).map (·.inPath path)).map (·.withoutFix) =
      (rawFindings a.rules calls).map (·.inPath path) := by
    rw [List.map_map]
    refine List.map_congr_left fun f hf => ?_
    obtain ⟨s, -, r, -, rfl⟩ := (raw f).1 hf
    rw [Function.comp_apply, Descriptor.finding_inPath]
    rfl
  refine ⟨_, by rw [eq, mapM_complete_decline, Tree.map_ok], ?_, ?_⟩
  · intro s flags r hr
    rw [(Sorting.sort_perm _ _).mem_iff, List.mem_map]
    exact ⟨_, (raw _).2 ⟨s, flags, r, hr, rfl⟩, Descriptor.finding_inPath r path s⟩
  rcases a.mapM_complete_cases tree path (rawFindings a.rules calls) with ⟨f, hf, e, failed, run⟩ | ⟨given, gs, run, same⟩
  · left
    obtain ⟨s, flags, r, hr, rfl⟩ := (raw f).1 hf
    rw [Descriptor.finding_inPath] at failed
    exact ⟨s, flags, r, hr, e, failed, by rw [eq, run, Tree.map_error]⟩
  · right
    refine ⟨?_, _, by rw [eq, run, Tree.map_ok], ?_⟩
    · intro s flags r hr
      rw [← Descriptor.finding_inPath]
      exact given _ ((raw _).2 ⟨s, flags, r, hr, rfl⟩)
    · have sorted : (Sorting.sort (fun f g : Finding => f.location.startLe g.location) gs).map (·.withoutFix) =
          Sorting.sort (fun f g => f.location.startLe g.location) (gs.map (·.withoutFix)) := by
        refine Sorting.map_sort ?_ gs
        exact fun _ _ => rfl
      rw [sorted, same, unfixed]

/-- The analyzer that scans use, with fixes. -/
def fixing : Analyzer := ⟨Rule.defaults, Fix.extract⟩

/-- A source in which the fix for some flagged call cannot be written. -/
def Blocked (source : List Char) : Prop :=
  ∃ tree s changed, readTree .module source = .ok tree ∧ FlagsIn tree s ∧ Fix.Blocks tree s.location changed

/-- With fixes, the analysis of a blocked source fails, although there is something to report. -/
theorem analyzeSource_of_blocked {source : List Char} (blocked : Blocked source) (path : String) :
    fixing.analyzeSource source path = .error (.tree .unwritable) ∧
      ∃ f fs, default.analyzeSource source path = .ok (f :: fs) := by
  obtain ⟨tree, s, changed, read, flags, blocks⟩ := blocked
  have wf := readTree_wellFormed read
  obtain ⟨r, hr⟩ : ∃ r, r ∈ fixing.rules := ⟨_, List.mem_cons_self⟩
  obtain ⟨reports, plain, all, failed | ⟨given, -⟩⟩ := fixing.analyzeTree_withoutFix path wf.root.isNode wf.measured
  · obtain ⟨_, _, _, _, e, fault, run⟩ := failed
    obtain ⟨rfl, -⟩ := (Fix.extract_eq_error wf).1 fault
    refine ⟨by simp only [analyzeSource, read, run], ?_⟩
    have reported := all s flags r hr
    cases reports with
    | nil => cases reported
    | cons f fs =>
      have unfixed : default.analyzeTree tree path = .ok (f :: fs) := plain
      exact ⟨f, fs, by simp only [analyzeSource, read, unfixed]⟩
  · have fault : Fix.extract (r.report path s) tree = .error .unwritable :=
      (Fix.extract_eq_error wf).2 ⟨rfl, changed, blocks⟩
    exact absurd fault (given s flags r hr .unwritable)

/-- With fixes, the analysis of any other source does what it does without, but for the fixes. -/
theorem analyzeSource_of_not_blocked {source : List Char} (free : ¬ Blocked source) (path : String) :
    (fixing.analyzeSource source path).map (·.map (·.withoutFix)) = default.analyzeSource source path := by
  unfold analyzeSource
  cases read : readTree .module source with
  | error e => rfl
  | ok tree =>
    have wf := readTree_wellFormed read
    obtain ⟨reports, plain, -, failed | ⟨-, fs, run, same⟩⟩ :=
      fixing.analyzeTree_withoutFix path wf.root.isNode wf.measured
    · obtain ⟨s, flags, r, -, e, fault, -⟩ := failed
      obtain ⟨-, changed, blocks⟩ := (Fix.extract_eq_error wf).1 fault
      exact absurd ⟨tree, s, changed, read, flags, blocks⟩ free
    · have unfixed : default.analyzeTree tree path = .ok reports := plain
      simp only [run, unfixed, Except.map, same]

end Analyzer

namespace Scan

open Analyzer (Blocked fixing)

/-! ### A scan -/

/-- A result in which no finding has a fix. -/
def withoutFixes (r : Result) : Result := { r with findings := r.findings.map (·.withoutFix) }

/-- Reports that are the same but for fixes. -/
structure SameReport (r r' : Result) : Prop where
  filesScanned : r.filesScanned = r'.filesScanned
  filesSkipped : r.filesSkipped = r'.filesSkipped
  summary : r.summary = r'.summary
  exitCode : r.exitCode = r'.exitCode
  findings : r.findings.map (·.withoutFix) = r'.findings.map (·.withoutFix)

/-- Scans that end in the same way: with the same failure, or with reports that are the same but for fixes. -/
inductive SameOutcome : Except FileError Result → Except FileError Result → Prop where
  | failed (e : FileError) : SameOutcome (.error e) (.error e)
  | reported {r r' : Result} (same : SameReport r r') : SameOutcome (.ok r) (.ok r')

theorem exitCode_withoutFixes (r : Result) : (withoutFixes r).exitCode = r.exitCode := by
  have same : (withoutFixes r).passed = r.passed := by
    rw [Result.passed, withoutFixes, List.any_map]
    rfl
  rw [Result.exitCode, same, Result.exitCode]

theorem sameReport_of_eq {r r' : Result} (h : withoutFixes r = withoutFixes r') : SameReport r r' where
  filesScanned := congrArg (·.filesScanned) h
  filesSkipped := congrArg (·.filesSkipped) h
  summary := congrArg (·.summary) h
  exitCode := by rw [← exitCode_withoutFixes r, h, exitCode_withoutFixes]
  findings := congrArg (·.findings) h

theorem withoutFixes_addAll (r : Result) (fs : List Finding) :
    withoutFixes (r.addAll fs) = (withoutFixes r).addAll (fs.map (·.withoutFix)) := by
  induction fs generalizing r with
  | nil => rfl
  | cons f fs ih =>
    have first : withoutFixes (r.add f) = (withoutFixes r).add f.withoutFix := by simp [withoutFixes, Result.add, Finding.withoutFix]
    rw [Result.addAll, List.foldl_cons, ← Result.addAll, ih, first]
    rfl

/-- One file: results that are the same but for fixes stay so, if the findings in the file are. -/
theorem addFile_congr {a b : Analyzer} {disk : Disk} {p : Path} {r r' : Result} (h : withoutFixes r = withoutFixes r')
    (same : (findings? a disk p).map (·.map (·.withoutFix)) = (findings? b disk p).map (·.map (·.withoutFix))) :
    withoutFixes (addFile a disk r p) = withoutFixes (addFile b disk r' p) := by
  have skipped : ∀ r : Result, withoutFixes { r with filesSkipped := r.filesSkipped ++ [p.toString] } =
      { withoutFixes r with filesSkipped := (withoutFixes r).filesSkipped ++ [p.toString] } := fun _ => rfl
  have scanned : ∀ r : Result, withoutFixes { r with filesScanned := r.filesScanned + 1 } =
      { withoutFixes r with filesScanned := (withoutFixes r).filesScanned + 1 } := fun _ => rfl
  unfold addFile
  cases ha : findings? a disk p with
  | none =>
    have hb : findings? b disk p = none := by simpa [ha] using same.symm
    simp only [hb, skipped, h]
  | some fs =>
    rw [ha, Option.map_some] at same
    obtain ⟨gs, hb, eq⟩ := Option.map_eq_some_iff.1 same.symm
    simp only [hb, withoutFixes_addAll, scanned, h, eq]

/-- A whole scan, in the same way. -/
theorem foldl_addFile_congr {a b : Analyzer} {disk : Disk} {files : List Path} {r r' : Result}
    (h : withoutFixes r = withoutFixes r') (same : ∀ p ∈ files,
      (findings? a disk p).map (·.map (·.withoutFix)) = (findings? b disk p).map (·.map (·.withoutFix))) :
    withoutFixes (files.foldl (addFile a disk) r) = withoutFixes (files.foldl (addFile b disk) r') := by
  induction files generalizing r r' with
  | nil => exact h
  | cons p files ih =>
    exact ih (addFile_congr h (same p List.mem_cons_self)) fun q hq => same q (List.mem_cons_of_mem p hq)

/-- A scan counts the files whose findings can be told. -/
theorem foldl_addFile_filesScanned (a : Analyzer) (disk : Disk) (files : List Path) (r : Result) :
    (files.foldl (addFile a disk) r).filesScanned =
      r.filesScanned + (files.filter fun p => (findings? a disk p).isSome).length := by
  have addAll_filesScanned : ∀ (fs : List Finding) (r : Result), (r.addAll fs).filesScanned = r.filesScanned := by
    intro fs
    induction fs with
    | nil => exact fun _ => rfl
    | cons f fs ih => exact fun r => ih (r.add f)
  induction files generalizing r with
  | nil => simp
  | cons p files ih =>
    rw [List.foldl_cons, ih, addFile, List.filter_cons]
    cases findings? a disk p with
    | none => simp
    | some fs =>
      simp only [addAll_filesScanned, Option.isSome_some, ↓reduceIte, List.length_cons]
      omega

/-- The findings in a file that is not blocked are the same with and without fixes, but for the fixes. -/
theorem findings?_of_not_blocked {disk : Disk} {p : Path} (free : ∀ source, disk.readText p = .ok source → ¬ Blocked source) :
    (findings? fixing disk p).map (·.map (·.withoutFix)) = findings? .default disk p := by
  unfold findings?
  cases read : disk.readText p with
  | error e => rfl
  | ok source =>
    have same := Analyzer.analyzeSource_of_not_blocked (free source read) p.toString
    simp only [← same]
    cases fixing.analyzeSource source p.toString <;> rfl

/-- With fixes a blocked file has no findings, although it has some without. -/
theorem findings?_of_blocked {disk : Disk} {p : Path} {source : List Char} (read : disk.readText p = .ok source)
    (blocked : Blocked source) : findings? fixing disk p = none ∧ (findings? .default disk p).isSome = true := by
  obtain ⟨failed, f, fs, found⟩ := Analyzer.analyzeSource_of_blocked blocked p.toString
  simp [findings?, read, failed, found, Except.toOption]

/-- A file whose findings can be told with fixes has them without. -/
theorem isSome_findings?_of_fixing {disk : Disk} {p : Path} (h : (findings? fixing disk p).isSome = true) :
    (findings? .default disk p).isSome = true := by
  by_cases free : ∀ source, disk.readText p = .ok source → ¬ Blocked source
  · rw [← findings?_of_not_blocked free, Option.isSome_map]
    exact h
  · simp only [not_forall, not_not] at free
    obtain ⟨source, read, blocked⟩ := free
    exact (findings?_of_blocked read blocked).2

/-- Asking for fixes leaves the report as it is if no file is blocked, and only then. -/
theorem extend_sameReport_iff (disk : Disk) (exclude : List (List Char)) (roots : List Path) (r : Result) :
    SameReport (extend fixing disk exclude roots r) (extend .default disk exclude roots r) ↔
      ∀ p ∈ codeFiles disk sourceExtensions exclude roots, ∀ source, disk.readText p = .ok source → ¬ Blocked source := by
  constructor
  · intro same p hp source read blocked
    -- the blocked file is counted in one of the scans only, and no file in the other one only
    have counts := same.filesScanned
    simp only [extend, foldl_addFile_filesScanned] at counts
    have sub : ((codeFiles disk sourceExtensions exclude roots).filter fun p => (findings? fixing disk p).isSome).Sublist
        ((codeFiles disk sourceExtensions exclude roots).filter fun p => (findings? .default disk p).isSome) :=
      List.monotone_filter_right _ fun _ => isSome_findings?_of_fixing
    have all := sub.eq_of_length (by omega)
    obtain ⟨lost, found⟩ := findings?_of_blocked read blocked
    have kept : p ∈ (codeFiles disk sourceExtensions exclude roots).filter fun p => (findings? fixing disk p).isSome := by
      rw [all]
      exact List.mem_filter.2 ⟨hp, found⟩
    have some_lost := (List.mem_filter.1 kept).2
    simp [lost] at some_lost
  · intro free
    refine sameReport_of_eq (foldl_addFile_congr rfl fun p hp => ?_)
    have same := findings?_of_not_blocked (free p hp)
    rw [← same, Option.map_map]
    congr 1
    funext fs
    simp [Finding.withoutFix]

/-- Asking for fixes changes nothing else in what a scan gives if and only if no scanned file is blocked, and so it is with
the analysis of a source. With fixes a blocked source is lost with all its findings, of which there are some; what blocks it
is a changed call that holds a format string or a number of too many digits, or is printed as no source. -/
theorem runWithin_suggestFixes (disk : Disk) (s : Settings) (roots : List Path) :
    (SameOutcome (runWithin disk { s with suggestFixes := true } roots) (runWithin disk { s with suggestFixes := false } roots) ↔
      (rootFault? disk roots = none → ∀ p ∈ codeFiles disk sourceExtensions s.exclude roots, ∀ source,
        disk.readText p = .ok source → ¬ Blocked source)) ∧
    ∀ source path,
      ((fixing.analyzeSource source path).map (·.map (·.withoutFix)) =
        (Analyzer.default.analyzeSource source path).map (·.map (·.withoutFix)) ↔ ¬ Blocked source) ∧
      (Blocked source → fixing.analyzeSource source path = .error (.tree .unwritable) ∧
        (∃ f fs, Analyzer.default.analyzeSource source path = .ok (f :: fs)) ∧
        ∃ (tree : Tree) (extent : Extent) (changed : Tree), readTree .module source = .ok tree ∧ Fix.Blocks tree extent.location changed ∧
          (changed.Hindered ∨ ∃ text, changed.print = .ok text ∧ Fix.NoSource text)) := by
  refine ⟨?_, fun source path => ⟨⟨?_, ?_⟩, ?_⟩⟩
  · unfold runWithin
    cases rootFault? disk roots with
    | some e => exact ⟨nofun, fun _ => .failed e⟩
    | none =>
      have reports := extend_sameReport_iff disk s.exclude roots (.empty s.failOn)
      constructor
      · rintro (_ | same) -
        exact reports.1 same
      · exact fun free => .reported (reports.2 (free rfl))
  · intro same blocked
    obtain ⟨failed, f, fs, found⟩ := Analyzer.analyzeSource_of_blocked blocked path
    rw [failed, found] at same
    cases same
  · intro free
    have same := Analyzer.analyzeSource_of_not_blocked free path
    rw [← same]
    cases fixing.analyzeSource source path with
    | error e => rfl
    | ok fs => simp [Except.map, Finding.withoutFix]
  · intro blocked
    obtain ⟨failed, found⟩ := Analyzer.analyzeSource_of_blocked blocked path
    obtain ⟨tree, extent, changed, read, -, blocks⟩ := blocked
    exact ⟨failed, found, tree, extent, changed, read, blocks, blocks.cause (readTree_wellFormed read)⟩

/-- A working folder with one source file. -/
def oneFile (text : String) : Disk := { work := .folder [("a.py".toList, .file (.text text.toList))] }

/-- The text of `a.b('x', f'…')`, in which the format string holds a number with a width. -/
def numberCall : String := "a.b('x', f'\x7bn:>\x7bw\x7d\x7d')\n"

/-- A format string in the call as such does not matter: there is a finding, and asking for fixes adds one to it. -/
theorem runWithin_suggestFixes_numberCall :
    SameOutcome (runWithin (oneFile numberCall) { suggestFixes := true } [.ofString "."])
      (runWithin (oneFile numberCall) { suggestFixes := false } [.ofString "."]) ∧
    ∃ r, runWithin (oneFile numberCall) { suggestFixes := true } [.ofString "."] = .ok r ∧ r.exitCode = 1 ∧
      r.findings.any (·.fix.isSome) = true := by
  obtain ⟨scans, sources⟩ := runWithin_suggestFixes (oneFile numberCall) {} [.ofString "."]
  constructor
  · refine scans.2 fun _ p hp source read blocked => ?_
    have files : codeFiles (oneFile numberCall) sourceExtensions [] [.ofString "."] = [.ofString "a.py"] := by decide +kernel
    have text : (oneFile numberCall).readText (.ofString "a.py") = .ok numberCall.toList := by decide +kernel
    obtain rfl : p = .ofString "a.py" := List.mem_singleton.1 (files ▸ hp)
    obtain rfl : numberCall.toList = source := Except.ok.inj (text.symm.trans read)
    have run : (fixing.analyzeSource numberCall.toList "a.py").toOption.isSome = true := by decide +kernel
    rw [((sources _ "a.py").2 blocked).1] at run
    cases run
  · have run : ((runWithin (oneFile numberCall) { suggestFixes := true } [.ofString "."]).toOption.any fun r =>
        r.exitCode == 1 && r.findings.any (·.fix.isSome)) = true := by decide +kernel
    obtain ⟨r, ended, checks⟩ := Tree.any_toOption.1 run
    rw [Bool.and_eq_true, beq_iff_eq] at checks
    exact ⟨r, ended, checks⟩

/-- The text of `a.b('x', f'…')`, in which the format string holds a text with the control character 7. -/
def controlCall : String := "a.b('x', f'\x7b\"\x07\"\x7d')\n"

/-- A text in a format string that cannot be written there: asking for fixes makes a scan that fails with a finding pass
without having scanned the file. -/
theorem runWithin_loses_controlCall :
    ¬ SameOutcome (runWithin (oneFile controlCall) { suggestFixes := true } [.ofString "."])
      (runWithin (oneFile controlCall) { suggestFixes := false } [.ofString "."]) ∧
    ∃ r r', runWithin (oneFile controlCall) { suggestFixes := true } [.ofString "."] = .ok r ∧
      runWithin (oneFile controlCall) { suggestFixes := false } [.ofString "."] = .ok r' ∧
      r.filesSkipped = ["a.py"] ∧ r.exitCode = 0 ∧ r'.filesSkipped = [] ∧ r'.exitCode = 1 := by
  have fixed : ((runWithin (oneFile controlCall) { suggestFixes := true } [.ofString "."]).toOption.any fun r =>
      r.filesSkipped == ["a.py"] && r.exitCode == 0) = true := by decide +kernel
  have plain : ((runWithin (oneFile controlCall) { suggestFixes := false } [.ofString "."]).toOption.any fun r =>
      r.filesSkipped == [] && r.exitCode == 1) = true := by decide +kernel
  obtain ⟨r, ended, checks⟩ := Tree.any_toOption.1 fixed
  obtain ⟨r', ended', checks'⟩ := Tree.any_toOption.1 plain
  simp only [Bool.and_eq_true, beq_iff_eq] at checks checks'
  obtain ⟨skipped, passed⟩ := checks
  obtain ⟨skipped', failed⟩ := checks'
  refine ⟨?_, r, r', ended, ended', skipped, passed, skipped', failed⟩
  rw [ended, ended']
  rintro (_ | same)
  have exits := same.exitCode
  omega

end Scan

end CallLint

import CallLint.Scan

/-!
# Counts and findings

A result keeps its findings and, apart from them, their numbers by severity. Adding a finding changes both, and a scan changes them
only by adding findings (`addFile_eq_addAll`), so that after any operations the numbers are those of the findings (`run_tallied`).
What a report says in numbers then depends on the findings alone, and not on their order.
-/

namespace CallLint

open Files

namespace Report

/-- How many findings have a severity. -/
def numberOf (v : Severity) (fs : List Finding) : Nat := fs.countP (·.severity == v)

@[simp] theorem numberOf_nil (v : Severity) : numberOf v [] = 0 := rfl

theorem numberOf_append (v : Severity) (fs gs : List Finding) : numberOf v (fs ++ gs) = numberOf v fs + numberOf v gs :=
  List.countP_append

theorem numberOf_cons (v : Severity) (f : Finding) (fs : List Finding) :
    numberOf v (f :: fs) = (if f.severity = v then 1 else 0) + numberOf v fs := by
  rw [numberOf, List.countP_cons, ← numberOf, Nat.add_comm]
  simp only [beq_iff_eq]

theorem numberOf_eq_zero {v : Severity} {fs : List Finding} : numberOf v fs = 0 ↔ ∀ f ∈ fs, f.severity ≠ v := by
  simp [numberOf, List.countP_eq_zero]

/-- The numbers of findings of all severities make up all findings. -/
theorem numberOf_sum (fs : List Finding) :
    numberOf .error fs + (numberOf .warning fs + (numberOf .info fs + numberOf .hidden fs)) = fs.length := by
  induction fs with
  | nil => rfl
  | cons f fs ih =>
    simp only [numberOf_cons, List.length_cons]
    cases f.severity <;> simp only [↓reduceIte, reduceCtorEq] <;> omega

/-! ### Adding findings -/

namespace Summary

theorem count_increment (s : Summary) (v w : Severity) :
    (s.increment v).count w = s.count w + if v = w then 1 else 0 := by
  cases v <;> cases w <;> rfl

theorem eq_of_count {s s' : Summary} (h : ∀ v, s.count v = s'.count v) : s = s' := by
  have error : s.error = s'.error := h .error
  have warning : s.warning = s'.warning := h .warning
  have info : s.info = s'.info := h .info
  have hidden : s.hidden = s'.hidden := h .hidden
  cases s
  cases s'
  simp_all

end Summary

namespace Result

/-- All that adding findings changes: they are put behind those that are there, and counted. -/
theorem addAll_eq (r : Result) (fs : List Finding) :
    ∃ s, r.addAll fs = { r with summary := s, findings := r.findings ++ fs } ∧
      ∀ v, s.count v = r.summary.count v + numberOf v fs := by
  induction fs generalizing r with
  | nil => exact ⟨r.summary, by simp [addAll], fun v => by simp⟩
  | cons f fs ih =>
    obtain ⟨s, eq, counts⟩ := ih (r.add f)
    refine ⟨s, ?_, fun v => ?_⟩
    · have first : r.addAll (f :: fs) = (r.add f).addAll fs := rfl
      rw [first, eq]
      simp [add]
    · rw [counts, numberOf_cons, ← Nat.add_assoc, add, Summary.count_increment]

/-- A result whose numbers are those of its findings. -/
def Tallied (r : Result) : Prop := ∀ v, r.summary.count v = numberOf v r.findings

theorem tallied_empty (failOn : Severity) : (empty failOn).Tallied := by
  intro v
  cases v <;> rfl

theorem Tallied.addAll {r : Result} (h : r.Tallied) (fs : List Finding) : (r.addAll fs).Tallied := by
  obtain ⟨s, eq, counts⟩ := r.addAll_eq fs
  intro v
  rw [eq, numberOf_append, ← h v]
  exact counts v

/-- What a report says in numbers: the counts, their sum, the rows of the table, whether the scan passed, and the exit code. -/
def figures (r : Result) : Summary × Nat × List (Severity × Nat) × Bool × Nat :=
  (r.summary, r.summary.total, r.summary.rows, r.passed, r.exitCode)

theorem passed_iff {r : Result} : r.passed = true ↔ ∀ f ∈ r.findings, f.severity.rank < r.failOn.rank := by
  simp [passed]

theorem exitCode_eq_zero {r : Result} : r.exitCode = 0 ↔ r.passed = true := by
  unfold exitCode
  split <;> simp_all

/-- Whether a scan passed can be told from the counts. -/
theorem Tallied.passed_iff {r : Result} (h : r.Tallied) :
    r.passed = true ↔ ∀ v, r.failOn.rank ≤ v.rank → r.summary.count v = 0 := by
  rw [Result.passed_iff]
  constructor
  · intro low v serious
    rw [h v, numberOf_eq_zero]
    rintro f hf rfl
    exact absurd (low f hf) (Nat.not_lt.2 serious)
  · intro none f hf
    refine Nat.lt_of_not_le fun serious => ?_
    have zero := none f.severity serious
    rw [h, numberOf_eq_zero] at zero
    exact zero f hf rfl

theorem Tallied.total_eq {r : Result} (h : r.Tallied) : r.summary.total = r.findings.length := by
  have sum := numberOf_sum r.findings
  rw [← h .error, ← h .warning, ← h .info, ← h .hidden] at sum
  exact sum

/-- The order of findings does not show in numbers. -/
theorem Tallied.figures_eq {r r' : Result} (h : r.Tallied) (h' : r'.Tallied) (perm : r.findings.Perm r'.findings)
    (same : r.failOn = r'.failOn) : r.figures = r'.figures := by
  have summary : r.summary = r'.summary := by
    refine Summary.eq_of_count fun v => ?_
    rw [h v, h' v]
    exact perm.countP_eq _
  have passed : r.passed = r'.passed := by
    rw [Bool.eq_iff_iff, h.passed_iff, h'.passed_iff, summary, same]
  simp only [figures, exitCode, summary, passed]

end Result

end Report

namespace Scan

open Report

/-! ### Operations -/

/-- A file adds findings, and counts among those that were scanned or skipped. -/
theorem addFile_eq_addAll (a : Analyzer) (disk : Disk) (r : Result) (p : Path) :
    ∃ fs scanned skipped, addFile a disk r p = { r with filesScanned := scanned, filesSkipped := skipped }.addAll fs := by
  unfold addFile
  split
  · exact ⟨[], r.filesScanned, _, rfl⟩
  · next fs _ => exact ⟨fs, _, r.filesSkipped, rfl⟩

/-- What can be done to a result: a finding is added, or the files below some roots are scanned. A scan that stops at a root that
cannot be looked up has scanned those before it. -/
inductive Operation where
  | add (f : Finding)
  | scan (a : Analyzer) (disk : Disk) (exclude : List (List Char)) (roots : List Path)

/-- The result after an operation. -/
def Operation.apply (r : Result) : Operation → Result
  | add f => r.add f
  | scan a disk exclude roots => extend a disk exclude roots r

/-- The result after some operations, with nothing found before them. -/
def afterAll (failOn : Severity) (ops : List Operation) : Result := ops.foldl Operation.apply (.empty failOn)

/-- A result that keeps its lowest failing severity and whose numbers are those of its findings. -/
structure Sound (failOn : Severity) (r : Result) : Prop where
  failOn_eq : r.failOn = failOn
  tallied : r.Tallied

theorem Sound.addAll {failOn : Severity} {r : Result} (h : Sound failOn r) (fs : List Finding) :
    Sound failOn (r.addAll fs) := by
  refine ⟨?_, h.tallied.addAll fs⟩
  obtain ⟨s, eq, -⟩ := r.addAll_eq fs
  rw [eq]
  exact h.failOn_eq

theorem Sound.addFile {failOn : Severity} {r : Result} (h : Sound failOn r) (a : Analyzer) (disk : Disk) (p : Path) :
    Sound failOn (addFile a disk r p) := by
  obtain ⟨fs, scanned, skipped, eq⟩ := addFile_eq_addAll a disk r p
  have files : Sound failOn { r with filesScanned := scanned, filesSkipped := skipped } := ⟨h.failOn_eq, h.tallied⟩
  rw [eq]
  exact files.addAll fs

theorem Sound.apply {failOn : Severity} {r : Result} (h : Sound failOn r) (op : Operation) : Sound failOn (op.apply r) := by
  cases op with
  | add f => exact h.addAll [f]
  | scan a disk exclude roots =>
    simp only [Operation.apply, extend]
    generalize codeFiles disk sourceExtensions exclude roots = files
    induction files generalizing r with
    | nil => exact h
    | cons p files ih => exact ih (h.addFile a disk p)

/-- Whatever is done, the numbers are those of the findings. -/
theorem afterAll_sound (failOn : Severity) (ops : List Operation) : Sound failOn (afterAll failOn ops) := by
  have run : ∀ r, Sound failOn r → Sound failOn (ops.foldl Operation.apply r) := by
    induction ops with
    | nil => exact fun _ h => h
    | cons op ops ih => exact fun r h => ih _ (h.apply op)
  exact run _ ⟨rfl, Result.tallied_empty failOn⟩

/-- Findings that are added one by one are those of the result. -/
theorem afterAll_add (failOn : Severity) (fs : List Finding) : (afterAll failOn (fs.map .add)).findings = fs := by
  have added : afterAll failOn (fs.map .add) = (Result.empty failOn).addAll fs := by
    rw [afterAll, List.foldl_map]
    rfl
  obtain ⟨s, eq, -⟩ := (Result.empty failOn).addAll_eq fs
  rw [added, eq]
  rfl

/-- A report is consistent with itself, whatever was added and scanned: each counter is the number of findings of its severity,
the total and the rows make up all findings, and the scan passed, with exit code 0, if and only if the counters of all severities
that are serious enough are zero. The same findings in any other order, by whatever operations, give the same figures; and what
passes goes on to pass if only more serious findings fail. -/
theorem afterAll_consistent (failOn : Severity) (ops : List Operation) :
    let r := afterAll failOn ops
    r.failOn = failOn ∧
    r.summary = ⟨numberOf .error r.findings, numberOf .warning r.findings, numberOf .info r.findings,
      numberOf .hidden r.findings⟩ ∧
    r.summary.total = r.findings.length ∧
    (r.summary.rows.map (·.2)).foldr (· + ·) 0 = r.findings.length ∧
    (r.passed = true ↔ ∀ v, failOn.rank ≤ v.rank → r.summary.count v = 0) ∧
    (r.exitCode = 0 ↔ r.passed = true) ∧
    (∀ ops', (afterAll failOn ops').findings.Perm r.findings → (afterAll failOn ops').figures = r.figures) ∧
    (∀ fs, fs.Perm r.findings → (afterAll failOn (fs.map .add)).findings = fs ∧
      (afterAll failOn (fs.map .add)).figures = r.figures) ∧
    ∀ higher : Severity, failOn.rank ≤ higher.rank → r.passed = true → { r with failOn := higher }.passed = true := by
  intro r
  have sound : Sound failOn r := afterAll_sound failOn ops
  have reordered : ∀ ops', (afterAll failOn ops').findings.Perm r.findings → (afterAll failOn ops').figures = r.figures := by
    intro ops' perm
    have sound' := afterAll_sound failOn ops'
    exact sound'.tallied.figures_eq sound.tallied perm (sound'.failOn_eq.trans sound.failOn_eq.symm)
  refine ⟨sound.failOn_eq, ?_, sound.tallied.total_eq, ?_, ?_, Result.exitCode_eq_zero, reordered, ?_, ?_⟩
  · refine Summary.eq_of_count fun v => ?_
    rw [sound.tallied v]
    cases v <;> rfl
  · rw [← sound.tallied.total_eq]
    rfl
  · rw [sound.tallied.passed_iff, sound.failOn_eq]
  · intro fs perm
    have added := afterAll_add failOn fs
    exact ⟨added, reordered _ (by rw [added]; exact perm)⟩
  · intro higher le passed
    rw [Result.passed_iff] at passed ⊢
    intro f hf
    exact Nat.lt_of_lt_of_le (sound.failOn_eq ▸ passed f hf) le

end Scan

end CallLint

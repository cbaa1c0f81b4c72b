import CallLint.Finding
import CallLint.Sorting
import CallLint.Text.Lines

/-!
# Results of a scan

Findings are collected with their counts by severity. A scan passes unless some finding is at least as serious as the
severity it fails on.
-/

namespace CallLint.Report

/-- Numbers of findings by severity. -/
structure Summary where
  error : Nat
  warning : Nat
  info : Nat
  hidden : Nat
deriving DecidableEq, Repr, Inhabited

namespace Summary

/-- No findings. -/
def empty : Summary := ⟨0, 0, 0, 0⟩

/-- One more finding of a severity. -/
def increment (s : Summary) : Severity → Summary
  | .error => { s with error := s.error + 1 }
  | .warning => { s with warning := s.warning + 1 }
  | .info => { s with info := s.info + 1 }
  | .hidden => { s with hidden := s.hidden + 1 }

/-- The number of findings of a severity. -/
def count (s : Summary) : Severity → Nat
  | .error => s.error
  | .warning => s.warning
  | .info => s.info
  | .hidden => s.hidden

/-- Severities with their numbers, the most serious first. -/
def rows (s : Summary) : List (Severity × Nat) := Severity.all.map fun v => (v, s.count v)

/-- The number of all findings. -/
def total (s : Summary) : Nat := s.rows.foldr (fun r n => r.2 + n) 0

end Summary

/-- What a scan has found. -/
structure Result where
  summary : Summary
  findings : List Finding
  filesScanned : Int
  filesSkipped : List String
  failOn : Severity
deriving Inhabited

namespace Result

/-- Nothing found yet. -/
def empty (failOn : Severity) : Result := ⟨.empty, [], 0, [], failOn⟩

/-- Adds a finding. -/
def add (r : Result) (f : Finding) : Result :=
  { r with summary := r.summary.increment f.severity, findings := r.findings ++ [f] }

/-- Adds findings. -/
def addAll (r : Result) (fs : List Finding) : Result := fs.foldl add r

/-- Whether no finding is serious enough to fail. -/
def passed (r : Result) : Bool := !r.findings.any fun f => decide (r.failOn.rank ≤ f.severity.rank)

/-- The exit code of the scan. -/
def exitCode (r : Result) : Nat := if r.passed then 0 else 1

/-- Whether a finding comes before another among the worst: by severity, path, line and column. -/
def worseLe (a b : Finding) : Bool :=
  if a.severity != b.severity then decide (b.severity.rank < a.severity.rank)
  else if a.path != b.path then Sorting.textLe a.path b.path
  else a.location.startLe b.location

/-- The worst findings: the first `limit`, or all but the last `-limit`. -/
def top (r : Result) (limit : Int) : List Finding :=
  (Sorting.sort worseLe r.findings).take (Text.sliceEnd r.findings.length limit)

end Result

/-- How many findings a table shows by default. -/
def defaultLimit : Int := 5

end CallLint.Report

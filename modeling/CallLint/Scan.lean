import CallLint.Files.Find
import CallLint.Fix.Extract
import CallLint.Report.Result
import CallLint.Settings

/-!
# Scans

A scan analyses the source files below some roots, one after the other. A file that cannot be read or analysed is skipped and
named in the result; it does not stop the scan. Only a root that cannot be looked up does.
-/

namespace CallLint

open Files Report

/-- The analyzer that settings ask for. -/
def Settings.analyzer (s : Settings) : Analyzer :=
  ⟨Rule.defaults, if s.suggestFixes then Fix.extract else .decline⟩

namespace Scan

/-- The findings in a file, or nothing if it cannot be read as text or analysed. -/
def findings? (a : Analyzer) (disk : Disk) (p : Path) : Option (List Finding) :=
  match disk.readText p with
  | .error _ => none
  | .ok source => (a.analyzeSource source p.toString).toOption

/-- Adds what a file holds to a result. -/
def addFile (a : Analyzer) (disk : Disk) (r : Result) (p : Path) : Result :=
  match findings? a disk p with
  | none => { r with filesSkipped := r.filesSkipped ++ [p.toString] }
  | some fs => { r with filesScanned := r.filesScanned + 1 }.addAll fs

/-- Adds what the files below some roots hold to a result, without the files that a pattern leaves out. -/
def extend (a : Analyzer) (disk : Disk) (exclude : List (List Char)) (roots : List Path) (r : Result) : Result :=
  (codeFiles disk sourceExtensions exclude roots).foldl (addFile a disk) r

/-- The result of scanning the files below some roots. -/
def run (disk : Disk) (s : Settings) (roots : List Path) : Result :=
  extend s.analyzer disk s.exclude roots (.empty s.failOn)

/-- The result of scanning the files below some roots, if all roots can be looked up. -/
def runWithin (disk : Disk) (s : Settings) (roots : List Path) : Except FileError Result :=
  match rootFault? disk roots with
  | some e => .error e
  | none => .ok (run disk s roots)

end Scan

end CallLint

import CallLint.CommandLine.Arguments
import CallLint.CommandLine.Usage
import CallLint.Report.Output
import CallLint.Scan

/-!
# Running the command line

`run` is the whole program as a function: from the files and the words of the command line to what is printed, the files
afterwards, and how the program ends.
-/

namespace CallLint.CommandLine

open Files Report

/-- How the program ends: with an exit code, with a message about the settings, or by a failure. Failures are settings with a
value that cannot be read, a severity or a path that is left without a value, a source that cannot be looked up, and a report
that cannot be written. -/
inductive Ending where
  | code (n : Nat)
  | refused (message : List Char)
  | badSettings (f : Settings.FileFault)
  | badSeverity (e : SeverityError)
  | noPath
  | unread (e : FileError)
  | unwritten (e : FileError)
deriving Inhabited

/-- What the program leaves behind. -/
structure Outcome where
  ending : Ending
  stdout : List Char := []
  stderr : List Char := []
  written : Option (Path × List Char) := none
  disk : Disk
deriving Inhabited

/-- The sources when none are given. -/
def defaultSources : List (Option (List Char)) := [some "src".toList]

/-- The sources that the command line gives, or the default. -/
def Arguments.allSources (a : Arguments) : List (Option (List Char)) :=
  if a.sources.isEmpty then defaultSources else a.sources

/-- The settings with what the command line says instead. A severity without a value is shown as an empty list. -/
def Arguments.override (a : Arguments) (s : Settings) : Except SeverityError Settings := do
  let failOn ← match a.failOn with
    | none => pure s.failOn
    | some (some severity) => pure severity
    | some none => throw (.unknown (.list []))
  return { s with failOn, suggestFixes := a.suggestFixes || s.suggestFixes }

/-- What is logged about the files that a scan skipped. -/
def skipLines (r : Result) : List String := r.filesSkipped.map fun p => "DEBUG authlint.host: Skipping " ++ p

/-- What is logged about a scan: the files that were skipped, and the counts. -/
def logLines (r : Result) : List String :=
  skipLines r ++
    ["INFO authlint.host: Scanned " ++ toString r.filesScanned ++ " files (" ++ toString r.filesSkipped.length ++
      " skipped), " ++ toString r.summary.total ++ " findings"]

/-- Reports a scan. -/
def Arguments.report (a : Arguments) (disk : Disk) (r : Result) : Outcome :=
  let stderr := if a.verbose then ofLines (logLines r) else []
  let o := output r disk a.out (a.format.getD [])
  match o.disk with
  | .ok disk => { ending := .code r.exitCode, stdout := o.printed, stderr, written := o.written, disk }
  | .error e => { ending := .unwritten e, stdout := o.printed, stderr, disk }

/-- What is left behind if the scan stops after some roots: of the files skipped so far there is a log. -/
def Arguments.stopped (a : Arguments) (disk : Disk) (s : Settings) (roots : List Path) (ending : Ending) : Outcome :=
  { ending, stderr := if a.verbose then ofLines (skipLines (Scan.run disk s roots)) else [], disk }

/-- Scans and reports. A source without a value, or one that cannot be looked up, ends the program after the sources before
it. -/
def Arguments.execute (a : Arguments) (disk : Disk) (s : Settings) : Outcome :=
  let roots := ((a.allSources.takeWhile Option.isSome).filterMap id).map Path.ofChars
  match Scan.runWithin disk s roots with
  | .error e => a.stopped disk s (rootsInReach disk roots) (.unread e)
  | .ok r => if a.allSources.all Option.isSome then a.report disk r else a.stopped disk s roots .noPath

/-- Runs the program with settings read from a file. -/
def Arguments.runWith (a : Arguments) (disk : Disk) (p : Path) : Outcome :=
  match Settings.load disk p with
  | .ok s =>
    match a.override s with
    | .ok s => a.execute disk s
    | .error e => { ending := .badSeverity e, disk }
  | .error f =>
    match f.detail? with
    | some d => { ending := .refused (Settings.messageFor p.toChars d), disk }
    | none => { ending := .badSettings f, disk }

/-- Runs the program on the words of a command line. -/
def run (disk : Disk) (words : List (List Char)) : Outcome :=
  match Arguments.ofWords words with
  | .error .help => { ending := .code 0, stdout := help, disk }
  | .error (.usage e) =>
    { ending := .code 2, stderr := usage ++ programName.toList ++ ": error: ".toList ++ e.message ++ ['\n'], disk }
  | .ok a =>
    match a.config with
    | some config => a.runWith disk (Path.ofChars config)
    | none => { ending := .noPath, disk }

end CallLint.CommandLine

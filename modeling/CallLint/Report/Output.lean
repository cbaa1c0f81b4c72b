import CallLint.Files.Disk
import CallLint.Report.Document
import CallLint.Report.Table

/-!
# What a scan prints

A scan prints its table. The report follows, or is written to a file if one is named.
-/

namespace CallLint.Report

open Files

/-- What has been printed, the file that was written, and all files after it; or why they could not be written. -/
structure Output where
  printed : List Char
  written : Option (Path × List Char) := none
  disk : Except FileError Disk

/-- A printed line. -/
def printLine (s : String) : List Char := s.toList ++ ['\n']

/-- Prints the table, then the report in the JSON format; another format has no report. A report goes to the file `path` if
that is given and not empty. -/
def output (r : Result) (disk : Disk) (path : Option (List Char)) (format : List Char) : Output :=
  let shown := printLine (table r defaultLimit)
  if format != "json".toList then { printed := shown, disk := .ok disk }
  else
    let payload := r.toJson.write
    match path with
    | some (c :: cs) =>
      let p := Path.ofChars (c :: cs)
      match disk.writeText p payload with
      | .error e => { printed := shown, disk := .error e }
      | .ok disk =>
        { printed := shown ++ "\nReport written to ".toList ++ c :: cs ++ ['\n']
          written := some (p, payload), disk := .ok disk }
    | _ => { printed := shown ++ "\nJSON Report\n".toList ++ payload ++ ['\n'], disk := .ok disk }

end CallLint.Report

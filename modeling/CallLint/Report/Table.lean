import CallLint.Report.Result

/-!
# The summary table

The counts by severity, the outcome and the worst findings, for the console.
-/

namespace CallLint.Report

/-- Text padded with blanks behind it. -/
def padRight (width : Nat) (s : String) : String := s ++ String.ofList (List.replicate (width - s.length) ' ')

/-- Text padded with blanks before it. -/
def padLeft (width : Nat) (s : String) : String := String.ofList (List.replicate (width - s.length) ' ') ++ s

/-- A line of one character. -/
def ruler (width : Nat) (c : Char) : String := String.ofList (List.replicate width c)

/-- A row of the table. -/
def tableRow (label count : String) : String := padRight 10 label ++ " | " ++ padLeft 5 count

/-- The head of the table. -/
def tableHead : String := tableRow "Severity" "Count"

/-- The two lines about a finding. -/
def findingLines (f : Finding) : List String :=
  ["[" ++ f.severity.label ++ "] " ++ f.ruleId ++ " " ++ f.message ++ " (" ++ f.category ++ ")",
   "  Location: " ++ f.path ++ ":" ++ f.location.placeText]

/-- The lines of the table for a result with at most `limit` findings. -/
def tableLines (r : Result) (limit : Int) : List String :=
  let worst := r.top limit
  let separator := ruler tableHead.length '-'
  ["Scan Summary", ruler 40 '=', tableHead, separator] ++
  r.summary.rows.map (fun (s, n) => tableRow s.label (toString n)) ++
  [separator, "Status    : " ++ (if r.passed then "PASS" else "FAIL"), "Files     : " ++ toString r.filesScanned,
   "Findings  : " ++ toString r.summary.total] ++
  (if worst.isEmpty then [] else ["", "Top Findings", ruler 40 '-'] ++ worst.flatMap findingLines)

/-- The table for a result. -/
def table (r : Result) (limit : Int) : String := "\n".intercalate (tableLines r limit)

end CallLint.Report

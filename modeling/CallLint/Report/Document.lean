import CallLint.Report.Json
import CallLint.Report.Result

/-!
# The report

A result as a JSON document.
-/

namespace CallLint

open Report (Json)
open Report.Json (member ofString)

mutual

/-- A plain value of a tree in a report. -/
def Tree.toJson : Tree → Json
  | .bool b => .bool b
  | .int n => .int n
  | .real x => .real x
  | .text t => .text t
  | .list ts => .array (Tree.listToJson ts)
  | _ => .null

/-- Plain values of a tree in a report. -/
def Tree.listToJson : List Tree → List Json
  | [] => []
  | t :: ts => t.toJson :: Tree.listToJson ts

end

/-- A coordinate in a report. -/
def Coord.toJson (c : Coord) : Json := c.toTree.toJson

/-- A location in a report. -/
def Location.toJson (l : Location) : Json :=
  .object [member "line" l.line.toJson, member "column" l.column.toJson, member "end_line" l.endLine.toJson,
    member "end_column" l.endColumn.toJson]

/-- A proposal in a report. -/
def Proposal.toJson (p : Proposal) : Json :=
  .object [member "title" (ofString p.title), member "location" p.location.toJson,
    member "replacement" ((p.replacement.map fun cs => Json.text (Text.ofChars cs)).getD .null),
    member "constants" (.object (p.constants.map fun (name, value) => (Text.ofChars name, .text value)))]

/-- A finding in a report; it shows a fix only if it has one. -/
def Finding.toJson (f : Finding) : Json :=
  .object ([member "rule_id" (ofString f.ruleId), member "title" (ofString f.title),
    member "message" (ofString f.message), member "category" (ofString f.category),
    member "severity" (ofString f.severity.label), member "location" f.location.toJson,
    member "path" (ofString f.path)] ++ (f.fix.map fun p => member "fix" p.toJson).toList)

namespace Report

/-- Counts in a report. -/
def Summary.toJson (s : Summary) : Json :=
  .object [member "error" (.int s.error), member "warning" (.int s.warning), member "info" (.int s.info),
    member "hidden" (.int s.hidden)]

/-- A result as a document. -/
def Result.toJson (r : Result) : Json :=
  .object [member "summary" r.summary.toJson, member "findings" (.array (r.findings.map Finding.toJson)),
    member "files_scanned" (.int r.filesScanned), member "files_skipped" (.array (r.filesSkipped.map ofString)),
    member "passed" (.bool r.passed)]

end Report

end CallLint

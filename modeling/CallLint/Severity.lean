import CallLint.Text.Upper

/-!
# Severities

How serious a finding is.
-/

namespace CallLint

/-- Severities, the most serious first. -/
inductive Severity where
  | error
  | warning
  | info
  | hidden
deriving DecidableEq, Repr, Inhabited

namespace Severity

/-- Every severity, the most serious first. -/
def all : List Severity := [error, warning, info, hidden]

/-- The rank of a severity; more serious ones rank higher. -/
def rank : Severity → Nat
  | error => 3
  | warning => 2
  | info => 1
  | hidden => 0

/-- How a severity is written in reports. -/
def label : Severity → String
  | error => "ERROR"
  | warning => "WARNING"
  | info => "INFO"
  | hidden => "HIDDEN"

/-- How a severity is written on the command line. -/
def lowerLabel : Severity → String
  | error => "error"
  | warning => "warning"
  | info => "info"
  | hidden => "hidden"

/-- The severity whose label is the text in upper case. -/
def ofText? (t : Text) : Option Severity :=
  all.find? fun s => Text.ofString s.label == t.upper

end Severity

end CallLint

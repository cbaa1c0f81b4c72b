import CallLint.Analysis.Location
import CallLint.Severity

/-!
# Findings and fixes

A finding is what a rule reports about a call; a proposal is how the call could be changed.
-/

namespace CallLint

/-- A replacement for the call at a location, with constants that have to be defined for it. -/
structure Proposal where
  location : Location
  replacement : Option (List Char)
  constants : List (List Char × Text)
  title : String
deriving Inhabited

/-- A violation of a rule. -/
structure Finding where
  ruleId : String
  title : String
  message : String
  category : String
  severity : Severity
  location : Location
  path : String
  fix : Option Proposal
deriving Inhabited

/-- What all findings of a rule have in common. -/
structure Descriptor where
  id : String
  title : String
  message : String
  category : String
  severity : Severity
  description : String
  enabledByDefault : Bool
deriving Inhabited

/-- The finding of a rule at a location. -/
def Descriptor.finding (d : Descriptor) (location : Location) : Finding :=
  ⟨d.id, d.title, d.message, d.category, d.severity, location, "", none⟩

end CallLint

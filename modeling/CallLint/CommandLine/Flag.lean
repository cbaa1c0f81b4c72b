import CallLint.Severity

/-!
# Options of the command line

Each option has one or two spellings; some take a value, and some values are chosen from a list.
-/

namespace CallLint.CommandLine

/-- The options, in the order in which help lists them. -/
inductive Flag where
  | help
  | source
  | config
  | format
  | out
  | failOn
  | suggestFixes
  | verbose
deriving DecidableEq, Repr, Inhabited

namespace Flag

/-- Every option. -/
def all : List Flag := [help, source, config, format, out, failOn, suggestFixes, verbose]

/-- The spellings of an option. -/
def spellings : Flag → List String
  | help => ["-h", "--help"]
  | source => ["--source", "-s"]
  | config => ["--config"]
  | format => ["--format"]
  | out => ["--out", "--output"]
  | failOn => ["--fail-on"]
  | suggestFixes => ["--suggest-fixes"]
  | verbose => ["--verbose", "-v"]

/-- How messages name an option. -/
def name (f : Flag) : String := "/".intercalate f.spellings

/-- Whether a value follows the option. -/
def takesValue : Flag → Bool
  | source | config | format | out | failOn => true
  | help | suggestFixes | verbose => false

/-- The values to choose from, if there is a choice. -/
def choices : Flag → Option (List String)
  | format => some ["json"]
  | failOn => some (Severity.all.map Severity.lowerLabel)
  | _ => none

/-- Every spelling with its option. -/
def spelled : List (List Char × Flag) := all.flatMap fun f => f.spellings.map fun s => (s.toList, f)

/-- The option with this spelling. -/
def ofSpelling? (s : List Char) : Option Flag := spelled.lookup s

end Flag

end CallLint.CommandLine

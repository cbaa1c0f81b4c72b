import CallLint.Severity
import CallLint.Sorting
import CallLint.Yaml.Value

/-!
# Settings

What a settings file can say: which paths are left out, the lowest severity that makes a scan fail, and whether fixes are
proposed. `Settings.ofValue` reads them from a value; every way in which that fails is a `SettingsError`.
-/

namespace CallLint

open Yaml

/-- The settings of a scan. -/
structure Settings where
  exclude : List (List Char) := []
  failOn : Severity := .warning
  suggestFixes : Bool := false
deriving DecidableEq, Repr, Inhabited

/-- Why a value is no severity: it names none, or it holds a number too long to be shown. -/
inductive SeverityError where
  | unknown (v : Value)
  | unshown
deriving Inhabited, Repr

namespace SeverityError

/-- The wording of the error. -/
def message : SeverityError → List Char
  | unknown v =>
    "Unknown severity ".toList ++ v.write ++ "; expected one of: ".toList ++
      Value.commas (Severity.all.map fun s => s.lowerLabel.toList)
  | unshown =>
    ("Exceeds the limit (4300 digits) for integer string conversion; " ++
      "use sys.set_int_max_str_digits() to increase the limit").toList

end SeverityError

namespace Severity

/-- The severity that a value names, in any case. -/
def ofValue (v : Value) : Except SeverityError Severity :=
  let found := match v with
    | .text t => ofText? t
    | _ => none
  match found with
  | some s => .ok s
  | none => .error (if v.writable then .unknown v else .unshown)

end Severity

/-- Why settings are refused. The last four are about values that are not even made of named entries. -/
inductive SettingsError where
  | unknownKeys (names : List Text)
  | badExclude
  | badSeverity (e : SeverityError)
  | badSuggestFixes
  | keysNotText
  | itemsNotKeys
  | notEntries
  | noLookup
deriving Inhabited, Repr

namespace SettingsError

/-- What the error says after the name of the source, if it is one that the settings' author is told about. -/
def detail? : SettingsError → Option (List Char)
  | unknownKeys names => some ("unknown keys: ".toList ++ Value.commas (names.map fun t => t.display.toList))
  | badExclude => some "'exclude' must be a list of glob patterns".toList
  | badSeverity e => some e.message
  | badSuggestFixes => some "'suggest_fixes' must be true or false".toList
  | keysNotText | itemsNotKeys | notEntries | noLookup => none

end SettingsError

namespace Settings

/-- The names of the settings. -/
def knownKeys : List String := ["exclude", "fail_on", "suggest_fixes"]

/-- Refuses keys that name no setting; the message lists them by code point, each once. -/
def checkKeys (keys : List Value) : Except SettingsError Unit :=
  let known := knownKeys.map fun k => Value.text (Text.ofString k)
  let unknown := keys.filter fun k => !known.any (Value.sameKey k)
  if unknown.isEmpty then .ok ()
  else
    let names := unknown.filterMap fun
      | .text t => some t
      | _ => none
    if names.length == unknown.length then .error (.unknownKeys (Sorting.sort Text.le names.eraseDups))
    else .error .keysNotText

/-- The path patterns of a value: one text, or a list of texts. -/
def patterns? : Value → Option (List (List Char))
  | .text t => some [t.display.toList]
  | .list items => items.mapM fun
    | .text t => some t.display.toList
    | _ => none
  | _ => none

/-- The path patterns that a value sets. -/
def readExclude (v : Value) : Except SettingsError (List (List Char)) :=
  match patterns? v with
  | some ps => .ok ps
  | none => .error .badExclude

/-- The severity that a value sets. -/
def readFailOn (v : Value) : Except SettingsError Severity :=
  match Severity.ofValue v with
  | .ok s => .ok s
  | .error e => .error (.badSeverity e)

/-- Whether a value asks for fixes. -/
def readSuggestFixes : Value → Except SettingsError Bool
  | .bool b => .ok b
  | _ => .error .badSuggestFixes

/-- A setting in the entries of a mapping; one that is not there has its default. -/
def setting {α : Type} (entries : List (Value × Value)) (key : String) (default : α) (read : Value → Except SettingsError α) :
    Except SettingsError α :=
  match Value.lookup entries key with
  | none => .ok default
  | some v => read v

/-- The settings in the entries of a mapping. -/
def ofEntries (entries : List (Value × Value)) : Except SettingsError Settings := do
  checkKeys (entries.map (·.1))
  let exclude ← setting entries "exclude" [] readExclude
  let failOn ← setting entries "fail_on" .warning readFailOn
  let suggestFixes ← setting entries "suggest_fixes" false readSuggestFixes
  return { exclude, failOn, suggestFixes }

/-- The settings of a value. Only a mapping has any; of a list or a text the items are first checked as keys. -/
def ofValue : Value → Except SettingsError Settings
  | .map entries => ofEntries entries
  | .list items => do
    if items.all Value.isKey then checkKeys items else .error .itemsNotKeys
    .error .noLookup
  | .text t => do
    checkKeys (t.map fun c => Value.text [c])
    .error .noLookup
  | _ => .error .notEntries

end Settings

end CallLint

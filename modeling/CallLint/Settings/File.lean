import CallLint.Files.Disk
import CallLint.Settings
import CallLint.Yaml.Document

/-!
# Settings files

A settings file that is not there, or that holds no value, leaves every setting at its default.
-/

namespace CallLint.Settings

open Files Yaml

/-- The name of the settings file that is looked for. -/
def fileName : String := ".authlint.yaml"

/-- Why a settings file is refused: it cannot be read as text, it is not well formed, one of its scalars has no value, it is
no mapping, or the mapping is refused. -/
inductive FileFault where
  | unreadable
  | malformed
  | scalar (f : Fault)
  | notMapping
  | settings (e : SettingsError)
deriving Inhabited, Repr

/-- What the fault says after the file's name, if it is one that the file's author is told about. -/
def FileFault.detail? : FileFault → Option (List Char)
  | unreadable => some "cannot read settings".toList
  | malformed => some "invalid YAML".toList
  | scalar _ => none
  | notMapping => some "expected a YAML mapping at top level".toList
  | settings e => e.detail?

/-- A message about a source. -/
def messageFor (source detail : List Char) : List Char := source ++ ':' :: ' ' :: detail

/-- The settings of a settings text. -/
def ofText (cs : List Char) : Except FileFault Settings :=
  match Yaml.read cs with
  | .error .malformed => .error .malformed
  | .error f => .error (.scalar f)
  | .ok .null => .ok {}
  | .ok (.map entries) =>
    match ofEntries entries with
    | .ok s => .ok s
    | .error e => .error (.settings e)
  | .ok _ => .error .notMapping

/-- The settings in a file. -/
def load (disk : Disk) (p : Path) : Except FileFault Settings :=
  if (disk.find? p).isNone && !disk.isTooLong p then .ok {}
  else
    match disk.readText p with
    | .ok cs => ofText cs
    | .error _ => .error .unreadable

end CallLint.Settings

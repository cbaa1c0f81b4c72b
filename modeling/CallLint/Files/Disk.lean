import CallLint.Files.Path
import CallLint.Text.Lines

/-!
# Files and folders

The files that a program sees, as a value. A path is followed component by component, from the working folder or from the
root; double dots lead back, but only out of a folder that exists, and the outermost folder leads back to itself. What is
written outside the working folder is not kept. Names and paths have a greatest length in bytes: what is longer can neither be
looked up nor made.
-/

namespace CallLint.Files

/-- What a file holds: text, or bytes that may be none. -/
inductive Content where
  | text (cs : List Char)
  | bytes (bs : List UInt8)
deriving DecidableEq, Repr, Inhabited

/-- A file or a folder with its named entries. -/
inductive Entry where
  | file (content : Content)
  | folder (entries : List (List Char × Entry))
deriving Inhabited

/-- Why a file cannot be read or written. -/
inductive FileError where
  /-- It is a folder. -/
  | isFolder
  /-- Its bytes are no text. -/
  | notText
  /-- A file stands where a folder is needed. -/
  | occupied
  /-- A file stands in the middle of the path. -/
  | notFolder
  /-- There is no such folder. -/
  | missing
  /-- No file can have such a name. -/
  | badName
  /-- The path or a name in it is too long. -/
  | tooLong
deriving DecidableEq, Repr

/-- The text of a file, each line break a line feed. -/
def Content.read (c : Content) : Option (List Char) :=
  match c with
  | .text cs => some (Text.unifyBreaks cs)
  | .bytes bs => (Text.Utf8.decode? bs).map Text.unifyBreaks

namespace Entry

/-- The entry with a name. -/
def lookup (e : Entry) (name : List Char) : Option Entry :=
  match e with
  | file _ => none
  | folder entries => entries.lookup name

/-- Whether an entry is a file. -/
def isFile : Entry → Bool
  | file _ => true
  | folder _ => false

/-- Whether an entry is a folder. -/
def isFolder (e : Entry) : Bool := !e.isFile

/-- Where one component leads from an entry; `above` are the folders around it, the innermost first. -/
def step (above : List Entry) (e : Entry) (part : List Char) : Option (List Entry × Entry) :=
  if part != ['.', '.'] then (e.lookup part).map ((e :: above), ·)
  else if e.isFile then none
  else match above with
    | outer :: above => some (above, outer)
    | [] => some ([], e)

/-- Follows components from an entry; `above` are the folders around it, the innermost first. -/
def follow (above : List Entry) (e : Entry) : List (List Char) → Option Entry
  | [] => some e
  | part :: parts =>
    match step above e part with
    | some (above, inner) => follow above inner parts
    | none => none

/-- The bytes of the longest name. -/
def maxName : Nat := 255

/-- Whether following components comes to a folder in which a name that is too long is looked up. -/
def meetsLongName (above : List Entry) (e : Entry) : List (List Char) → Bool
  | [] => false
  | part :: parts =>
    if e.isFolder && decide (maxName < Text.Utf8.size part) then true
    else match step above e part with
      | some (above, inner) => meetsLongName above inner parts
      | none => false

mutual

/-- The files below an entry at a path. -/
def filesBelow (p : Path) : Entry → List Path
  | file _ => []
  | folder entries => filesIn p entries

/-- The files among and below the entries of a folder. -/
def filesIn (p : Path) : List (List Char × Entry) → List Path
  | [] => []
  | (name, e) :: rest =>
    (if e.isFile then [p.child name] else []) ++ filesBelow (p.child name) e ++ filesIn p rest

end

/-- Changes the entry with a name, or adds it. -/
def setEntry (name : List Char) (e : Entry) : List (List Char × Entry) → List (List Char × Entry)
  | [] => [(name, e)]
  | (n, old) :: rest => if n == name then (n, e) :: rest else (n, old) :: setEntry name e rest

/-- Puts an entry at plain components; folders on the way are made. A file on the way is left as it is. -/
def put (new : Entry) : List (List Char) → Entry → Entry
  | [], _ => new
  | part :: parts, e =>
    match e with
    | file c => file c
    | folder entries => folder (setEntry part (put new parts ((entries.lookup part).getD (folder []))) entries)

end Entry

/-- The working folder, the folders around it from the innermost, and the root folder. By default nothing is known about the
folder around. -/
structure Disk where
  work : Entry := .folder []
  around : List Entry := [.folder []]
  root : Entry := .folder []
deriving Inhabited

namespace Disk

open Entry

/-- The entry at a path. -/
def find? (disk : Disk) (p : Path) : Option Entry :=
  if p.root.isEmpty then follow disk.around disk.work p.parts else follow [] disk.root p.parts

/-- The bytes of the longest path. -/
def maxPath : Nat := 4095

/-- Whether looking up a path fails because the path or a name in it is too long. A path with the character `NUL` is never
looked up. -/
def isTooLong (disk : Disk) (p : Path) : Bool :=
  !p.toChars.contains '\x00' && (decide (maxPath < Text.Utf8.size p.toChars) ||
    if p.root.isEmpty then meetsLongName disk.around disk.work p.parts else meetsLongName [] disk.root p.parts)

/-- Whether there is a file at a path. -/
def hasFile (disk : Disk) (p : Path) : Bool := (disk.find? p).any isFile

/-- Whether there is a folder at a path. -/
def hasFolder (disk : Disk) (p : Path) : Bool := (disk.find? p).any isFolder

/-- Reads the text at a path: empty if there is nothing. -/
def readText (disk : Disk) (p : Path) : Except FileError (List Char) :=
  match disk.find? p with
  | none => if disk.isTooLong p then .error .tooLong else .ok []
  | some (folder _) => .error .isFolder
  | some (file c) =>
    match c.read with
    | some cs => .ok cs
    | none => .error .notText

/-- The components of a path without double dots, each of which takes back the component before it; nothing if the path
leads out of the working folder. -/
def plainParts (back : List (List Char)) : List (List Char) → Option (List (List Char))
  | [] => some back.reverse
  | part :: parts =>
    if part != ['.', '.'] then plainParts (part :: back) parts
    else match back with
      | [] => none
      | _ :: back => plainParts back parts

/-- Puts an entry at a path inside the working folder. -/
def putAt (disk : Disk) (new : Entry) (p : Path) : Disk :=
  match plainParts [] p.parts with
  | some (part :: parts) => if p.root.isEmpty then { disk with work := put new (part :: parts) disk.work } else disk
  | _ => disk

/-- Makes a folder and the folders around it, `depth` of them at most. -/
def makeFolder (disk : Disk) : Nat → Path → Except FileError Disk
  | 0, _ => .error .missing
  | depth + 1, p =>
    if disk.isTooLong p then .error .tooLong
    else if disk.hasFolder p then .ok disk
    else if disk.hasFile p then .error .occupied
    else if p.parts.isEmpty then .error .missing
    else if disk.hasFile p.parent then .error .notFolder
    else match makeFolder disk depth p.parent with
      | .error e => .error e
      | .ok disk =>
        if disk.isTooLong p then .error .tooLong
        else if disk.hasFolder p then .ok disk
        else .ok (disk.putAt (folder []) p)

/-- Writes a text at a path, making the folders around it. A path that ends in double dots is a folder's. -/
def writeText (disk : Disk) (p : Path) (cs : List Char) : Except FileError Disk :=
  if p.toChars.contains '\x00' then .error .badName
  else
    match makeFolder disk (p.parts.length + 1) p.parent with
    | .error e => .error e
    | .ok disk =>
      if disk.isTooLong p then .error .tooLong
      else if disk.hasFolder p || p.name == ['.', '.'] then .error .isFolder
      else .ok (disk.putAt (file (.text cs)) p)

end Disk

end CallLint.Files

import CallLint.CommandLine.Run

/-!
# The program

Reads the files that the command line names, runs `CommandLine.run` on them, and does what comes out of it: writes the report
file, prints, and exits.
-/

namespace CallLint.Main

open Files CommandLine

/-- The entry at a real path; of a folder only that it is one. -/
def readShallow (path : String) : IO (Option Entry) := do
  try
    let real ← IO.FS.realPath path
    return some (if ← real.isDir then .folder [] else .file (.bytes []))
  catch _ => return none

/-- The entry at a real path; a folder is read with all that is below it. -/
partial def readEntry (path : String) : IO (Option Entry) := do
  match ← readShallow path with
  | none => return none
  | some (.file _) => return some (.file (.bytes (← IO.FS.readBinFile path).toList))
  | some (.folder _) =>
    let mut entries := []
    for e in ← (← IO.FS.realPath path).readDir do
      if let some inner ← readEntry (path ++ "/" ++ e.fileName) then
        entries := (e.fileName.toList, inner) :: entries
    return some (.folder entries.reverse)

/-- How many folders up relative components lead, and the components from there. -/
def climb (up : Nat) (back : List (List Char)) : List (List Char) → Nat × List (List Char)
  | [] => (up, back.reverse)
  | part :: parts =>
    if part != ['.', '.'] then climb up (part :: back) parts
    else match back with
      | [] => climb (up + 1) [] parts
      | _ :: back => climb up back parts

/-- Puts an entry where a path leads, inside the working folder or not. -/
def place (disk : Disk) (p : Path) (e : Entry) : Disk :=
  if !p.root.isEmpty then { disk with root := .put e p.parts disk.root }
  else
    match climb 0 [] p.parts with
    | (0, parts) => { disk with work := .put e parts disk.work }
    | (up + 1, parts) =>
      let around := disk.around ++ List.replicate (up + 1 - disk.around.length) (.folder [])
      { disk with around := around.modify up (Entry.put e parts) }

/-- Makes the folders on the way to a path known, and with `whole` all that is at the path. -/
def learn (disk : Disk) (p : Path) (whole : Bool) : IO Disk := do
  let mut disk := disk
  for n in List.range p.parts.length do
    let q := { p with parts := p.parts.take (n + 1) }
    if (disk.find? q).isNone then
      if let some e ← readShallow q.toString then disk := place disk q e
  if whole then
    if let some e ← readEntry p.toString then disk := place disk p e
  return disk

/-- The files that the arguments name. -/
def readDisk (a : Arguments) : IO Disk := do
  let mut disk : Disk := {}
  for s in a.allSources do
    if let some s := s then disk ← learn disk (.ofChars s) true
  if let some config := a.config then
    let config := Path.ofChars config
    disk ← learn disk config (!(← readShallow config.toString).any Entry.isFolder)
  if let some out := a.out then disk ← learn disk (.ofChars out) false
  return disk

/-- Writes a file, making the folders around it. -/
def writeFile (p : Path) (cs : List Char) : IO Unit := do
  IO.FS.createDirAll p.parent.toString
  IO.FS.writeFile p.toString (String.ofList cs)

end CallLint.Main

open CallLint in
/-- Runs the program on the words after its name. -/
def main (words : List String) : IO UInt32 := do
  let words := words.map String.toList
  let disk ← match CommandLine.Arguments.ofWords words with
    | .ok a => Main.readDisk a
    | .error _ => pure {}
  let o := CommandLine.run disk words
  IO.eprint (String.ofList o.stderr)
  if let some (p, cs) := o.written then Main.writeFile p cs
  IO.print (String.ofList o.stdout)
  match o.ending with
  | .code n => return n.toUInt32
  | .refused message =>
    IO.eprintln (String.ofList message)
    return 1
  | .badSettings _ =>
    IO.eprintln "the settings hold a value that cannot be read"
    return 1
  | .badSeverity e =>
    IO.eprintln (String.ofList e.message)
    return 1
  | .noPath =>
    IO.eprintln "a path is left without a value"
    return 1
  | .unread _ =>
    IO.eprintln "a source cannot be looked up"
    return 1
  | .unwritten _ =>
    IO.eprintln "the report cannot be written"
    return 1

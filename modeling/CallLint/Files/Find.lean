import CallLint.Files.Disk
import CallLint.Files.Glob

/-!
# Files to analyse

A root that is a file stands for itself, a folder for the files at any depth below it. Files are chosen by extension
and left out by patterns, which are matched with the whole path and with the file name.
-/

namespace CallLint.Files

/-- Whether a pattern matches a path or its name. -/
def isExcluded (patterns : List (List Char)) (p : Path) : Bool :=
  patterns.any fun g => Glob.isMatch g p.toChars || Glob.isMatch g p.name

/-- Extensions of source files. -/
def sourceExtensions : List (List Char) := [['.', 'p', 'y']]

/-- The files that a root stands for, folders in the order of their paths. -/
def candidates (disk : Disk) (root : Path) : List Path :=
  match disk.find? root with
  | none => []
  | some e => if e.isFile then [root] else Sorting.sort Path.le (e.filesBelow root)

/-- The files below some roots with one of the extensions and without those that are left out. -/
def codeFiles (disk : Disk) (extensions patterns : List (List Char)) (roots : List Path) : List Path :=
  roots.flatMap fun root =>
    (candidates disk root).filter fun p => extensions.contains p.suffix && !isExcluded patterns p

/-- The roots before the first that is too long to be looked up. -/
def rootsInReach (disk : Disk) (roots : List Path) : List Path := roots.takeWhile fun root => !disk.isTooLong root

/-- Why some root cannot be looked up, if one cannot. -/
def rootFault? (disk : Disk) (roots : List Path) : Option FileError :=
  if roots.any disk.isTooLong then some .tooLong else none

/-- The files below some roots as `codeFiles` lists them, if all roots can be looked up. -/
def listCodeFiles (disk : Disk) (extensions patterns : List (List Char)) (roots : List Path) :
    Except FileError (List Path) :=
  match rootFault? disk roots with
  | some e => .error e
  | none => .ok (codeFiles disk extensions patterns roots)

end CallLint.Files

import CallLint.Files.Find
import CallLint.Proofs.Sorting
import Mathlib.Data.List.Nodup

/-!
# The files that are listed

A root stands for the files of its tree (`Holds`), whichever way the tree is walked (`mem_listed`). Where the names in each folder are
apart, no file is met twice, and so the files are in strictly ascending order of their components (`listCodeFiles_exact`).
-/

namespace CallLint.Files

/-- The path of what components lead to from a path. -/
def Path.below (p : Path) (parts : List (List Char)) : Path := { p with parts := p.parts ++ parts }

/-- Paths in the order of their components, which are compared as texts. -/
def Path.Before (p q : Path) : Prop := List.Lex Sorting.TextBefore p.parts q.parts

theorem Path.le_iff (p q : Path) : p.le q = true ↔ ¬ List.Lex Sorting.TextBefore q.parts p.parts := by
  refine Sorting.lexLe_iff (fun a b => ?_) p.parts q.parts
  rw [Bool.not_eq_true', ← Bool.not_eq_true, Sorting.lexLe_charLt, not_not]

namespace Entry

/-- A file in the tree of an entry, with the names that lead to it. -/
inductive Holds : Entry → List (List Char) → Prop where
  | here (content : Content) : Holds (.file content) []
  | inside {entries : List (List Char × Entry)} {name : List Char} {e : Entry} {parts : List (List Char)} (mem : (name, e) ∈ entries)
      (inner : Holds e parts) : Holds (.folder entries) (name :: parts)

/-- The files in the tree of an entry at a path. -/
def listed (p : Path) (e : Entry) : List Path := if e.isFile then [p] else e.filesBelow p

theorem listed_file (p : Path) (content : Content) : listed p (.file content) = [p] := rfl

theorem listed_folder (p : Path) (entries : List (List Char × Entry)) :
    listed p (.folder entries) = entries.flatMap fun x => listed (p.child x.1) x.2 := by
  have all : filesIn p entries = entries.flatMap fun x => listed (p.child x.1) x.2 := by
    induction entries with
    | nil => rfl
    | cons x entries ih =>
      obtain ⟨name, e⟩ := x
      rw [filesIn, ih, List.flatMap_cons]
      cases e <;> simp [listed, isFile, filesBelow]
  exact all

theorem mem_listed {e : Entry} {p q : Path} : q ∈ listed p e ↔ ∃ parts, e.Holds parts ∧ q = p.below parts := by
  match e with
  | .file content =>
    rw [listed_file, List.mem_singleton]
    constructor
    · rintro rfl
      exact ⟨[], .here content, by simp [Path.below]⟩
    · rintro ⟨_, ⟨⟩, rfl⟩
      simp [Path.below]
  | .folder entries =>
    have inner (x : List Char × Entry) (mem : x ∈ entries) : q ∈ listed (p.child x.1) x.2 ↔
        ∃ parts, x.2.Holds parts ∧ q = p.below (x.1 :: parts) := by
      rw [mem_listed]
      simp [Path.below, Path.child]
    rw [listed_folder, List.mem_flatMap]
    constructor
    · rintro ⟨x, mem, hq⟩
      obtain ⟨parts, holds, rfl⟩ := (inner x mem).1 hq
      exact ⟨x.1 :: parts, .inside mem holds, rfl⟩
    · rintro ⟨_, ⟨⟩ | ⟨mem, holds⟩, rfl⟩
      exact ⟨_, mem, (inner _ mem).2 ⟨_, holds, rfl⟩⟩
termination_by sizeOf e
decreasing_by
  have := List.sizeOf_lt_of_mem mem
  cases x
  simp at this ⊢
  omega

/-- A tree of folders in each of which the names are apart. -/
inductive NamesApart : Entry → Prop where
  | file (content : Content) : NamesApart (.file content)
  | folder {entries : List (List Char × Entry)} (names : entries.Pairwise (·.1 ≠ ·.1)) (inner : ∀ x ∈ entries, NamesApart x.2) :
      NamesApart (.folder entries)

theorem NamesApart.listed_nodup {e : Entry} (h : e.NamesApart) (p : Path) : (listed p e).Nodup := by
  induction h generalizing p with
  | file content => exact List.nodup_singleton p
  | folder names _ ih =>
    rw [listed_folder, List.nodup_flatMap]
    refine ⟨fun x mem => ih x mem _, names.imp fun {x y} apart q hx hy => apart ?_⟩
    obtain ⟨parts, -, rfl⟩ := mem_listed.1 hx
    obtain ⟨parts', -, eq⟩ := mem_listed.1 hy
    simp [Path.below, Path.child] at eq
    exact eq.1

end Entry

theorem candidates_eq (disk : Disk) (root : Path) :
    candidates disk root = ((disk.find? root).map fun e => Sorting.sort Path.le (e.listed root)).getD [] := by
  unfold candidates
  cases disk.find? root with
  | none => rfl
  | some e => cases e <;> rfl

/-- A file to be listed: its extension is one of those asked for, and no pattern matches its path or its name. -/
structure Wanted (extensions patterns : List (List Char)) (p : Path) : Prop where
  extension : p.suffix ∈ extensions
  kept : ∀ g ∈ patterns, Glob.isMatch g p.toChars = false ∧ Glob.isMatch g p.name = false

theorem wanted_iff {extensions patterns : List (List Char)} {p : Path} :
    (extensions.contains p.suffix && !isExcluded patterns p) = true ↔ Wanted extensions patterns p := by
  simp only [isExcluded, Bool.and_eq_true, List.contains_iff_mem, Bool.not_eq_true', List.any_eq_false, Bool.or_eq_true, not_or,
    Bool.not_eq_true]
  exact ⟨fun h => ⟨h.1, h.2⟩, fun h => ⟨h.1, h.2⟩⟩

theorem listCodeFiles_eq (disk : Disk) (extensions patterns : List (List Char)) (root : Path) :
    listCodeFiles disk extensions patterns [root] = if disk.isTooLong root then .error .tooLong else
      .ok ((candidates disk root).filter fun p => extensions.contains p.suffix && !isExcluded patterns p) := by
  simp only [listCodeFiles, rootFault?, codeFiles, List.any_cons, List.any_nil, Bool.or_false, List.flatMap_cons, List.flatMap_nil,
    List.append_nil]
  split <;> simp_all

/-- The files of a tree are listed in strictly ascending order. -/
theorem Entry.NamesApart.sorted {e : Entry} (h : e.NamesApart) (root : Path) :
    (Sorting.sort Path.le (e.listed root)).Pairwise Path.Before := by
  have perm := Sorting.sort_perm Path.le (e.listed root)
  have ascending := Sorting.sort_pairwise_key Path.le_iff (e.listed root)
  refine List.Pairwise.imp_of_mem ?_ (ascending.and (perm.nodup_iff.2 (h.listed_nodup root)))
  intro p q hp hq
  obtain ⟨parts, -, rfl⟩ := mem_listed.1 (perm.mem_iff.1 hp)
  obtain ⟨parts', -, rfl⟩ := mem_listed.1 (perm.mem_iff.1 hq)
  rintro ⟨notLater, ne⟩
  rcases trichotomous_of (List.Lex Sorting.TextBefore) (root.parts ++ parts) (root.parts ++ parts') with before | same | later
  · exact before
  · exact absurd (congrArg (Path.mk root.root) same) ne
  · exact absurd later notLater

/-- For one root, exactly the wanted files are listed. A root that can be looked up gives a list: of a folder, each wanted file at any
depth below it once, in strictly ascending order of components; of a file, the file itself if it is wanted; and of what is not there,
nothing. Only a root that is too long to be looked up gives an error. -/
theorem listCodeFiles_exact (disk : Disk) (extensions patterns : List (List Char)) (root : Path) :
    (listCodeFiles disk extensions patterns [root] = .error .tooLong ↔ disk.isTooLong root = true) ∧
    (disk.isTooLong root = false → ∃ files, listCodeFiles disk extensions patterns [root] = .ok files ∧
      (∀ entries, disk.find? root = some (.folder entries) → (Entry.folder entries).NamesApart →
        (∀ p, p ∈ files ↔ Wanted extensions patterns p ∧ ∃ parts, (Entry.folder entries).Holds parts ∧ p = root.below parts) ∧
        files.Nodup ∧ files.Pairwise Path.Before) ∧
      (∀ content, disk.find? root = some (.file content) →
        (Wanted extensions patterns root → files = [root]) ∧ (¬ Wanted extensions patterns root → files = [])) ∧
      (disk.find? root = none → files = [])) := by
  rw [listCodeFiles_eq, candidates_eq]
  refine ⟨by split <;> simp_all, fun short => ⟨_, if_neg (by simp [short]), ?_, ?_, ?_⟩⟩
  · intro entries found apart
    rw [found, Option.map_some, Option.getD_some]
    have perm := Sorting.sort_perm Path.le ((Entry.folder entries).listed root)
    refine ⟨fun p => ?_, (perm.nodup_iff.2 (apart.listed_nodup root)).filter _, (apart.sorted root).filter _⟩
    rw [List.mem_filter, perm.mem_iff, wanted_iff, Entry.mem_listed, and_comm]
  · intro content found
    have only : Sorting.sort Path.le ((Entry.file content).listed root) = [root] := rfl
    rw [found, Option.map_some, Option.getD_some, only]
    exact ⟨fun wanted => List.filter_cons_of_pos (wanted_iff.2 wanted), fun other => List.filter_cons_of_neg (mt wanted_iff.1 other)⟩
  · intro missing
    rw [missing]
    rfl

/-- A folder whose name goes on with a hyphen behind the name of another one. -/
def hyphenTree : List (List Char × Entry) :=
  [("a-b".toList, .folder [("x.py".toList, .file (.text []))]), ("a".toList, .folder [("x.py".toList, .file (.text []))])]

/-- The files in the folder with the shorter name come first, although a hyphen comes before a slash. -/
theorem listCodeFiles_exact_hyphen : (Entry.folder hyphenTree).NamesApart ∧
    ∃ files, listCodeFiles { work := .folder hyphenTree } sourceExtensions [] [Path.ofChars ['.']] = .ok files ∧
      (∀ p, p ∈ files ↔ Wanted sourceExtensions [] p ∧
        ∃ parts, (Entry.folder hyphenTree).Holds parts ∧ p = (Path.ofChars ['.']).below parts) ∧
      files.Pairwise Path.Before ∧ files.map Path.toString = ["a/x.py", "a-b/x.py"] := by
  have apart : (Entry.folder hyphenTree).NamesApart := by
    refine .folder (by decide) (List.forall_mem_cons.2 ⟨?_, List.forall_mem_singleton.2 ?_⟩) <;>
      exact .folder (List.pairwise_singleton _ _) (List.forall_mem_singleton.2 (.file _))
  obtain ⟨-, listed⟩ := listCodeFiles_exact { work := .folder hyphenTree } sourceExtensions [] (Path.ofChars ['.'])
  obtain ⟨files, run, ofFolder, -, -⟩ := listed (by decide +kernel)
  obtain ⟨exactly, -, ascending⟩ := ofFolder hyphenTree rfl apart
  have shown : (listCodeFiles { work := .folder hyphenTree } sourceExtensions [] [Path.ofChars ['.']]).toOption.map
      (·.map Path.toString) = some ["a/x.py", "a-b/x.py"] := by decide +kernel
  rw [run] at shown
  exact ⟨apart, files, run, exactly, ascending, Option.some.inj shown⟩

/-- A root that is not there gives an error and not an empty list if its name is too long to be looked up. -/
theorem listCodeFiles_long_root : ({} : Disk).find? (Path.ofChars (List.replicate 256 'a')) = none ∧
    listCodeFiles {} sourceExtensions [] [Path.ofChars (List.replicate 256 'a')] = .error .tooLong := by
  rw [listCodeFiles_eq, if_pos (by decide +kernel), ← Option.isNone_iff_eq_none]
  exact ⟨by decide +kernel, rfl⟩

end CallLint.Files

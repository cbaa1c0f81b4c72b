import CallLint.Proofs.Text.Offsets

/-!
# Line breaks

The line breaks of a text are found by looking for them from the front (`breaks`), and they are those at the ends of its lines
(`breaks_eq_filterMap`). A text keeps a style if all its breaks are the same sequence (`Styled`). When a text is put together, a break
can come out of a carriage return and a line feed that were none before; it is of a style that the parts do not have in common, so a text
of one style leaves the style of the whole to the other text (`Styled.append_iff`, `Styled.append_iff'`).
-/

namespace CallLint.Text

/-- The line breaks of a text, from the front. -/
def breaks : List Char → List (List Char)
  | [] => []
  | '\r' :: '\n' :: cs => ['\r', '\n'] :: breaks cs
  | c :: cs => if c == '\r' || c == '\n' then [c] :: breaks cs else breaks cs

/-- All line breaks of a text are `newline`. -/
def Styled (newline s : List Char) : Prop := ∀ b ∈ breaks s, b = newline

instance (newline s : List Char) : Decidable (Styled newline s) := inferInstanceAs (Decidable (∀ b ∈ breaks s, b = newline))

section Breaks

variable {newline s a b : List Char}

theorem breaks_cons_of_ne {c : Char} (cr : c ≠ '\r') (lf : c ≠ '\n') : breaks (c :: s) = breaks s := by
  rw [breaks.eq_def]
  simp [cr, lf]

theorem breaks_cons_of_single {c : Char} (single : ∀ r, c = '\r' → s ≠ '\n' :: r) (isBreak : (c == '\r' || c == '\n') = true) :
    breaks (c :: s) = [c] :: breaks s := by
  rw [breaks]
  · rw [if_pos isBreak]
  · exact single

theorem breaks_append (clean : CleanCut a b) : breaks (a ++ b) = breaks a ++ breaks b := by
  fun_induction breaks a with
  | case1 => rfl
  | case2 cs ih => simpa [breaks] using ih clean.tail.tail
  | case3 c cs single isBreak ih =>
    rw [List.cons_append, breaks_cons_of_single ?_ isBreak, ih clean.tail, List.cons_append]
    rintro r rfl eq
    cases cs with
    | nil => exact clean rfl (congrArg List.head? eq)
    | cons d cs =>
      obtain ⟨rfl, -⟩ := List.cons.inj eq
      exact single cs rfl rfl
  | case4 c cs single other ih =>
    obtain ⟨cr, lf⟩ : c ≠ '\r' ∧ c ≠ '\n' := by simpa using other
    rw [List.cons_append, breaks_cons_of_ne cr lf, ih clean.tail]

theorem breaks_eq_nil : breaks s = [] ↔ ∀ c ∈ s, c ≠ '\r' ∧ c ≠ '\n' := by
  fun_induction breaks s with
  | case1 => simp
  | case2 cs => simp
  | case3 c cs single isBreak ih =>
    simp only [List.cons_ne_nil, false_iff]
    intro h
    have own := h c List.mem_cons_self
    simp [own] at isBreak
  | case4 c cs single other ih =>
    have own : c ≠ '\r' ∧ c ≠ '\n' := by simpa using other
    rw [ih, List.forall_mem_cons, and_iff_right own]

/-- There are three line breaks, and each is one alone. -/
theorem breaks_of_mem (mem : b ∈ breaks s) : (b = ['\n'] ∨ b = ['\r', '\n'] ∨ b = ['\r']) ∧ breaks b = [b] := by
  have kinds : b = ['\n'] ∨ b = ['\r', '\n'] ∨ b = ['\r'] := by
    fun_induction breaks s with
    | case1 => cases mem
    | case2 cs ih =>
      rcases List.mem_cons.1 mem with rfl | mem
      · exact .inr (.inl rfl)
      · exact ih mem
    | case3 c cs single isBreak ih =>
      rcases List.mem_cons.1 mem with rfl | mem
      · rcases Bool.or_eq_true_iff.1 isBreak with eq | eq
        · exact .inr (.inr (by rw [eq_of_beq eq]))
        · exact .inl (by rw [eq_of_beq eq])
      · exact ih mem
    | case4 c cs single other ih => exact ih mem
  refine ⟨kinds, ?_⟩
  rcases kinds with rfl | rfl | rfl <;> rfl

/-- So is the first break of a text, or a line feed if it has none. -/
theorem breaks_headD (first : (breaks s).headD ['\n'] = newline) :
    (newline = ['\n'] ∨ newline = ['\r', '\n'] ∨ newline = ['\r']) ∧ breaks newline = [newline] := by
  cases found : breaks s with
  | nil =>
    obtain rfl : ['\n'] = newline := by simpa [found] using first
    exact ⟨.inl rfl, rfl⟩
  | cons b bs =>
    obtain rfl : b = newline := by simpa [found] using first
    exact breaks_of_mem (s := s) (by simp [found])

theorem lineBreak?_cons {c : Char} {line : List Char} (cr : c ≠ '\r') (lf : c ≠ '\n') : lineBreak? (c :: line) = lineBreak? line := by
  unfold lineBreak?
  rw [List.reverse_cons]
  rcases line.reverse with _ | ⟨d, _ | ⟨e, r⟩⟩
  · simp [cr, lf]
  · simp only [List.singleton_append]
    split <;> simp_all
  · by_cases last : d = '\n'
    · subst last
      by_cases before : e = '\r'
      · subst before
        rfl
      · simp [before]
    · by_cases last : d = '\r' <;> simp [*]

/-- The breaks of a text are those of its lines. -/
theorem breaks_eq_filterMap (s : List Char) : breaks s = (splitLines s).filterMap lineBreak? := by
  fun_induction breaks s with
  | case1 => rfl
  | case2 cs ih =>
    have lines : splitLines ('\r' :: '\n' :: cs) = ['\r', '\n'] :: splitLines cs := rfl
    rw [lines, ih]
    rfl
  | case3 c cs single isBreak ih =>
    have ends : endsLine c cs = true := by
      rw [endsLine, Bool.or_eq_true_iff, Bool.and_eq_true]
      rcases Bool.or_eq_true_iff.1 isBreak with cr | lf
      · refine .inr ⟨cr, bne_iff_ne.2 fun first => ?_⟩
        obtain ⟨r, rfl⟩ := List.head?_eq_some_iff.1 first
        exact single r (eq_of_beq cr) rfl
      · exact .inl lf
    have own : lineBreak? [c] = some [c] := by
      rcases Bool.or_eq_true_iff.1 isBreak with eq | eq <;> (rw [eq_of_beq eq]; rfl)
    rw [splitLines_cons, if_pos ends, List.filterMap_cons_some own, ih]
  | case4 c cs single other ih =>
    obtain ⟨cr, lf⟩ : c ≠ '\r' ∧ c ≠ '\n' := by simpa using other
    have inside : endsLine c cs = false := by simp [endsLine, cr, lf]
    rw [splitLines_cons, if_neg (by simp [inside]), ih]
    cases splitLines cs with
    | nil =>
      have none : lineBreak? [c] = none := lineBreak?_cons cr lf
      simp [none]
    | cons line lines => simp [List.filterMap_cons, lineBreak?_cons cr lf]

/-- The break that is taken from the lines of a text is its first one. -/
theorem newlineOf_splitLines (s : List Char) : newlineOf (splitLines s) = (breaks s).headD ['\n'] := by
  rw [newlineOf, breaks_eq_filterMap, List.headD_eq_head?_getD, List.head?_filterMap]

/-- A text is the concatenation of its lines. -/
theorem flatten_splitLines (s : List Char) : (splitLines s).flatten = s := by
  induction s with
  | nil => rfl
  | cons c cs ih =>
    rw [splitLines_cons]
    split
    · rw [List.flatten_cons, ih]
      rfl
    · have rest : (splitLines cs).headD [] ++ (splitLines cs).tail.flatten = cs := by
        cases eq : splitLines cs with
        | nil => simpa [eq] using ih
        | cons line lines => simpa [eq] using ih
      rw [List.flatten_cons, List.cons_append, rest]

theorem flatten_lines (s : List Char) (k : Nat) : ((splitLines s).take k).flatten ++ ((splitLines s).drop k).flatten = s := by
  rw [← List.flatten_append, List.take_append_drop, flatten_splitLines]

/-- Some lines from the front of a text do not end inside a line break. -/
theorem cleanCut_lines (s : List Char) (k : Nat) : CleanCut ((splitLines s).take k).flatten ((splitLines s).drop k).flatten := by
  induction s generalizing k with
  | nil => simp [splitLines, CleanCut]
  | cons c cs ih =>
    cases k with
    | zero => simp [CleanCut]
    | succ k =>
      rw [splitLines_cons]
      by_cases ends : endsLine c cs = true
      · rw [if_pos ends, List.take_succ_cons, List.drop_succ_cons, List.flatten_cons, List.singleton_append]
        by_cases none : ((splitLines cs).take k).flatten = []
        · have rest : ((splitLines cs).drop k).flatten = cs := by
            have all := flatten_lines cs k
            rwa [none, List.nil_append] at all
          rw [none, rest]
          intro last
          obtain rfl : c = '\r' := by simpa using last
          simpa [endsLine] using ends
        · exact (ih k).cons fun empty => absurd empty none
      · rw [if_neg ends]
        cases lines : splitLines cs with
        | nil => simp [CleanCut]
        | cons line later =>
          have some_char : line ≠ [] := splitLines_ne_nil line (lines ▸ List.mem_cons_self)
          have clean := ih (k + 1)
          rw [lines, List.take_succ_cons, List.drop_succ_cons, List.flatten_cons] at clean
          exact clean.cons fun empty => absurd (List.append_eq_nil_iff.1 empty).1 some_char

/-! ### Styles -/

theorem exists_of_not_cleanCut (h : ¬ CleanCut a b) : ∃ a' b', a = a' ++ ['\r'] ∧ b = '\n' :: b' := by
  obtain ⟨last, first⟩ : a.getLast? = some '\r' ∧ b.head? = some '\n' := by simpa [CleanCut] using h
  obtain ⟨b', rfl⟩ := List.head?_eq_some_iff.1 first
  obtain ⟨a', rfl⟩ := List.getLast?_eq_some_iff.1 last
  exact ⟨a', b', rfl, rfl⟩

/-- The breaks around a cut inside a line break. -/
theorem mem_breaks_cut (a b : List Char) :
    ['\r'] ∈ breaks (a ++ ['\r']) ∧ ['\n'] ∈ breaks ('\n' :: b) ∧ ['\r', '\n'] ∈ breaks (a ++ ['\r'] ++ '\n' :: b) := by
  have clean (r : List Char) : CleanCut a ('\r' :: r) := fun _ => by simp
  refine ⟨?_, ?_, ?_⟩
  · rw [breaks_append (clean [])]
    exact List.mem_append_right _ List.mem_cons_self
  · exact List.mem_cons_self
  · rw [List.append_assoc, List.singleton_append, breaks_append (clean _)]
    exact List.mem_append_right _ List.mem_cons_self

theorem styled_append (clean : CleanCut a b) : Styled newline (a ++ b) ↔ Styled newline a ∧ Styled newline b := by
  rw [Styled, breaks_append clean, List.forall_mem_append]
  rfl

/-- Behind a text of some style, the style of the whole is up to the rest. -/
theorem Styled.append_iff (h : Styled newline a) : Styled newline (a ++ b) ↔ Styled newline b := by
  by_cases clean : CleanCut a b
  · rw [styled_append clean, and_iff_right h]
  · obtain ⟨a', b', rfl, rfl⟩ := exists_of_not_cleanCut clean
    obtain ⟨cr, lf, crlf⟩ := mem_breaks_cut a' b'
    obtain rfl := h _ cr
    constructor
    · intro whole
      cases whole _ crlf
    · intro rest
      cases rest _ lf

/-- In front of a text of some style, the style of the whole is up to the rest. -/
theorem Styled.append_iff' (h : Styled newline b) : Styled newline (a ++ b) ↔ Styled newline a := by
  by_cases clean : CleanCut a b
  · rw [styled_append clean, and_iff_left h]
  · obtain ⟨a', b', rfl, rfl⟩ := exists_of_not_cleanCut clean
    obtain ⟨cr, lf, crlf⟩ := mem_breaks_cut a' b'
    obtain rfl := h _ lf
    constructor
    · intro whole
      cases whole _ crlf
    · intro rest
      cases rest _ cr

end Breaks

end CallLint.Text

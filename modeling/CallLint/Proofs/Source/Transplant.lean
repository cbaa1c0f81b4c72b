import CallLint.Proofs.Source.LexerSteps

/-!
# The same steps in another text

The lexer goes through a text `y` in the same steps whatever stands behind it, as long as the last character of `y` does not join up with
the next (`Apart`), and inside of further brackets as well as outside.
-/

namespace CallLint.Source

section Transplant

variable {s s' : LexState} {ts : List Token}

theorem Indents.swap {x r r' : List Char} {line : Indent} (h : Indents x line r) (stops : r'.head?.any isMargin = false)
    (some_char : r' = [] → r = []) : Indents x line r' := fun p => by
  obtain ⟨x', eq, -, -, again⟩ := readIndent_swap (h p)
  obtain rfl := List.append_cancel_right eq
  exact again p r' stops some_char

theorem Apart.behind {x y w : List Char} (h : Apart (x ++ y) w) : Apart y w := fun d last =>
  h d (by simp [List.getLast?_append, last])

/-- What a step that stops with `y` in front of the seam needs to be the same in front of `z` as in front of `w`. -/
inductive Seam (w z : List Char) (ts : List Token) : List Char → Prop where
  | before {y} (h : y ≠ []) : Seam w z ts y
  | same {y} (h : w = z) : Seam w z ts y
  | starts {y} (hw : w.head?.any startsToken = true) (hz : z.head?.any startsToken = true) : Seam w z ts y
  | token {y t} (h : ts = [t]) (real : Parse.isMark t.kind = false) : Seam w z ts y

theorem Seam.head {w z y : List Char} (h : Seam w z ts y) (marks : ∀ t ∈ ts, Parse.isMark t.kind = true) :
    (y ++ z).head? = (y ++ w).head? ∨ (y ++ w).head?.any startsToken = true ∧ (y ++ z).head?.any startsToken = true := by
  cases h with
  | before h => cases y <;> simp_all
  | same h => exact .inl (by rw [h])
  | starts hw hz => cases y <;> simp_all
  | token h real =>
    subst h
    cases real.symm.trans (marks _ List.mem_cons_self)

theorem isMargin_of_startsToken {c : Char} (h : startsToken c = true) : isMargin c = false := by
  unfold startsToken at h
  unfold isMargin
  grind

theorem Seam.code {w z x y : List Char} {line : Indent} (h : Seam w z ts y) (marks : ∀ t ∈ ts, Parse.isMark t.kind = true)
    (margin : Indents x line (y ++ w)) (code : (y ++ w).head?.all (fun c => c != '\n' && c != '#') = true) :
    Indents x line (y ++ z) ∧ (y ++ z).head?.all (fun c => c != '\n' && c != '#') = true := by
  obtain ⟨-, -, -, stops, -⟩ := readIndent_swap (margin ⟨0, 0⟩)
  rcases h.head marks with eq | ⟨-, starts⟩
  · rw [← eq] at stops code
    exact ⟨margin.swap stops fun none => List.head?_eq_none_iff.1 (eq.symm.trans (List.head?_eq_none_iff.2 none)), code⟩
  · cases rest : y ++ z with
    | nil => simp [rest] at starts
    | cons c r =>
      rw [rest] at starts
      refine ⟨margin.swap (isMargin_of_startsToken starts) nofun, ?_⟩
      grind [startsToken]

/-- Inside brackets no line of tokens ends. -/
theorem Step.inside (h : Step s ts s') (nested : s.lineStart = true → s.brackets ≠ []) (noLine : ∀ t ∈ ts, t.kind ≠ .newline)
    (start : s'.lineStart = true) : s'.brackets ≠ [] := by
  cases h with
  | emptyLine | commentLine => exact nested rfl
  | @newline r p is b => exact fun none => noLine (markAt p .newline) (by simp [show b = [] from none]) rfl
  | _ => cases start

theorem Seam.behind {w z y x : List Char} (h : Seam w z [] y) : Seam w z ts (x ++ y) := by
  cases h with
  | before h => exact .before (List.append_ne_nil_of_right_ne_nil x h)
  | same h => exact .same h
  | starts hw hz => exact .starts hw hz
  | token h => cases h

end Transplant

end CallLint.Source

import CallLint.Proofs.Source.Stretches
import CallLint.Proofs.Source.Transplant

/-!
# Another text in place of some tokens

A text `R` that takes the place of the text of some tokens brings its own tokens in their place and leaves the others as they are
(`lex_splice`), if both close their brackets, what stands in front of `R` does not join up with it, and the brackets are not too many.
-/

namespace CallLint.Source

/-- The state at the start of a text. -/
def LexState.start (text : List Char) : LexState := ⟨text, ⟨1, 0⟩, true, [⟨0, 0⟩], []⟩

/-- A run of the lexer over `x ++ (y ++ r)` that reads the tokens `cs` from `y`, from a state `m` to a state `n`. -/
structure Passes (ts₁ cs ts₂ : List Token) (x y r : List Char) (m n : LexState) : Prop where
  before : Steps (.start (x ++ (y ++ r))) ts₁ m
  -- the last of the tokens is read by the last step
  through : ∃ us t k, cs = us ++ [t] ∧ Parse.isMark t.kind = false ∧ Steps m us k ∧ Step k [t] n
  behind : ∃ us e, Steps n us e ∧ e.Ended ∧ ts₂ = us ++ [markAt e.pos .stop]
  some_char : y ≠ []
  rest : m.rest = y ++ r
  rest' : n.rest = r
  inLine : m.lineStart = false
  inLine' : n.lineStart = false
  starts : (y ++ r).head?.any startsToken = true
  span : spanOf cs = ⟨Pos.afterAll ⟨1, 0⟩ x, Pos.afterAll ⟨1, 0⟩ (x ++ y)⟩

variable {ts₁ cs ts₂ : List Token}

/-- The run over a text with tokens in it that are no marks. -/
theorem exists_passes {text : List Char} (lexed : lex ⟨1, 0⟩ text = some (ts₁ ++ (cs ++ ts₂))) (some_token : cs ≠ [])
    (real : ∀ t ∈ cs, Parse.isMark t.kind = false) : ∃ x y r m n, text = x ++ (y ++ r) ∧ Passes ts₁ cs ts₂ x y r m n := by
  obtain ⟨all, e, run, ended, eq⟩ := steps_of_lexFrom lexed
  obtain ⟨us, t, rfl⟩ : ∃ us t, cs = us ++ [t] := ⟨_, _, (List.dropLast_concat_getLast some_token).symm⟩
  have realLast : Parse.isMark t.kind = false := real t (by simp)
  -- The mark of the end is no token of `cs`, so steps read all of these.
  obtain ⟨vs, rfl, rfl⟩ : ∃ vs, ts₂ = vs ++ [markAt e.pos .stop] ∧ all = ts₁ ++ (us ++ t :: vs) := by
    by_cases none : ts₂ = []
    · subst none
      obtain rfl : t = markAt e.pos .stop := by simpa using congrArg List.getLast? eq
      cases realLast
    · obtain ⟨vs, z, rfl⟩ : ∃ vs z, ts₂ = vs ++ [z] := ⟨_, _, (List.dropLast_concat_getLast none).symm⟩
      obtain ⟨rfl, last⟩ := List.append_inj' (show ts₁ ++ (us ++ t :: vs) ++ [z] = all ++ [markAt e.pos .stop] by simpa using eq) rfl
      cases last
      exact ⟨vs, rfl, rfl⟩
  obtain ⟨c, us', first⟩ : ∃ c us', us ++ [t] = c :: us' := List.exists_cons_of_ne_nil some_token
  have realFirst : Parse.isMark c.kind = false := real c (first ▸ List.mem_cons_self)
  have whole : us ++ t :: vs = c :: (us' ++ vs) := by rw [← List.cons_append, ← first, List.append_assoc, List.singleton_append]
  rw [whole] at run
  obtain ⟨m, m', before, step, later⟩ := run.at_token realFirst
  have rest : Steps m (us ++ t :: vs) e := whole ▸ .step step later
  obtain ⟨k, n, through, last, behind⟩ := rest.at_token realLast
  obtain ⟨-, x₀, head⟩ := step.readsToken List.mem_cons_self realFirst
  obtain ⟨-, x₁, final⟩ := last.readsToken List.mem_cons_self realLast
  obtain ⟨x, text_eq, pos⟩ := before.reads
  obtain ⟨y, rest_eq, pos'⟩ := through.reads
  have text_eq : text = x ++ (y ++ x₁ ++ n.rest) := by
    rw [List.append_assoc, ← final.rest, ← rest_eq]
    exact text_eq
  have m_rest : m.rest = y ++ x₁ ++ n.rest := by rw [rest_eq, final.rest, List.append_assoc]
  refine ⟨x, y ++ x₁, n.rest, m, n, text_eq, ?_, ⟨us, t, k, rfl, realLast, through, last⟩, ⟨vs, e, behind, ended, rfl⟩,
    List.append_ne_nil_of_right_ne_nil y final.some_char, m_rest, rfl,
    head.inLine, final.inLine', m_rest ▸ head.starts, ?_⟩
  · rw [← text_eq]
    exact before
  · have start : (spanOf (us ++ [t])).start = c.span.start := by rw [first]; rfl
    have stop : (spanOf (us ++ [t])).stop = t.span.stop := by simp [spanOf, endOf, realLast]
    calc spanOf (us ++ [t]) = ⟨c.span.start, t.span.stop⟩ := by rw [← start, ← stop]
      _ = ⟨m.pos, n.pos⟩ := by rw [head.span, final.span]
      _ = _ := by
        rw [final.pos, pos' final.rest_ne, pos head.rest_ne, Pos.afterAll_append, Pos.afterAll_append]

theorem Passes.run {x y r : List Char} {m n : LexState} (h : Passes ts₁ cs ts₂ x y r m n) : Steps m cs n := by
  obtain ⟨us, t, k, rfl, -, through, last⟩ := h.through
  exact through.trans (.step last (.refl n))

/-- Tokens that end with a parenthesis have a text that ends with one. -/
theorem Passes.exists_rightParen {x y r : List Char} {m n : LexState} (h : Passes ts₁ cs ts₂ x y r m n) {us : List Token} {p : Span}
    (eq : cs = us ++ [⟨.punct .rightParen, p⟩]) : ∃ u, y = u ++ [')'] := by
  obtain ⟨vs, t, k, rfl, real, through, last⟩ := h.through
  obtain ⟨-, eq⟩ := List.append_inj' eq rfl
  cases eq
  obtain ⟨-, _, token⟩ := last.readsToken List.mem_cons_self real
  obtain ⟨u, read, -⟩ := through.reads
  have rest := scanToken_rightParen token.scanned
  rw [h.rest, rest, h.rest'] at read
  exact ⟨u, List.append_cancel_right (by simpa using read)⟩

end CallLint.Source

import CallLint.Source.Lexer
import CallLint.Source.Parse
import Mathlib.Data.List.TakeDrop

/-!
# The order of tokens

The lexer moves forward: each step leaves it on the same line or a later one, and what it gives stands between the places before
and behind it (`Advances`). So the tokens of a source start on the line where the source does or behind it, follow each other line
by line, and after the mark of a line end on a later line (`lex_ordered`).
-/

namespace CallLint.Source

/-- The spelling of a name: characters of names, and an identifier unless all are ASCII. -/
structure IsSpelling (w : List Char) : Prop where
  notEmpty : w ≠ []
  chars : ∀ c ∈ w, isNameChar c = true
  identifier : (∃ c ∈ w, 128 ≤ c.toNat) → (Text.ofChars w).isIdentifier = true

/-- A name in its normal form. -/
def IsName (n : Text) : Prop := ∃ w, IsSpelling w ∧ n = Text.ofChars (Text.normalForm w)

/-- A token that starts on line `l` or behind it, does not end before it starts, and spells a name if it is one. -/
structure Token.On (l : Nat) (t : Token) : Prop where
  line : l ≤ t.span.start.line
  ordered : t.span.start.line ≤ t.span.stop.line
  name : ∀ w, t.kind = .name w → IsSpelling w

/-- Places in the order of a text. -/
instance : LE Pos := ⟨fun p q => p.line < q.line ∨ p.line = q.line ∧ p.column ≤ q.column⟩

theorem Pos.le_iff {p q : Pos} : p ≤ q ↔ p.line < q.line ∨ p.line = q.line ∧ p.column ≤ q.column := Iff.rfl

theorem Pos.le_refl (p : Pos) : p ≤ p := .inr ⟨rfl, Nat.le_refl _⟩

theorem Pos.le_trans {p q r : Pos} (h : p ≤ q) (h' : q ≤ r) : p ≤ r := by
  rw [le_iff] at *
  omega

theorem Pos.line_le {p q : Pos} (h : p ≤ q) : p.line ≤ q.line := by
  rw [le_iff] at h
  omega

theorem Pos.le_after (p : Pos) (c : Char) : p ≤ p.after c := by
  rw [le_iff, Pos.after]
  split <;> simp

theorem Pos.le_afterAll (p : Pos) (cs : List Char) : p ≤ p.afterAll cs := by
  induction cs generalizing p with
  | nil => exact p.le_refl
  | cons c cs ih => exact le_trans (p.le_after c) (ih _)

theorem Pos.line_le_after (p : Pos) (c : Char) : p.line ≤ (p.after c).line := line_le (p.le_after c)

theorem Pos.line_le_afterAll (p : Pos) (cs : List Char) : p.line ≤ (p.afterAll cs).line := line_le (p.le_afterAll cs)

/-! ### Names -/

theorem scanWord_name {cs rest w : List Char} (h : scanWord cs = some (.name w, rest))
    (first : cs.head?.any isNameChar = true) : IsSpelling w := by
  unfold scanWord at h
  rw [List.span_eq_takeWhile_dropWhile] at h
  simp only at h
  split at h
  · obtain ⟨p, -, hp⟩ := Option.map_eq_some_iff.1 h
    cases hp
  split at h
  · cases h
  next checked =>
  have spelled : w = cs.takeWhile isNameChar := by
    split at h <;> cases h
    rfl
  refine ⟨?_, ?_, ?_⟩
  · cases cs with
    | nil => cases first
    | cons c cs =>
      have hc : isNameChar c = true := by simpa using first
      simp [spelled, hc]
  · intro c hc
    exact List.all_eq_true.1 (List.all_takeWhile) c (spelled ▸ hc)
  · rintro ⟨c, hc, large⟩
    rw [← spelled] at checked
    have wide : w.any (128 ≤ ·.toNat) = true := List.any_eq_true.2 ⟨c, hc, by simpa using large⟩
    simpa [wide] using checked

theorem scanToken_name {cs rest w : List Char} (h : scanToken cs = some (.name w, rest)) : IsSpelling w := by
  unfold scanToken at h
  split at h
  · cases h
  next c cs =>
  split at h
  · obtain ⟨p, -, hp⟩ := Option.map_eq_some_iff.1 h
    cases hp
  split at h
  · next hc => exact scanWord_name h (by simpa using hc)
  split at h
  · obtain ⟨p, -, hp⟩ := Option.map_eq_some_iff.1 h
    cases hp
  · obtain ⟨p, -, hp⟩ := Option.map_eq_some_iff.1 h
    cases hp

/-- What is scanned is no mark. -/
theorem scanToken_not_mark {cs rest : List Char} {k : TokenKind} (h : scanToken cs = some (k, rest)) :
    Parse.isMark k = false := by
  have mapped : ∀ {α : Type} {o : Option (α × List Char)} {f : α → TokenKind}, (∀ a, Parse.isMark (f a) = false) →
      (o.map fun p => (f p.1, p.2)) = some (k, rest) → Parse.isMark k = false := by
    intro α o f notMark h
    obtain ⟨p, -, hp⟩ := Option.map_eq_some_iff.1 h
    cases hp
    exact notMark p.1
  unfold scanToken at h
  split at h
  · cases h
  split at h
  · exact mapped (fun _ => rfl) h
  split at h
  · unfold scanWord at h
    simp only at h
    split at h
    · exact mapped (fun _ => rfl) h
    split at h
    · cases h
    · split at h <;> cases h <;> rfl
  split at h
  · exact mapped (fun _ => rfl) h
  · exact mapped (fun _ => rfl) h

/-! ### Steps -/

/-- A token that stands before another one: on the same line or an earlier one, on an earlier one if it ends a line. -/
structure Token.Precedes (t u : Token) : Prop where
  line : t.span.stop.line ≤ u.span.start.line
  newline : t.kind = .newline → t.span.stop.line < u.span.start.line

/-- Tokens in order that start on line `l` or behind it and end before the line of a place. -/
structure Advances (l : Nat) (ts : List Token) (stop : Nat) : Prop where
  line : l ≤ stop
  on : ∀ t ∈ ts, t.On l
  ends : ∀ t ∈ ts, t.span.stop.line ≤ stop ∧ (t.kind = .newline → t.span.stop.line < stop)
  ordered : ts.Pairwise Token.Precedes

theorem Token.On.mono {l m : Nat} {t : Token} (h : t.On m) (le : l ≤ m) : t.On l :=
  ⟨Nat.le_trans le h.line, h.ordered, h.name⟩

namespace Advances

variable {l m n : Nat} {ts us : List Token}

theorem nil (h : l ≤ m) : Advances l [] m := ⟨h, by simp, by simp, .nil⟩

/-- One token between two places. -/
theorem single {k : TokenKind} {start stop : Pos} (starts : l ≤ start.line) (line : start.line ≤ stop.line)
    (name : ∀ w, k = .name w → IsSpelling w) (h : stop.line ≤ m) (newline : k = .newline → stop.line < m) :
    Advances l [⟨k, ⟨start, stop⟩⟩] m := by
  refine ⟨by omega, ?_, ?_, List.pairwise_singleton _ _⟩
  · simpa using ⟨starts, line, name⟩
  · simpa using ⟨h, newline⟩

theorem append (h : Advances l ts m) (h' : Advances m us n) : Advances l (ts ++ us) n := by
  refine ⟨Nat.le_trans h.line h'.line, ?_, ?_, List.pairwise_append.2 ⟨h.ordered, h'.ordered, ?_⟩⟩
  · intro t ht
    rcases List.mem_append.1 ht with ht | ht
    · exact h.on t ht
    · exact (h'.on t ht).mono h.line
  · intro t ht
    rcases List.mem_append.1 ht with ht | ht
    · have := h'.line
      obtain ⟨line, newline⟩ := h.ends t ht
      exact ⟨by omega, fun isNewline => by have := newline isNewline; omega⟩
    · exact h'.ends t ht
  · intro t ht u hu
    obtain ⟨line, newline⟩ := h.ends t ht
    have starts := (h'.on u hu).line
    exact ⟨by omega, fun isNewline => by have := newline isNewline; omega⟩

/-- Marks of no width at one place; none of them ends a line. -/
theorem marks {ks : List TokenKind} {pos : Pos} (starts : l ≤ pos.line)
    (kinds : ∀ k ∈ ks, k = .indent ∨ k = .dedent) : Advances l (ks.map (markAt pos)) pos.line := by
  induction ks with
  | nil => exact .nil starts
  | cons k ks ih =>
    obtain ⟨hk, hks⟩ := List.forall_mem_cons.1 kinds
    have first : Advances l [markAt pos k] pos.line := by
      refine .single starts (Nat.le_refl _) ?_ (Nat.le_refl _) ?_
      · rintro w rfl
        rcases hk with h | h <;> cases h
      · rintro rfl
        rcases hk with h | h <;> cases h
    have rest : Advances pos.line (ks.map (markAt pos)) pos.line := by
      have tail := ih hks
      refine ⟨Nat.le_refl _, fun t ht => ?_, tail.ends, tail.ordered⟩
      obtain ⟨k', -, rfl⟩ := List.mem_map.1 ht
      exact ⟨Nat.le_refl _, Nat.le_refl _, (tail.on _ ht).name⟩
    exact first.append rest

end Advances

theorem readIndent_line {pos pos' : Pos} {here line : Indent} {joined : Nat} {cs rest : List Char}
    (h : readIndent pos here joined cs = some (line, pos', rest)) : pos.line ≤ pos'.line := by
  fun_induction readIndent pos here joined cs with
  | case1 => cases h; exact Nat.le_refl _
  | case2 pos here joined c cs _ ih => exact Nat.le_trans (pos.line_le_after c) (ih h)
  | case3 pos here joined c cs _ _ ih => exact Nat.le_trans (pos.line_le_after c) (ih h)
  | case4 pos here joined c cs _ _ _ ih => exact Nat.le_trans (pos.line_le_after c) (ih h)
  | case5 pos here joined c _ _ _ _ d ds _ ih =>
    exact Nat.le_trans (pos.line_le_after c) (Nat.le_trans ((pos.after c).line_le_after d) (ih h))
  | case6 => cases h
  | case7 => cases h
  | case8 => cases h; exact Nat.le_refl _

theorem applyIndent_marks {line : Indent} {indents left : List Indent} {ks : List TokenKind}
    (h : applyIndent line indents = some (ks, left)) : ∀ k ∈ ks, k = .indent ∨ k = .dedent := by
  unfold applyIndent at h
  simp only at h
  split at h
  · split at h
    · cases h
      simp
    · cases h
  split at h
  · split at h
    · cases h
    · cases h
      simp
  · split at h
    · cases h
      intro k hk
      exact Or.inr (List.eq_of_mem_replicate hk)
    · cases h

theorem lexLineStart_advances {s s' : LexState} {ts : List Token} (h : lexLineStart s = some (ts, s')) :
    Advances s.pos.line ts s'.pos.line := by
  unfold lexLineStart at h
  cases hr : readIndent s.pos ⟨0, 0⟩ 0 s.rest with
  | none =>
    rw [hr] at h
    cases h
  | some r =>
    obtain ⟨line, pos, rest⟩ := r
    rw [hr] at h
    have before := readIndent_line hr
    simp only at h
    split at h
    · cases h
      exact .nil (Nat.le_trans before (pos.line_le_after '\n'))
    · cases h
      exact .nil (Nat.le_trans before (Nat.le_trans (pos.line_le_afterAll _) (Pos.line_le_after _ '\n')))
    · split at h
      · obtain ⟨p, hp, eq⟩ := Option.map_eq_some_iff.1 h
        cases eq
        exact .marks before (applyIndent_marks hp)
      · cases h
        exact .nil before

theorem lexInLine_advances {s s' : LexState} {ts : List Token} (h : lexInLine s = some (ts, s')) :
    Advances s.pos.line ts s'.pos.line := by
  unfold lexInLine at h
  split at h
  · cases h
  next c cs rest_eq =>
  split at h
  · cases h
    exact .nil (s.pos.line_le_after c)
  split at h
  · cases h
    exact .nil (s.pos.line_le_afterAll _)
  split at h
  · next isNewline =>
    cases h
    obtain rfl := eq_of_beq isNewline
    split
    · exact .single (Nat.le_refl _) (Nat.le_refl _) nofun (s.pos.line_le_after _) fun _ => Nat.lt_succ_self _
    · exact .nil (s.pos.line_le_after _)
  split at h
  · split at h
    · next d ds =>
      split at h
      · cases h
        exact .nil (Nat.le_trans (s.pos.line_le_after c) ((s.pos.after c).line_le_after d))
      · cases h
    · cases h
  · split at h
    · cases h
    next kind rest scanned =>
    obtain ⟨brackets, -, eq⟩ := Option.map_eq_some_iff.1 h
    cases eq
    refine .single (Nat.le_refl _) (s.pos.line_le_afterAll _) ?_ (Nat.le_refl _) ?_
    · rintro w rfl
      exact scanToken_name scanned
    · rintro rfl
      cases scanToken_not_mark scanned

/-- The tokens of a source are in order from the line on which it starts. -/
theorem lexFrom_ordered {fuel : Nat} {s : LexState} {ts : List Token} (h : lexFrom fuel s = some ts) :
    (∀ t ∈ ts, t.On s.pos.line) ∧ ts.Pairwise Token.Precedes := by
  have whole : ∃ stop, Advances s.pos.line ts stop := by
    induction fuel generalizing s ts with
    | zero => cases h
    | succ fuel ih =>
      have step : ∀ {us s'} {r : Option (List Token)}, Advances s.pos.line us s'.pos.line → r = lexFrom fuel s' →
          r.map (us ++ ·) = some ts → ∃ stop, Advances s.pos.line ts stop := by
        rintro us s' r first rfl h
        obtain ⟨rest, hr, rfl⟩ := Option.map_eq_some_iff.1 h
        obtain ⟨stop, behind⟩ := ih hr
        exact ⟨stop, first.append behind⟩
      unfold lexFrom at h
      split at h
      · split at h
        · cases h
        · next us s' first => exact step (lexLineStart_advances first) rfl h
      split at h
      · split at h
        · cases h
          exact ⟨_, .single (Nat.le_refl _) (Nat.le_refl _) nofun (Nat.le_refl _) nofun⟩
        · cases h
      · split at h
        · cases h
        · next us s' first => exact step (lexInLine_advances first) rfl h
  obtain ⟨stop, advances⟩ := whole
  exact ⟨advances.on, advances.ordered⟩

theorem lex_ordered {pos : Pos} {cs : List Char} {ts : List Token} (h : lex pos cs = some ts) :
    (∀ t ∈ ts, t.On pos.line) ∧ ts.Pairwise Token.Precedes :=
  lexFrom_ordered h

end CallLint.Source

import CallLint.Proofs.Source.Splice

/-!
# Places of tokens

Tokens follow each other in the order of their places, not only of their lines (`Passes.behind_stop`), and a token does not end with a
line break. The tokens of a field are read from where its string starts; a string in them that goes on over a line break is said to
start further left, but not at the start of its line. So the tokens behind a statement, and those of the fields in them, start behind
that statement's end or at least inside its line (`StmtPhrase.splits`, `Stretch.from`).
-/

namespace CallLint.Source

open Parse Grammar

/-! ### The order of tokens -/

section Steps

variable {s s' : LexState} {ts : List Token}

theorem Step.places (h : Step s ts s') : (∀ t ∈ ts, s.pos ≤ t.span.start) ∧ s.pos ≤ s'.pos := by
  cases h with
  | @emptyLine x | @commentLine x c =>
    refine ⟨nofun, ?_⟩
    simp only [Pos.le_trans (Pos.le_trans (Pos.le_afterAll _ _) (Pos.le_afterAll _ _)) (Pos.le_after _ _),
      Pos.le_trans (Pos.le_afterAll _ _) (Pos.le_after _ _)]
  | firstInLine =>
    refine ⟨fun t ht => ?_, Pos.le_afterAll _ _⟩
    obtain ⟨k, -, rfl⟩ := List.mem_map.1 ht
    exact Pos.le_afterAll _ _
  | inBrackets | comment => exact ⟨nofun, Pos.le_afterAll _ _⟩
  | blank => exact ⟨nofun, Pos.le_after _ _⟩
  | join => exact ⟨nofun, Pos.le_trans (Pos.le_after _ _) (Pos.le_after _ _)⟩
  | newline =>
    refine ⟨fun t ht => ?_, Pos.le_after _ _⟩
    split at ht
    · cases List.mem_singleton.1 ht
      exact Pos.le_refl _
    · cases ht
  | token => exact ⟨List.forall_mem_singleton.2 (Pos.le_refl _), Pos.le_afterAll _ _⟩

theorem Steps.places (h : Steps s ts s') : (∀ t ∈ ts, s.pos ≤ t.span.start) ∧ s.pos ≤ s'.pos := by
  induction h with
  | refl => exact ⟨nofun, Pos.le_refl _⟩
  | step first _ ih =>
    obtain ⟨here, next⟩ := first.places
    exact ⟨List.forall_mem_append.2 ⟨here, fun t ht => Pos.le_trans next (ih.1 t ht)⟩, Pos.le_trans next ih.2⟩

/-- Marks have no width. -/
theorem Step.mark_width (h : Step s ts s') {t : Token} (mem : t ∈ ts) (mark : isMark t.kind = true) : t.span.stop = t.span.start := by
  cases h with
  | firstInLine =>
    obtain ⟨k, -, rfl⟩ := List.mem_map.1 mem
    rfl
  | newline =>
    split at mem
    · cases List.mem_singleton.1 mem
      rfl
    · cases mem
  | token h =>
    cases List.mem_singleton.1 mem
    cases (scanToken_not_mark h).symm.trans mark
  | _ => cases mem

theorem Steps.mark_width (h : Steps s ts s') {t : Token} (mem : t ∈ ts) (mark : isMark t.kind = true) : t.span.stop = t.span.start := by
  induction h with
  | refl => cases mem
  | step first _ ih => exact (List.mem_append.1 mem).elim (first.mark_width · mark) ih

end Steps

theorem lex_places {pos : Pos} {cs : List Char} {ts : List Token} (h : lex pos cs = some ts) : ∀ t ∈ ts, pos ≤ t.span.start := by
  obtain ⟨us, s', run, -, rfl⟩ := steps_of_lexFrom h
  obtain ⟨each, stop⟩ := run.places
  exact List.forall_mem_append.2 ⟨each, List.forall_mem_singleton.2 stop⟩

theorem Punct.ofThree?_last {a b c : Char} {p : Punct} (h : ofThree? a b c = some p) : c ≠ '\n' := by
  rintro rfl
  unfold ofThree? at h
  split at h <;> simp_all

theorem Punct.ofTwo?_last {a b : Char} {p : Punct} (h : ofTwo? a b = some p) : b ≠ '\n' := by
  rintro rfl
  unfold ofTwo? at h
  split at h <;> simp_all

theorem scanPunct_last {x r : List Char} {p : Punct} (h : scanPunct (x ++ r) = some (p, r)) : x.getLast? ≠ some '\n' := by
  have marks := scanPunct_iff.1 h
  generalize whole : x ++ r = cs at marks
  cases marks with
  | @three a b c p r mark =>
    obtain rfl := List.append_cancel_right (show x ++ r = [a, b, c] ++ r from whole)
    simpa using Punct.ofThree?_last mark
  | @two a b p r mark =>
    obtain rfl := List.append_cancel_right (show x ++ r = [a, b] ++ r from whole)
    simpa using Punct.ofTwo?_last mark
  | @one a p r mark =>
    obtain rfl := List.append_cancel_right (show x ++ r = [a] ++ r from whole)
    rintro ⟨⟩
    cases mark

/-- A token does not end with a line feed. -/
theorem scanToken_last {x r : List Char} {k : TokenKind} (h : scanToken (x ++ r) = some (k, r)) : x.getLast? ≠ some '\n' := by
  have joining : ∀ {y}, x ++ r = y ++ r → y.getLast?.any isJoining = true → x.getLast? ≠ some '\n' := fun eq last none => by
    rw [← List.append_cancel_right eq, none, Option.any_some, (breaks_lineFeed []).joining] at last
    cases last
  cases whole : x ++ r with
  | nil =>
    rw [whole] at h
    cases h
  | cons c cs =>
    rw [whole, scanToken_cons] at h
    split at h
    · obtain ⟨v, scanned, -⟩ := exists_of_map h
      intro last
      obtain ⟨u, rfl⟩ := List.getLast?_eq_some_iff.1 last
      -- a number would end in front of the line feed
      rw [← whole, List.append_assoc, List.singleton_append, (breaks_lineFeed r).boundary.scanNumber u] at scanned
      obtain ⟨p, -, eq⟩ := Option.map_eq_some_iff.1 scanned
      have length := congrArg List.length (Prod.mk.inj eq).2
      simp only [List.length_append, List.length_cons] at length
      omega
    split at h
    · next name =>
      obtain ⟨y, eq, cuts⟩ := scanWord_cuts h name
      exact joining (whole.trans eq) cuts.last
    split at h
    · next quote =>
      obtain ⟨s, scanned, -⟩ := exists_of_map h
      obtain ⟨y, rfl, cuts⟩ := scanString_cuts (isJoining_of_isQuote quote) scanned
      exact joining whole cuts.last
    · obtain ⟨p, scanned, -⟩ := exists_of_map h
      exact scanPunct_last (whole ▸ scanned)

theorem Pos.column_pos {x : List Char} (some_char : x ≠ []) (last : x.getLast? ≠ some '\n') (p : Pos) : 0 < (p.afterAll x).column := by
  obtain ⟨u, c, rfl⟩ : ∃ u c, x = u ++ [c] := ⟨_, _, (List.dropLast_concat_getLast some_char).symm⟩
  have other : c ≠ '\n' := fun eq => last (by simp [eq])
  have positive := c.utf8Size_pos
  rw [Pos.afterAll_append]
  simp only [Pos.afterAll, List.foldl_cons, List.foldl_nil, Pos.after, beq_eq_false_iff_ne.2 other, Bool.false_eq_true, if_false]
  omega

/-- The text of tokens does not end with a line feed. -/
theorem Passes.last {ts₁ cs ts₂ : List Token} {x y r : List Char} {m n : LexState} (h : Passes ts₁ cs ts₂ x y r m n) :
    y.getLast?.any (· != '\n') = true := by
  obtain ⟨us, t, k, rfl, real, through, last⟩ := h.through
  obtain ⟨-, w, token⟩ := last.readsToken List.mem_cons_self real
  obtain ⟨z, read, -⟩ := through.reads
  rw [h.rest, token.rest, h.rest', ← List.append_assoc] at read
  obtain rfl := List.append_cancel_right read
  have scanned := token.scanned
  rw [token.rest] at scanned
  obtain ⟨c, hc⟩ := Option.ne_none_iff_exists'.1 (mt List.getLast?_eq_none_iff.1 token.some_char)
  have other : c ≠ '\n' := fun eq => scanToken_last scanned (eq ▸ hc)
  simp [List.getLast?_append, hc, other]

/-- The tokens behind a token start where it ends or behind that place, which is not the start of a line. -/
theorem lex_behind {text : List Char} {ts us : List Token} {t : Token} (h : lex ⟨1, 0⟩ text = some (ts ++ t :: us))
    (real : isMark t.kind = false) : 0 < t.span.stop.column ∧ ∀ u ∈ us, t.span.stop ≤ u.span.start := by
  have h : lex ⟨1, 0⟩ text = some (ts ++ ([t] ++ us)) := h
  obtain ⟨x, y, r, m, n, -, passes⟩ := exists_passes h (List.cons_ne_nil _ _) (List.forall_mem_singleton.2 real)
  obtain ⟨vs, t', k, one, -, -, last⟩ := passes.through
  obtain ⟨rfl, one⟩ := (List.singleton_eq_append_iff.1 one).resolve_right nofun
  obtain rfl := List.singleton_inj.1 one
  obtain ⟨-, w, token⟩ := last.readsToken List.mem_cons_self real
  obtain ⟨ws, e, behind, -, rfl⟩ := passes.behind
  obtain ⟨each, stop⟩ := behind.places
  have scanned := token.scanned
  rw [token.rest] at scanned
  rw [token.span]
  refine ⟨?_, List.forall_mem_append.2 ⟨each, List.forall_mem_singleton.2 stop⟩⟩
  rw [token.pos]
  exact Pos.column_pos token.some_char (scanToken_last scanned) _

/-! ### Fields -/

/-- A token that starts at a place or behind it, and does not end on an earlier line. -/
structure Token.From (p : Pos) (t : Token) : Prop where
  start : p ≤ t.span.start
  ordered : t.span.start.line ≤ t.span.stop.line

theorem scanToken_leftParen {cs r : List Char} {k : TokenKind} (h : scanToken ('(' :: cs) = some (k, r)) : r = cs := by
  have other : scanToken ('(' :: cs) = (scanPunct ('(' :: cs)).map fun p => (.punct p.1, p.2) := rfl
  rw [other] at h
  obtain ⟨p, scanned, -⟩ := exists_of_map h
  cases scanPunct_iff.1 scanned with
  | three mark => simp [Punct.ofThree?] at mark
  | two mark => simp [Punct.ofTwo?] at mark
  | one => rfl

/-- What stands at the place of an opening parenthesis ends on its line. -/
theorem lex_leftParen {pos : Pos} {cs : List Char} {ts : List Token} (h : lex pos ('(' :: cs) = some ts) {t : Token} (mem : t ∈ ts)
    (start : t.span.start = pos) : t.span.stop.line = pos.line := by
  obtain ⟨us, e, run, -, rfl⟩ := steps_of_lexFrom h
  rcases List.mem_append.1 mem with mem | mem
  · cases mark : isMark t.kind with
    | true => rw [run.mark_width mem mark, start]
    | false =>
      obtain ⟨before, behind, rfl⟩ := List.append_of_mem mem
      obtain ⟨s₁, s₂, first, step, -⟩ := run.at_token mark
      obtain ⟨-, x, token⟩ := step.readsToken List.mem_cons_self mark
      obtain ⟨z, rest_eq, pos_eq⟩ := first.reads
      -- nothing is read before the token, so it is the parenthesis
      have here : pos.afterAll z = pos := (pos_eq token.rest_ne).symm.trans ((congrArg Span.start token.span).symm.trans start)
      obtain rfl := Pos.afterAll_eq_self here
      have rest_eq : s₁.rest = '(' :: cs := rest_eq.symm
      have scanned := token.scanned
      rw [rest_eq] at scanned
      have text := token.rest
      rw [rest_eq, scanToken_leftParen scanned] at text
      obtain rfl : x = ['('] := (List.append_cancel_right (show ['('] ++ cs = x ++ cs from text)).symm
      have at_pos : s₁.pos = pos := pos_eq token.rest_ne
      rw [token.span, token.pos, at_pos]
      rfl
  · cases List.mem_singleton.1 mem
    exact congrArg Pos.line start

/-- The tokens of a field start where it is read or behind that place; one that is said to start further left does not start a line. -/
theorem fieldTokens_from {p pos : Pos} {source : List Char} {ts : List Token} (h : fieldTokens source pos = some ts) (le : p ≤ pos)
    (margin : p.column ≤ 1) : ∀ t ∈ ts, t.From p := by
  intro t ht
  refine ⟨?_, (fieldTokens_on h t ht).ordered⟩
  obtain ⟨us, lexed, rfl⟩ := Option.map_eq_some_iff.1 h
  obtain ⟨u, hu, rfl⟩ := List.mem_map.1 ht
  have place := lex_places lexed u hu
  unfold unshiftToken
  split
  · next moved =>
    simp only [Bool.and_eq_true, beq_iff_eq, bne_iff_ne] at moved
    have behind : u.span.start.column ≠ pos.column := fun same => by
      have start : u.span.start = pos := by
        cases eq : u.span.start
        cases pos
        simp_all
      exact moved.2 (lex_leftParen lexed hu start)
    rw [Pos.le_iff] at place le ⊢
    simp only
    omega
  · exact Pos.le_trans le place

/-- A stretch of tokens from a place on starts there or behind it, also in the fields. -/
theorem Stretch.from {p : Pos} {all ts : List Token} (h : Stretch all ts) (each : ∀ t ∈ all, t.From p) (margin : p.column ≤ 1) :
    ∀ t ∈ ts, t.From p := by
  have field {us vs : List Token} (each : ∀ t ∈ us, t.From p) (h : FieldOf us vs) : ∀ t ∈ vs, t.From p := by
    obtain ⟨s, q, parts, f, mem, parts_eq, mem_f, tokens⟩ := h
    exact fieldTokens_from tokens (Pos.le_trans (each _ mem).start (StringToken.parts_fields parts_eq f mem_f).1) margin
  rcases h with inside | ⟨us, inField, inside⟩
  · exact fun t ht => each t (inside.subset ht)
  · have inner : ∀ t ∈ us, t.From p := by
      clear inside
      induction inField with
      | here h => exact field each h
      | deeper _ h ih => exact field ih h
    exact fun t ht => inner t (inside.subset ht)

/-! ### Statements -/

/-- Tokens in which a statement ends with a token, and the nodes of others stand in the tokens behind it. -/
def Splits (ts : List Token) (s : Stmt) (rs : List Stmt) : Prop :=
  ∃ ts₁ t ts₂, ts = ts₁ ++ t :: ts₂ ∧ isMark t.kind = false ∧ s.span.stop = t.span.stop ∧
    ∀ {l P}, Respects l P → l.Has ts₂ → ∀ r ∈ rs, Below P r.toTree

section Splits

variable {ts us : List Token} {s : Stmt} {ss rs hs : List Stmt}

theorem Splits.behind (h : Splits us s rs) (ts : List Token) : Splits (ts ++ us) s rs := by
  obtain ⟨ts₁, t, ts₂, rfl, real, stop, nodes⟩ := h
  exact ⟨ts ++ ts₁, t, ts₂, (List.append_assoc ..).symm, real, stop, nodes⟩

theorem Splits.inFront (h : Splits ts s rs) (later : ∀ {l P}, Respects l P → l.Has us → ∀ r ∈ ss, Below P r.toTree) :
    Splits (ts ++ us) s (rs ++ ss) := by
  obtain ⟨ts₁, t, ts₂, rfl, real, stop, nodes⟩ := h
  refine ⟨ts₁, t, ts₂ ++ us, by simp, real, stop, fun ok on => ?_⟩
  exact List.forall_mem_append.2 ⟨nodes ok on.left, later ok on.right⟩

theorem SimplePhrase.splits (h : SimplePhrase ts s) : Splits ts s [] := by
  obtain ⟨t, ht, real, stop⟩ := h.exists_stop
  obtain ⟨ts₁, ts₂, rfl⟩ := List.append_of_mem ht
  exact ⟨ts₁, t, ts₂, rfl, real, stop, fun _ _ => nofun⟩

theorem StmtPhrase.compound_splits (h : StmtPhrase .compound ts s) : Splits ts s [] := by
  obtain ⟨ds, us, rfl, solid, span⟩ := h.compound_span
  obtain ⟨t, ht, real, stop⟩ := spanOf_stop solid
  obtain ⟨ts₁, ts₂, rfl⟩ := List.append_of_mem ht
  exact ⟨ds ++ ts₁, t, ts₂, by simp, real, by rw [span, stop], fun _ _ => nofun⟩

theorem Each.splits (h : Each (.punct .semicolon) SimplePhrase ts ss) (eq : ss = hs ++ s :: rs) : Splits ts s rs := by
  induction h generalizing hs with
  | nil => simp at eq
  | @cons ts us a as p first rest ih =>
    cases hs with
    | nil =>
      obtain ⟨rfl, rfl⟩ := List.cons.inj eq
      refine Splits.behind ?_ [⟨_, p⟩]
      exact first.splits.inFront fun ok on => rest.forall_on (SimplePhrase.below_tree ok) on
    | cons b hs => exact ((ih (List.cons.inj eq).2).behind ts).behind [⟨_, p⟩]

theorem LinePhrase.splits (h : LinePhrase ts ss) (eq : ss = hs ++ s :: rs) : Splits ts s rs := by
  obtain @⟨ts, cs, _, b, p, ⟨first, rest⟩, -⟩ := h
  have nothing : ∀ {l : Region} {P}, Respects l P → l.Has (cs ++ [⟨.newline, p⟩]) → ∀ r ∈ ([] : List Stmt), Below P r.toTree :=
    fun _ _ => nofun
  rw [← List.append_nil rs]
  refine Splits.inFront ?_ nothing
  cases hs with
  | nil =>
    obtain ⟨rfl, rfl⟩ := List.cons.inj eq
    exact first.splits.inFront fun ok on => rest.forall_on (SimplePhrase.below_tree ok) on
  | cons b hs => exact (rest.splits (List.cons.inj eq).2).behind _

theorem StmtPhrase.statement_splits (h : StmtPhrase .statement ts ss) (eq : ss = hs ++ s :: rs) : Splits ts s rs := by
  cases h with
  | line h => exact h.splits eq
  | compound h =>
    simp only [List.singleton_eq_append_iff, reduceCtorEq, and_false, or_false, List.cons.injEq] at eq
    obtain ⟨rfl, rfl, rfl⟩ := eq
    exact h.compound_splits

/-- The nodes of the statements behind a statement stand in tokens behind its end. -/
theorem StmtPhrase.splits {ts : List Token} {s : Stmt} {ss rs hs : List Stmt} (h : StmtPhrase .statements ts ss)
    (eq : ss = hs ++ s :: rs) : Splits ts s rs := by
  cases h with
  | noStatement => simp at eq
  | @furtherStatement ts us ss₁ ss₂ first rest =>
    have shorter := first.shorter us
    obtain ⟨a, rfl, behind⟩ | ⟨a, rfl, behind⟩ := List.append_eq_append_iff.1 eq
    · exact (rest.splits behind).behind ts
    · cases a with
      | nil =>
        have front : ss₂ = [] ++ s :: rs := behind.symm
        exact (rest.splits front).behind ts
      | cons b a =>
        obtain ⟨rfl, rfl⟩ := List.cons.inj behind
        refine (first.statement_splits rfl).inFront fun ok on => ?_
        exact List.forall_mem_map.1 (rest.trees_below ok on nofun)
termination_by ts.length

end Splits

end CallLint.Source

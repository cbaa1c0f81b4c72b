import CallLint.Proofs.Source.Lookahead
import CallLint.Proofs.Source.TokenOrder

/-!
# The steps of the lexer

`Step` says what each step of the lexer reads and gives, and `Steps` puts them together; `lexFrom` is the run that ends where nothing is
left to read (`Steps.lexFrom`, `steps_of_lexFrom`). A run stops at every token that is not a mark, moves the place over what it reads,
and nests the brackets of its tokens.
-/

namespace CallLint.Source

/-- One step of the lexer. -/
def LexState.next (s : LexState) : Option (List Token × LexState) := if s.lineStart then lexLineStart s else lexInLine s

/-- Whether a character starts a token. -/
def startsToken (c : Char) : Bool := !(c == ' ' || c == '\t' || c == '\x0c' || c == '#' || c == '\n' || c == '\\')

/-- Blanks `x` in front of `r` that give an indentation. -/
def Indents (x : List Char) (line : Indent) (r : List Char) : Prop :=
  ∀ p : Pos, readIndent p ⟨0, 0⟩ 0 (x ++ r) = some (line, p.afterAll x, r)

/-- What a step of the lexer can do. -/
inductive Step : LexState → List Token → LexState → Prop where
  | emptyLine {x r line p is b} (h : Indents x line ('\n' :: r)) :
      Step ⟨x ++ '\n' :: r, p, true, is, b⟩ [] ⟨r, (p.afterAll x).after '\n', true, is, b⟩
  | commentLine {x c r line p is b} (h : Indents x line ('#' :: (c ++ r))) (inside : ∀ d ∈ c, (d != '\n') = true)
      (ends : r.head?.any (· != '\n') = false) : Step ⟨x ++ '#' :: (c ++ r), p, true, is, b⟩ []
        ⟨r.tail, ((p.afterAll x).afterAll ('#' :: c)).after '\n', !r.isEmpty, is, b⟩
  | firstInLine {x r line p is ks is'} (h : Indents x line r) (code : r.head?.all (fun c => c != '\n' && c != '#') = true)
      (marks : applyIndent line is = some (ks, is')) :
      Step ⟨x ++ r, p, true, is, []⟩ (ks.map (markAt (p.afterAll x))) ⟨r, p.afterAll x, false, is', []⟩
  | inBrackets {x r line p is b} (h : Indents x line r) (code : r.head?.all (fun c => c != '\n' && c != '#') = true)
      (nested : b ≠ []) : Step ⟨x ++ r, p, true, is, b⟩ [] ⟨r, p.afterAll x, false, is, b⟩
  | blank {c r p is b} (h : (c == ' ' || c == '\t' || c == '\x0c') = true) : Step ⟨c :: r, p, false, is, b⟩ [] ⟨r, p.after c, false, is, b⟩
  | comment {c r p is b} (inside : ∀ d ∈ c, (d != '\n') = true) (ends : r.head?.any (· != '\n') = false) :
      Step ⟨'#' :: (c ++ r), p, false, is, b⟩ [] ⟨r, p.afterAll ('#' :: c), false, is, b⟩
  | newline {r p is b} : Step ⟨'\n' :: r, p, false, is, b⟩ (if b.isEmpty then [markAt p .newline] else []) ⟨r, p.after '\n', true, is, b⟩
  | join {r p is b} (h : r ≠ []) : Step ⟨'\\' :: '\n' :: r, p, false, is, b⟩ [] ⟨r, (p.after '\\').after '\n', false, is, b⟩
  | token {x r k p is b b'} (h : scanToken (x ++ r) = some (k, r)) (starts : (x ++ r).head?.any startsToken = true)
      (nest : nestBrackets b k = some b') :
      Step ⟨x ++ r, p, false, is, b⟩ [⟨k, ⟨p, p.afterAll x⟩⟩] ⟨r, p.afterAll x, false, is, b'⟩

section Steps

variable {s s' : LexState} {ts : List Token}

theorem Pos.afterAll_append (p : Pos) (x y : List Char) : p.afterAll (x ++ y) = (p.afterAll x).afterAll y := List.foldl_append

theorem Pos.before_afterAll {r : List Char} (h : r ≠ []) (p : Pos) :
    p.line < (p.afterAll r).line ∨ p.line = (p.afterAll r).line ∧ p.column < (p.afterAll r).column := by
  induction r generalizing p with
  | nil => exact absurd rfl h
  | cons c r ih =>
    have positive := c.utf8Size_pos
    have step : p.line < (p.after c).line ∨ p.line = (p.after c).line ∧ p.column < (p.after c).column := by
      unfold Pos.after
      grind
    cases r with
    | nil => exact step
    | cons d r =>
      have rest := ih nofun (p.after c)
      simp only [Pos.afterAll, List.foldl_cons] at rest ⊢
      omega

theorem Pos.afterAll_eq_self {p : Pos} {r : List Char} (h : p.afterAll r = p) : r = [] := by
  by_contra ne
  have before := p.before_afterAll ne
  rw [h] at before
  omega
/-- Whether a character goes on in the blanks at the start of a line. -/
def isMargin (c : Char) : Bool := c == ' ' || c == '\t' || c == '\x0c' || c == '\\'

theorem readIndent_stop {p : Pos} {here : Indent} {joined : Nat} {r : List Char} (h : r.head?.any isMargin = false) :
    readIndent p here joined r = some (readIndent.settle here joined, p, r) := by
  cases r with
  | nil => rfl
  | cons c r =>
    have other : isMargin c = false := h
    simp only [isMargin, Bool.or_eq_false_iff] at other
    unfold readIndent
    simp [other]

/-- Blanks give the same indentation in front of another text that starts with none. -/
theorem readIndent_swap {p p' : Pos} {here line : Indent} {joined : Nat} {cs r : List Char}
    (h : readIndent p here joined cs = some (line, p', r)) : ∃ x, cs = x ++ r ∧ p' = p.afterAll x ∧ r.head?.any isMargin = false ∧
      ∀ q r', r'.head?.any isMargin = false → (r' = [] → r = []) →
        readIndent q here joined (x ++ r') = some (line, q.afterAll x, r') := by
  fun_induction readIndent p here joined cs with
  | case1 =>
    cases h
    exact ⟨[], rfl, rfl, rfl, fun q r' stops _ => readIndent_stop stops⟩
  | case2 pos here joined c cs hc ih =>
    obtain ⟨x, rfl, rfl, stops, again⟩ := ih h
    refine ⟨c :: x, rfl, rfl, stops, fun q r' stops' some_char => ?_⟩
    rw [List.cons_append, readIndent.eq_def]
    simp only [if_pos hc]
    exact again _ r' stops' some_char
  | case3 pos here joined c cs hc hc' ih =>
    obtain ⟨x, rfl, rfl, stops, again⟩ := ih h
    refine ⟨c :: x, rfl, rfl, stops, fun q r' stops' some_char => ?_⟩
    rw [List.cons_append, readIndent.eq_def]
    simp only [if_neg hc, if_pos hc']
    exact again _ r' stops' some_char
  | case4 pos here joined c cs hc hc' hc'' ih =>
    obtain ⟨x, rfl, rfl, stops, again⟩ := ih h
    refine ⟨c :: x, rfl, rfl, stops, fun q r' stops' some_char => ?_⟩
    rw [List.cons_append, readIndent.eq_def]
    simp only [if_neg hc, if_neg hc', if_pos hc'']
    exact again _ r' stops' some_char
  | case5 pos here joined c hc hc' hc'' slash d ds joins ih =>
    obtain ⟨x, rfl, rfl, stops, again⟩ := ih h
    refine ⟨c :: d :: x, rfl, rfl, stops, fun q r' stops' some_char => ?_⟩
    have joins' : (d == '\n' && !(x ++ r').isEmpty) = true := by
      simp only [Bool.and_eq_true, Bool.not_eq_true', List.isEmpty_eq_false_iff] at joins ⊢
      refine ⟨joins.1, fun empty => joins.2 ?_⟩
      obtain ⟨rfl, none⟩ := List.append_eq_nil_iff.1 empty
      exact some_char none
    rw [List.cons_append, List.cons_append, readIndent.eq_def]
    simp only [if_neg hc, if_neg hc', if_neg hc'', if_pos slash, if_pos joins']
    exact again _ r' stops' some_char
  | case6 => cases h
  | case7 => cases h
  | case8 pos here joined c cs hc hc' hc'' slash =>
    cases h
    have stops : isMargin c = false := by simp [isMargin] at *; grind
    exact ⟨[], rfl, rfl, stops, fun q r' stops' _ => readIndent_stop stops'⟩

theorem Indents.of_readIndent {p p' : Pos} {line : Indent} {cs r : List Char}
    (h : readIndent p ⟨0, 0⟩ 0 cs = some (line, p', r)) : ∃ x, cs = x ++ r ∧ p' = p.afterAll x ∧ Indents x line r := by
  obtain ⟨x, rfl, rfl, stops, again⟩ := readIndent_swap h
  exact ⟨x, rfl, rfl, fun q => again q r stops id⟩

theorem lexLineStart_code {x r : List Char} {line : Indent} {p : Pos} {is : List Indent} {b : List Char} (h : Indents x line r)
    (code : r.head?.all (fun c => c != '\n' && c != '#') = true) : lexLineStart ⟨x ++ r, p, true, is, b⟩ =
    if b.isEmpty then (applyIndent line is).map fun q => (q.1.map (markAt (p.afterAll x)), ⟨r, p.afterAll x, false, q.2, b⟩)
    else some ([], ⟨r, p.afterAll x, false, is, b⟩) := by
  simp only [lexLineStart, h p]
  split
  · next head =>
    rw [head] at code
    cases code
  · next head =>
    rw [head] at code
    cases code
  · rfl

theorem span_comment {c r : List Char} (inside : ∀ d ∈ c, (d != '\n') = true) (ends : r.head?.any (· != '\n') = false) :
    ('#' :: (c ++ r)).span (· != '\n') = ('#' :: c, r) :=
  span_append (w := '#' :: c) (List.forall_mem_cons.2 ⟨rfl, inside⟩) ends

theorem Step.next_eq (h : Step s ts s') : s.next = some (ts, s') := by
  cases h with
  | emptyLine h => simp [LexState.next, lexLineStart, h _]
  | @commentLine x c r _ _ _ _ h inside ends =>
    simp only [LexState.next, lexLineStart, h _, List.head?_cons, span_comment inside ends]
    rfl
  | firstInLine h code marks =>
    refine (lexLineStart_code h code).trans ?_
    rw [marks]
    rfl
  | inBrackets h code nested =>
    refine (lexLineStart_code h code).trans (if_neg ?_)
    simpa using nested
  | blank h =>
    refine (if_neg nofun).trans ?_
    simp only [lexInLine, if_pos h]
  | @comment c r _ _ _ inside ends =>
    simp only [LexState.next, lexInLine, span_comment inside ends]
    rfl
  | newline => simp [LexState.next, lexInLine]
  | join h => simp [LexState.next, lexInLine, h]
  | @token x r k p is b b' h starts nest =>
    have stop : (x ++ r).take ((x ++ r).length - r.length) = x := by simp
    cases hx : x ++ r with
    | nil =>
      rw [hx] at h
      cases h
    | cons c cs =>
      have first : startsToken c = true := by simpa [hx] using starts
      simp only [startsToken, Bool.not_eq_true', Bool.or_eq_false_iff] at first
      rw [hx] at h stop
      rw [List.length_cons] at stop
      simp [LexState.next, lexInLine, first, h, nest, stop]

theorem eq_cons_of_head? {c : Char} {r : List Char} (h : r.head? = some c) : ∃ r', r = c :: r' := by
  cases r with
  | nil => cases h
  | cons d r' =>
    cases h
    exact ⟨r', rfl⟩

/-- A step of the lexer is one of those. -/
theorem step_of_next (h : s.next = some (ts, s')) : Step s ts s' := by
  obtain ⟨rest, p, lineStart, is, b⟩ := s
  cases lineStart with
  | true =>
    have h : lexLineStart ⟨rest, p, true, is, b⟩ = some (ts, s') := h
    unfold lexLineStart at h
    split at h
    · cases h
    next line p' r indent =>
    obtain ⟨x, rfl, rfl, indents⟩ := Indents.of_readIndent indent
    dsimp only at h
    split at h
    · next head =>
      cases h
      obtain ⟨r, rfl⟩ := eq_cons_of_head? head
      exact .emptyLine indents
    · next head =>
      cases h
      obtain ⟨r, rfl⟩ := eq_cons_of_head? head
      obtain ⟨c, r, rfl, inside, ends⟩ := exists_span (· != '\n') r
      simp only [span_comment inside ends]
      exact .commentLine indents inside ends
    · next noBreak noComment =>
      have code : r.head?.all (fun c => c != '\n' && c != '#') = true := by
        cases head : r.head? with
        | none => rfl
        | some c => simp; grind
      split at h
      · next empty =>
        obtain ⟨⟨ks, is'⟩, marks, eq⟩ := Option.map_eq_some_iff.1 h
        cases eq
        cases List.isEmpty_iff.1 empty
        exact .firstInLine indents code marks
      · next nested =>
        cases h
        exact .inBrackets indents code (by simpa using nested)
  | false =>
    have h : lexInLine ⟨rest, p, false, is, b⟩ = some (ts, s') := h
    unfold lexInLine at h
    split at h
    · cases h
    next c cs eq =>
    obtain rfl : rest = c :: cs := eq
    split at h
    · next blank =>
      cases h
      exact .blank blank
    next noBlank =>
    split at h
    · next hash =>
      obtain rfl := eq_of_beq hash
      obtain ⟨c, r, rfl, inside, ends⟩ := exists_span (· != '\n') cs
      simp only [span_comment inside ends] at h
      cases h
      exact .comment inside ends
    next noHash =>
    split at h
    · next isBreak =>
      cases h
      obtain rfl := eq_of_beq isBreak
      exact .newline
    next noBreak =>
    split at h
    · next slash =>
      obtain rfl := eq_of_beq slash
      split at h
      · next d ds =>
        split at h
        · next joins =>
          cases h
          simp only [Bool.and_eq_true, beq_iff_eq, Bool.not_eq_true', List.isEmpty_eq_false_iff] at joins
          obtain ⟨rfl, some_char⟩ := joins
          exact .join some_char
        · cases h
      · cases h
    next noSlash =>
    split at h
    · cases h
    next k r scanned =>
    obtain ⟨b', nest, eq⟩ := Option.map_eq_some_iff.1 h
    cases eq
    obtain ⟨x, eq, -⟩ : ∃ x, c :: cs = x ++ r ∧ x ≠ [] := scanToken_suffix scanned
    have stop : (c :: cs).take ((c :: cs).length - r.length) = x := by rw [eq]; simp
    have starts : (c :: cs).head?.any startsToken = true := by
      simp only [Bool.not_eq_true, Bool.or_eq_false_iff] at noBlank noHash noBreak noSlash
      simp [startsToken, noBlank, noHash, noBreak, noSlash]
    have step : Step ⟨x ++ r, p, false, is, b⟩ _ _ := .token (eq ▸ scanned) (eq ▸ starts) nest
    rw [← eq] at step
    simpa only [stop] using step

/-! ### What steps keep -/

/-- The open brackets behind tokens. -/
def nestAll (b : List Char) (ks : List TokenKind) : Option (List Char) := ks.foldlM nestBrackets b

theorem nestAll_append {b : List Char} {ks js : List TokenKind} : nestAll b (ks ++ js) = (nestAll b ks).bind (nestAll · js) :=
  List.foldlM_append ..

theorem nestAll_marks {b : List Char} {ks : List TokenKind} (h : ∀ k ∈ ks, Parse.isMark k = true) : nestAll b ks = some b := by
  induction ks with
  | nil => rfl
  | cons k ks ih =>
    obtain ⟨hk, hks⟩ := List.forall_mem_cons.1 h
    cases k <;> first | exact ih hks | cases hk

theorem applyIndent_isMark {line : Indent} {is is' : List Indent} {ks : List TokenKind} (h : applyIndent line is = some (ks, is')) :
    ∀ k ∈ ks, Parse.isMark k = true := fun k hk => by
  rcases applyIndent_marks h k hk with rfl | rfl <;> rfl

theorem kinds_markAt (p : Pos) (ks : List TokenKind) : (ks.map (markAt p)).map Token.kind = ks := by
  simp [markAt, Function.comp_def]

theorem Step.nest (h : Step s ts s') : nestAll s.brackets (ts.map (·.kind)) = some s'.brackets := by
  cases h with
  | firstInLine _ _ marks =>
    rw [kinds_markAt]
    exact nestAll_marks (applyIndent_isMark marks)
  | newline => split <;> rfl
  | token _ _ nest => simp [nestAll, nest]
  | _ => rfl

/-- A step reads from the front, and moves the place over what it reads. -/
theorem Step.reads (h : Step s ts s') : ∃ x, s.rest = x ++ s'.rest ∧ (s'.rest ≠ [] → s'.pos = s.pos.afterAll x) := by
  cases h with
  | @emptyLine x => exact ⟨x ++ ['\n'], by simp, fun _ => by simp [Pos.afterAll]⟩
  | @commentLine x c r _ _ _ _ _ _ ends =>
    cases r with
    | nil => exact ⟨x ++ '#' :: c, by simp, nofun⟩
    | cons d r =>
      obtain rfl : d = '\n' := by simpa using ends
      exact ⟨x ++ ('#' :: c ++ ['\n']), by simp, fun _ => by simp [Pos.afterAll]⟩
  | @firstInLine x | @inBrackets x => exact ⟨x, rfl, fun _ => rfl⟩
  | @blank c => exact ⟨[c], rfl, fun _ => rfl⟩
  | @comment c => exact ⟨'#' :: c, rfl, fun _ => rfl⟩
  | newline => exact ⟨['\n'], rfl, fun _ => rfl⟩
  | join => exact ⟨['\\', '\n'], rfl, fun _ => rfl⟩
  | @token x => exact ⟨x, rfl, fun _ => rfl⟩

/-- Each step takes characters or the start of a line. -/
theorem Step.shorter (h : Step s ts s') : 2 * s'.rest.length + s'.lineStart.toNat < 2 * s.rest.length + s.lineStart.toNat := by
  cases h with
  | @commentLine x c r => cases r <;> grind
  | @token x r k p is b b' h =>
    obtain ⟨x', eq, nonempty⟩ := scanToken_suffix h
    obtain rfl := List.append_cancel_right eq
    have := List.length_pos_iff.2 nonempty
    simp
    omega
  | _ => grind

/-! ### Runs -/

/-- The lexer going from one state to another. -/
inductive Steps : LexState → List Token → LexState → Prop where
  | refl (s : LexState) : Steps s [] s
  | step {s s' s'' : LexState} {ts us : List Token} (first : Step s ts s') (later : Steps s' us s'') : Steps s (ts ++ us) s''

theorem Steps.trans {s'' : LexState} {us : List Token} (h : Steps s ts s') (later : Steps s' us s'') : Steps s (ts ++ us) s'' := by
  induction h with
  | refl => exact later
  | step first _ ih =>
    rw [List.append_assoc]
    exact .step first (ih later)

theorem Steps.nest (h : Steps s ts s') : nestAll s.brackets (ts.map (·.kind)) = some s'.brackets := by
  induction h with
  | refl => rfl
  | step first _ ih =>
    rw [List.map_append, nestAll_append, first.nest]
    exact ih

theorem Steps.reads (h : Steps s ts s') : ∃ x, s.rest = x ++ s'.rest ∧ (s'.rest ≠ [] → s'.pos = s.pos.afterAll x) := by
  induction h with
  | refl => exact ⟨[], rfl, fun _ => rfl⟩
  | step first _ ih =>
    obtain ⟨x, eq, pos⟩ := first.reads
    obtain ⟨x', eq', pos'⟩ := ih
    refine ⟨x ++ x', by rw [eq, eq', List.append_assoc], fun more => ?_⟩
    have more' := eq' ▸ List.append_ne_nil_of_right_ne_nil x' more
    rw [pos' more, pos more', Pos.afterAll_append]

/-- A step that reads a token other than a mark. -/
structure ReadsToken (s : LexState) (t : Token) (s' : LexState) (x : List Char) : Prop where
  inLine : s.lineStart = false
  inLine' : s'.lineStart = false
  rest : s.rest = x ++ s'.rest
  some_char : x ≠ []
  starts : s.rest.head?.any startsToken = true
  scanned : scanToken s.rest = some (t.kind, s'.rest)
  span : t.span = ⟨s.pos, s'.pos⟩
  pos : s'.pos = s.pos.afterAll x

theorem ReadsToken.rest_ne {t : Token} {x : List Char} (h : ReadsToken s t s' x) : s.rest ≠ [] := fun none =>
  h.some_char (List.append_eq_nil_iff.1 (h.rest.symm.trans none)).1

/-- A token other than a mark is read by a step of its own. -/
theorem Step.readsToken (h : Step s ts s') {t : Token} (mem : t ∈ ts) (real : Parse.isMark t.kind = false) :
    ts = [t] ∧ ∃ x, ReadsToken s t s' x := by
  cases h with
  | firstInLine _ _ marks =>
    obtain ⟨k, hk, rfl⟩ := List.mem_map.1 mem
    cases real.symm.trans (applyIndent_isMark marks k hk)
  | newline =>
    split at mem
    · cases List.mem_singleton.1 mem
      cases real
    · cases mem
  | @token x r _ _ _ _ _ h starts =>
    cases List.mem_singleton.1 mem
    obtain ⟨x', eq, some_char⟩ := scanToken_suffix h
    obtain rfl := List.append_cancel_right eq
    exact ⟨rfl, x, rfl, rfl, rfl, some_char, starts, h, rfl, rfl⟩
  | _ => cases mem

/-- A run stops at each token it reads. -/
theorem Steps.at_token {us : List Token} {t : Token} (h : Steps s (ts ++ t :: us) s') (real : Parse.isMark t.kind = false) :
    ∃ s₁ s₂, Steps s ts s₁ ∧ Step s₁ [t] s₂ ∧ Steps s₂ us s' := by
  generalize all : ts ++ t :: us = ws at h
  induction h generalizing ts with
  | refl => simp at all
  | @step s s₁ s' vs ws first later ih =>
    obtain ⟨x, rfl, eq⟩ | ⟨x, rfl, eq⟩ := List.append_eq_append_iff.1 all
    · cases x with
      | nil =>
        obtain ⟨s₂, s₃, here, token, rest⟩ := ih (show [] ++ t :: us = ws from eq)
        exact ⟨s₂, s₃, by simpa using Steps.step first here, token, rest⟩
      | cons d x =>
        obtain ⟨rfl, rfl⟩ := List.cons.inj eq
        obtain ⟨one, -⟩ := first.readsToken (t := t) (by simp) real
        obtain ⟨rfl, rfl⟩ : ts = [] ∧ x = [] := by cases ts <;> simp_all
        exact ⟨s, s₁, .refl s, first, later⟩
    · obtain ⟨s₂, s₃, here, token, rest⟩ := ih eq.symm
      exact ⟨s₂, s₃, .step first here, token, rest⟩

/-- Where the lexer stops. -/
structure LexState.Ended (s : LexState) : Prop where
  rest : s.rest = []
  lineStart : s.lineStart = false
  brackets : s.brackets = []

theorem lexFrom_succ {fuel : Nat} (more : s.lineStart = true ∨ s.rest ≠ []) :
    lexFrom (fuel + 1) s = s.next.bind fun p => (lexFrom fuel p.2).map (p.1 ++ ·) := by
  rw [lexFrom, LexState.next]
  cases start : s.lineStart with
  | true =>
    simp only [if_true]
    cases lexLineStart s <;> rfl
  | false =>
    have some_char : s.rest.isEmpty = false := by simpa [start] using more
    simp only [Bool.false_eq_true, if_false, some_char]
    cases lexInLine s <;> rfl

theorem Steps.lexFrom (h : Steps s ts s') (ended : s'.Ended) {fuel : Nat} (enough : 2 * s.rest.length + s.lineStart.toNat < fuel) :
    lexFrom fuel s = some (ts ++ [markAt s'.pos .stop]) := by
  induction h generalizing fuel with
  | refl s =>
    cases fuel with
    | zero => cases enough
    | succ fuel => simp [CallLint.Source.lexFrom, ended.rest, ended.lineStart, ended.brackets]
  | @step s _ _ _ _ first later ih =>
    cases fuel with
    | zero => cases enough
    | succ fuel =>
      have shorter := first.shorter
      have more : s.lineStart = true ∨ s.rest ≠ [] := by
        by_contra none
        simp_all
      rw [lexFrom_succ more, first.next_eq, Option.bind_some, ih ended (by omega), Option.map_some, List.append_assoc]

theorem steps_of_lexFrom {fuel : Nat} (h : lexFrom fuel s = some ts) :
    ∃ us s', Steps s us s' ∧ s'.Ended ∧ ts = us ++ [markAt s'.pos .stop] := by
  induction fuel generalizing s ts with
  | zero => cases h
  | succ fuel ih =>
    by_cases more : s.lineStart = true ∨ s.rest ≠ []
    · rw [lexFrom_succ more] at h
      obtain ⟨p, next, hp⟩ := Option.bind_eq_some_iff.1 h
      obtain ⟨vs, hv, rfl⟩ := Option.map_eq_some_iff.1 hp
      obtain ⟨us, s', run, stops, rfl⟩ := ih hv
      exact ⟨p.1 ++ us, s', .step (step_of_next next) run, stops, (List.append_assoc ..).symm⟩
    · simp only [not_or, not_not, Bool.not_eq_true] at more
      simp only [lexFrom, more, Bool.false_eq_true, if_false, List.isEmpty_nil, if_true] at h
      split at h
      next closed =>
        cases h
        exact ⟨[], s, .refl s, ⟨more.2, more.1, List.isEmpty_iff.1 closed⟩, rfl⟩
      · cases h

end Steps

end CallLint.Source

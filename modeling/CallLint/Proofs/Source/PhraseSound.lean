import CallLint.Proofs.Source.PhraseTokens
import Mathlib.Tactic.Choose

/-!
# What the rules read are phrases

Each rule of the grammar of expressions takes the tokens of a phrase and gives what the phrase stands for, if the readers of inner
expressions do. By induction on the fuel, so does every rule (`exprRule_reads`).
-/

namespace CallLint.Source

open Parse Grammar

/-- A reader that takes tokens related to what it gives. -/
def Reads {α : Type} (p : Parse α) (P : List Token → α → Prop) : Prop :=
  ∀ ⦃s a s'⦄, p s = some (a, s') → ∃ ts, Takes s ts s' ∧ P ts a

section Repetition

variable {α : Type} {P : List Token → α → Prop} {L : List Token → List α → Prop}

theorem Loops.invariant {step : α → Parse (Option α)} {I : α → Input → Prop}
    (done : ∀ ⦃a s s'⦄, step a s = some (none, s') → I a s → I a s')
    (more : ∀ ⦃a b s s'⦄, step a s = some (some b, s') → I a s → I b s') {a b : α} {s s' : Input} (h : Loops step a s b s')
    (start : I a s) : I b s' := by
  induction h with
  | done run => exact done run start
  | more run _ ih => exact ih (more run start)

/-- A loop ends with a step that gives nothing. -/
theorem Loops.exists_done {step : α → Parse (Option α)} {a b : α} {s s' : Input} (h : Loops step a s b s') :
    ∃ t, step b t = some (none, s') := by
  induction h with
  | done run => exact ⟨_, run⟩
  | more _ _ ih => exact ih

/-- Tokens that a step of a repetition takes for an item, or none at its end. -/
def ItemOf (P : List Token → α → Prop) (ts : List Token) : Option α → Prop
  | none => ts = []
  | some a => P ts a

theorem Repeats.reads {more : Parse (Option α)} (h : Reads more (ItemOf P)) (nil : L [] [])
    (cons : ∀ {ts us a as}, P ts a → L us as → L (ts ++ us) (a :: as)) {s s' : Input} {as : List α}
    (run : Repeats more s as s') : ∃ ts, Takes s ts s' ∧ L ts as := by
  induction run with
  | done run =>
    obtain ⟨ts, taken, rfl⟩ := h run
    exact ⟨[], taken, nil⟩
  | item run _ ih =>
    obtain ⟨ts, taken, item⟩ := h run
    obtain ⟨us, taken', items⟩ := ih
    exact ⟨ts ++ us, taken.trans taken', cons item items⟩

theorem many_reads {more : Parse (Option α)} (h : Reads more (ItemOf P)) (nil : L [] [])
    (cons : ∀ {ts us a as}, P ts a → L us as → L (ts ++ us) (a :: as)) : Reads (many more) L :=
  fun _ _ _ run => (repeats_of_many run).reads h nil cons

/-- An item behind a token, if it is there. -/
theorem attempt_reads {item : Parse α} {c : Punct} (h : Reads item P) :
    Reads (attempt (do punct c; item)) (ItemOf fun ts a => ∃ p us, ts = ⟨.punct c, p⟩ :: us ∧ P us a) := by
  intro s o s' run
  rcases attempt_eq_some.1 run with ⟨a, rfl, both⟩ | ⟨rfl, -, rfl⟩
  · obtain ⟨_, t, first, second⟩ := bind_eq_some.1 both
    obtain ⟨p, taken⟩ := punct_eq_some.1 first
    obtain ⟨us, taken', item⟩ := h second
    exact ⟨_, taken.cons taken', p, us, rfl, item⟩
  · exact ⟨[], .refl _, rfl⟩

/-- Items behind commas, and possibly a comma at the end. -/
theorem commaTail_reads {item : Parse α} (h : Reads item P) (nil : L [] [])
    (cons : ∀ {p ts us a as}, P ts a → L us as → L (⟨.punct .comma, p⟩ :: (ts ++ us)) (a :: as)) {s s' : Input}
    {r : List α × Bool} (run : commaTail item s = some (r, s')) :
    ∃ us cs, Takes s (us ++ cs) s' ∧ L us r.1 ∧ Trailing cs ∧ (s.kind = .punct .comma → us ++ cs ≠ []) := by
  simp only [commaTail, bind_eq_some, acceptPunct_eq_some, pure_eq_some] at run
  obtain ⟨as, t, run, comma, t', accepted, rfl, rfl⟩ := run
  obtain ⟨us, taken, items⟩ : ∃ us, Takes s us t ∧ L us as := by
    refine many_reads (attempt_reads h) nil ?_ run
    rintro ts us a as ⟨p, vs, rfl, item⟩ items
    exact cons item items
  rcases accepted with ⟨-, p, taken'⟩ | ⟨-, none, rfl⟩
  · exact ⟨us, _, taken.trans taken', items, ⟨_, .some p⟩, fun _ => by simp⟩
  · refine ⟨us, [], by simpa using taken, items, ⟨_, .none⟩, fun comma empty => ?_⟩
    obtain rfl := (List.append_eq_nil_iff.1 empty).1
    obtain rfl := takes_nil.1 taken
    exact none comma

/-- Items between commas. -/
theorem commaSeparated_reads {item : Parse α} (h : Reads item P) (nil : L [] [])
    (cons : ∀ {p ts us a as}, P ts a → L us as → L (⟨.punct .comma, p⟩ :: (ts ++ us)) (a :: as)) {s s' : Input}
    {as : List α} (run : commaSeparated item s = some (as, s')) :
    ∃ a rest ts us, as = a :: rest ∧ Takes s (ts ++ us) s' ∧ P ts a ∧ L us rest := by
  obtain ⟨a, t, first, more⟩ := bind_eq_some.1 run
  obtain ⟨rest, rfl, repeats⟩ := repeats_of_manyFrom more
  obtain ⟨ts, taken, item⟩ := h first
  obtain ⟨us, taken', items⟩ : ∃ us, Takes t us s' ∧ L us rest := by
    refine repeats.reads (attempt_reads h) nil ?_
    rintro ts us a as ⟨p, vs, rfl, item⟩ items
    exact cons item items
  exact ⟨a, rest, ts, us, rfl, taken.trans taken', item, items⟩

theorem accept_reads (k : TokenKind) : Reads (accept k) (Mark k) := by
  intro s b s' run
  rcases accept_eq_some.1 run with ⟨rfl, p, taken⟩ | ⟨rfl, -, rfl⟩
  · exact ⟨_, taken, .some p⟩
  · exact ⟨[], .refl _, .none⟩

theorem trailing_reads : Reads (acceptPunct .comma) fun ts _ => Trailing ts :=
  fun _ _ _ run => (accept_reads _ run).imp fun _ h => ⟨h.1, _, h.2⟩

end Repetition

/-- The phrases that a rule reads. -/
def Grammar.Rule.Phrases : Rule → List Token → Expr → Prop
  | .expression => Phrase (.expr .expression)
  | .named => Phrase (.expr .named)
  | .starExpressions => Phrase (.tupled .expression)
  | .disjunction => Phrase (.expr .disjunction)
  | .inversion => Phrase (.expr .inversion)
  | .bitwiseOr => Phrase (.expr .bitOr)
  | .factor => Phrase (.expr .factor)

section Rules

variable {self : Rule → Parse Expr}

/-! ### Lists of expressions -/

theorem starred_reads {inner : Parse Expr} {k : Element} {l : Level} (h : Reads inner (Phrase (.expr l)))
    (level : k.starLevel = some l) : Reads (starred inner) (Phrase (.element k)) := by
  intro s e s' run
  simp only [starred, spanned_eq_some, bind_eq_some, punct_eq_some, pure_eq_some] at run
  obtain ⟨-, ⟨-, t, ⟨p, taken⟩, v, t', run, rfl, rfl⟩, rfl⟩ := run
  obtain ⟨ts, taken', inner⟩ := h run
  refine ⟨_, taken.cons taken', ?_⟩
  rw [(taken.cons taken').span_eq (solid_cons rfl)]
  exact .starred p level inner

/-- An element: starred, or an expression of its level. -/
theorem element_reads {p q : Parse Expr} {k : Element} {l : Level} (hp : Reads p (Phrase (.expr l)))
    (level : k.starLevel = some l) (hq : Reads q (Phrase (.expr k.level))) :
    Reads (do if ← atPunct .star then starred p else q) (Phrase (.element k)) := by
  intro s e s' run
  rw [atPunct_bind_run, ite_eq_some] at run
  rcases run with ⟨-, run⟩ | ⟨-, run⟩
  · exact starred_reads hp level run
  · obtain ⟨ts, taken, inner⟩ := hq run
    exact ⟨ts, taken, .plain inner⟩

/-- The elements behind a first one make a series with it. -/
theorem commaTail_series {item : Parse Expr} {k : Element} (h : Reads item (Phrase (.element k))) {s t t' : Input}
    {ts : List Token} {e : Expr} {r : List Expr × Bool} (taken : Takes s ts t) (first : Phrase (.element k) ts e)
    (run : commaTail item t = some (r, t')) :
    ∃ us comma, Takes s us t' ∧ Phrase (.series k) us (e :: r.1, comma) ∧ (t.kind = .punct .comma → comma = true) ∧
      (t.kind ≠ .punct .comma → r.1 = []) := by
  obtain ⟨us, cs, taken', rest, trailing, comma⟩ :=
    commaTail_reads (L := Phrase (.elements k)) h .noElement (fun first rest => .furtherElement _ first rest) run
  refine ⟨_, _, taken.trans taken', .series first rest trailing, fun at_comma => by simpa using comma at_comma, fun no_comma => ?_⟩
  obtain ⟨es, b⟩ := r
  cases rest with
  | noElement => rfl
  | furtherElement => exact absurd taken'.kind_eq no_comma

theorem tupleOr_reads {item : Parse Expr} {k : Element} (h : Reads item (Phrase (.element k))) :
    Reads (tupleOr item) (Phrase (.tupled k)) := by
  intro s e s' run
  unfold tupleOr at run
  simp only [↓here_bind_run, bind_eq_some, ↓atPunct_bind_run, ite_eq_some, ↓since_bind_run, pure_eq_some,
    beq_iff_eq] at run
  obtain ⟨first, t, run, ⟨at_comma, r, t', run', rfl, rfl⟩ | ⟨-, rfl, rfl⟩⟩ := run
  · obtain ⟨ts, taken, element⟩ := h run
    obtain ⟨us, comma, taken', series, all, -⟩ := commaTail_series h taken element run'
    obtain rfl := all at_comma
    refine ⟨us, taken', ?_⟩
    rw [taken'.span_eq (series.solid rfl)]
    exact .together series
  · obtain ⟨ts, taken, element⟩ := h run
    exact ⟨ts, taken, .alone element⟩

/-! ### Comprehensions -/

theorem asTarget_eq_some {ctx : Context} {e t : Expr} {s s' : Input} :
    asTarget ctx e s = some (t, s') ↔ e.toTarget? ctx = some t ∧ s = s' := by
  unfold asTarget
  cases e.toTarget? ctx with
  | none => simp [fail_eq_some]
  | some target => simp [pure_eq_some]

theorem atForClause_bind_run {α : Type} {s : Input} {f : Bool → Parse α} {r : Option (α × Input)} :
    (atForClause >>= f) s = r ↔ f (Form.clause.starts s.kind) s = r := by
  have eq : atForClause s = some (Form.clause.starts s.kind, s) := by
    unfold atForClause
    rw [peek_bind_run]
    cases s.kind with
    | word w => cases w <;> rfl
    | _ => rfl
  have run : (atForClause >>= f) s = (atForClause s).bind fun r => f r.1 r.2 := rfl
  rw [run, eq]
  rfl

section Inner

variable (inner : ∀ r, Reads (self r) r.Phrases)

include inner

theorem starNamed_reads : Reads (starNamed self) (Phrase (.element .named)) :=
  element_reads (inner .bitwiseOr) rfl (inner .named)

theorem starExpression_reads : Reads (starExpression self) (Phrase (.element .expression)) :=
  element_reads (inner .bitwiseOr) rfl (inner .expression)

theorem targetItem_reads : Reads (targetItem self) (Phrase (.element .target)) :=
  element_reads (inner .bitwiseOr) rfl (inner .bitwiseOr)

theorem forTargets_reads :
    Reads (forTargets self) fun ts t => ∃ e, Phrase (.tupled .target) ts e ∧ e.toTarget? .store = some t := by
  intro s t s' run
  simp only [forTargets, bind_eq_some, asTarget_eq_some] at run
  obtain ⟨e, t', run, h, rfl⟩ := run
  obtain ⟨ts, taken, targets⟩ := tupleOr_reads (targetItem_reads inner) run
  exact ⟨ts, taken, e, targets, h⟩

theorem conditions_reads :
    Reads (many (do if ← acceptWord .kIf then return some (← self .disjunction) else return none)) (Phrase .conditions) := by
  refine many_reads (P := fun ts e => ∃ p us, ts = ⟨.word .kIf, p⟩ :: us ∧ Phrase (.expr .disjunction) us e) ?_
    .noCondition ?_
  · intro s o s' run
    simp only [↓acceptWord_ite_eq_some, bind_eq_some, pure_eq_some] at run
    rcases run with ⟨p, t, taken, e, t', run, rfl, rfl⟩ | ⟨-, rfl, rfl⟩
    · obtain ⟨ts, taken', test⟩ := inner .disjunction run
      exact ⟨_, taken.cons taken', p, ts, rfl, test⟩
    · exact ⟨[], .refl _, rfl⟩
  · rintro _ us e es ⟨p, ts, rfl, test⟩ rest
    exact .condition p test rest

theorem forClause_reads : Reads (forClause self) (ItemOf (Phrase .clause)) := by
  intro s o s' run
  unfold forClause at run
  simp only [bind_eq_some, ite_eq_some, ↓fail_bind_eq_some, ↓word_bind_eq_some, pure_eq_some, and_false, false_or] at run
  obtain ⟨isAsync, t, async, b, t', for_, ⟨none, sync, rfl, rfl⟩ | ⟨some, run⟩⟩ := run
  · obtain ⟨as, taken, mark⟩ := accept_reads _ async
    obtain ⟨bs, taken', mark'⟩ := accept_reads _ for_
    cases mark' with
    | none =>
      cases mark with
      | none => exact ⟨[], taken.trans taken', rfl⟩
      | some => exact absurd rfl sync
    | some => cases none
  · obtain ⟨target, t₁, run₁, q, t₂, taken₂, iter, t₃, run₃, ifs, t₄, run₄, rfl, rfl⟩ := run
    obtain ⟨as, taken, mark⟩ := accept_reads _ async
    obtain ⟨bs, taken', mark'⟩ := accept_reads _ for_
    cases mark' with
    | some p =>
      obtain ⟨ts, taken₁, e, targets, h⟩ := forTargets_reads inner run₁
      obtain ⟨us, taken₃, iterated⟩ := inner .disjunction run₃
      obtain ⟨vs, taken₄, tests⟩ := conditions_reads inner run₄
      refine ⟨_, taken.trans (taken'.cons (taken₁.trans (taken₂.cons (taken₃.trans taken₄)))), ?_⟩
      exact .clause p q mark targets h iterated tests
    | none => exact absurd rfl some

theorem forClauses_reads : Reads (forClauses self) (Phrase .clauses) :=
  many_reads (forClause_reads inner) .noClause fun first rest => .furtherClause first rest

/-- Where a clause starts, there is one. -/
theorem some_forClauses {s s' : Input} {gs : List Comprehension} (starts : Form.clause.starts s.kind = true)
    (run : forClauses self s = some (gs, s')) : ∃ ts, Takes s ts s' ∧ Phrase .clauses ts gs ∧ gs ≠ [] := by
  obtain ⟨ts, taken, clauses⟩ := forClauses_reads inner run
  refine ⟨ts, taken, clauses, ?_⟩
  rintro rfl
  cases repeats_of_many run with
  | done run =>
    unfold forClause at run
    simp only [bind_eq_some, acceptWord_eq_some, ite_eq_some, ↓fail_bind_eq_some, pure_eq_some, and_false, false_or,
      reduceCtorEq, false_and, exists_false, or_false] at run
    obtain ⟨isAsync, t, async, b, t', for_, none, sync, -⟩ := run
    rcases for_ with ⟨rfl, -⟩ | ⟨-, no_for, -⟩
    · cases none
    rcases async with ⟨rfl, -⟩ | ⟨-, no_async, rfl⟩
    · exact sync rfl
    · simp [Form.starts, no_for, no_async] at starts

/-! ### Operands -/

theorem yieldExpr_reads : Reads (yieldExpr self) (Phrase .yielding) := by
  intro s e s' run
  rw [yieldExpr, spanned_eq_some] at run
  simp only [↓word_bind_eq_some, ↓acceptWord_ite_eq_some, bind_eq_some, attempt_eq_some, pure_eq_some] at run
  obtain ⟨f, ⟨p, t, taken, run⟩, rfl⟩ := run
  rcases run with ⟨q, t', taken', v, t'', run, rfl, rfl⟩ | ⟨-, v?, t', ⟨v, rfl, run⟩ | ⟨rfl, -, rfl⟩, rfl, rfl⟩
  · obtain ⟨ts, taken'', value⟩ := inner .expression run
    have all := taken.cons (taken'.cons taken'')
    refine ⟨_, all, ?_⟩
    rw [all.span_eq (solid_cons rfl)]
    exact .yieldFrom p q value
  · obtain ⟨ts, taken', value⟩ := inner .starExpressions run
    refine ⟨_, taken.cons taken', ?_⟩
    rw [(taken.cons taken').span_eq (solid_cons rfl)]
    exact .yieldValue p value
  · refine ⟨_, taken, ?_⟩
    rw [taken.span_eq (solid_cons rfl)]
    exact .yieldNone p

omit inner in
/-- An element that is not starred is an expression of its level. -/
theorem Phrase.expr_of_element {k : Element} {ts : List Token} {e : Expr} (h : Phrase (.element k) ts e)
    (notIndex : k ≠ .index) (notStarred : isStarred e ≠ true) : Phrase (.expr k.level) ts e := by
  cases h with
  | plain inner => exact inner
  | starred => exact absurd rfl notStarred
  | slice => exact absurd rfl notIndex

theorem parenthesized_reads : Reads (parenthesized self) (Phrase (.expr .atom)) := by
  intro s e s' run
  unfold parenthesized at run
  simp only [↓here_bind_run, ↓punct_bind_eq_some, ↓acceptPunct_ite_eq_some, ↓atWord_bind_run, ↓atPunct_bind_run, bind_eq_some,
    ↓atForClause_bind_run, ↓fail_bind_eq_some, ite_eq_some, ↓since_bind_run, pure_eq_some, beq_iff_eq, and_false, false_or] at run
  obtain ⟨p, t, opened, run⟩ := run
  rcases run with ⟨q, t', closed, rfl, rfl⟩ | ⟨-, ⟨-, y, t₁, run, q, t₂, closed, rfl, rfl⟩ | ⟨-, first, t₁, run, rest⟩⟩
  · refine ⟨_, opened.cons closed, ?_⟩
    rw [(opened.cons closed).span_eq (solid_cons rfl)]
    exact .unit p q
  · obtain ⟨ts, taken, yielded⟩ := yieldExpr_reads inner run
    exact ⟨_, opened.cons (taken.trans closed), .yielded p q yielded⟩
  obtain ⟨ts, taken, element⟩ := starNamed_reads inner run
  rcases rest with ⟨at_comma, r, t₂, tail, q, t₃, closed, rfl, rfl⟩ | ⟨-, notStarred, rest⟩
  · obtain ⟨us, comma, taken', series, all, -⟩ := commaTail_series (starNamed_reads inner) taken element tail
    obtain rfl := all at_comma
    have whole := opened.cons (taken'.trans closed)
    refine ⟨_, whole, ?_⟩
    rw [whole.span_eq (solid_cons rfl)]
    exact .tuple p q series
  · have elt := element.expr_of_element nofun notStarred
    rcases rest with ⟨for_, gs, t₂, run, q, t₃, closed, rfl, rfl⟩ | ⟨-, q, t₂, closed, rfl, rfl⟩
    · obtain ⟨us, taken', clauses, some_clause⟩ := some_forClauses inner for_ run
      have whole := opened.cons (taken.trans (taken'.trans closed))
      refine ⟨_, whole, ?_⟩
      rw [whole.span_eq (solid_cons rfl)]
      exact .generator p q elt clauses some_clause
    · exact ⟨_, opened.cons (taken.trans closed), .group p q elt⟩

theorem bracketed_reads : Reads (bracketed self) (Phrase (.expr .atom)) := by
  intro s e s' run
  unfold bracketed at run
  simp only [↓here_bind_run, ↓punct_bind_eq_some, ↓acceptPunct_ite_eq_some, bind_eq_some, ↓atForClause_bind_run,
    ↓fail_bind_eq_some, ite_eq_some, ↓since_bind_run, pure_eq_some, and_false, false_or] at run
  obtain ⟨p, t, opened, run⟩ := run
  rcases run with ⟨q, t', closed, rfl, rfl⟩ | ⟨-, first, t₁, run, rest⟩
  · refine ⟨_, opened.cons closed, ?_⟩
    rw [(opened.cons closed).span_eq (solid_cons rfl)]
    exact .nil p q
  obtain ⟨ts, taken, element⟩ := starNamed_reads inner run
  rcases rest with ⟨for_, notStarred, gs, t₂, run, q, t₃, closed, rfl, rfl⟩ | ⟨-, r, t₂, tail, q, t₃, closed, rfl, rfl⟩
  · obtain ⟨us, taken', clauses, some_clause⟩ := some_forClauses inner for_ run
    have whole := opened.cons (taken.trans (taken'.trans closed))
    refine ⟨_, whole, ?_⟩
    rw [whole.span_eq (solid_cons rfl)]
    exact .listComp p q (element.expr_of_element nofun notStarred) clauses some_clause
  · obtain ⟨us, comma, taken', series, -⟩ := commaTail_series (starNamed_reads inner) taken element tail
    have whole := opened.cons (taken'.trans closed)
    refine ⟨_, whole, ?_⟩
    rw [whole.span_eq (solid_cons rfl)]
    exact .list p q series

theorem dictItem_reads : Reads (dictItem self) (Phrase .pair) := by
  intro s i s' run
  unfold dictItem at run
  simp only [↓acceptPunct_ite_eq_some, ↓punct_bind_eq_some, bind_eq_some, pure_eq_some] at run
  rcases run with ⟨p, t, taken, v, t', run, rfl, rfl⟩ | ⟨-, k, t, run, p, t', taken', v, t'', run', rfl, rfl⟩
  · obtain ⟨ts, taken', value⟩ := inner .bitwiseOr run
    exact ⟨_, taken.cons taken', .unpacked p value⟩
  · obtain ⟨ts, taken, key⟩ := inner .expression run
    obtain ⟨us, taken'', value⟩ := inner .expression run'
    exact ⟨_, taken.trans (taken'.cons taken''), .entry p key value⟩

/-- The dictionary behind its brace and its first item. -/
theorem dictFrom_reads {s t t' s' : Input} {p : Span} {ts : List Token} {i : Option Expr × Expr} {e : Expr}
    (opened : Takes s [⟨.punct .leftBrace, p⟩] t) (taken : Takes t ts t') (first : Phrase .pair ts i)
    (run : dictFrom self s.start i t' = some (e, s')) : ∃ us, Takes s us s' ∧ Phrase (.expr .atom) us e := by
  unfold dictFrom at run
  simp only [bind_eq_some, ↓punct_bind_eq_some, ↓since_bind_run, pure_eq_some] at run
  obtain ⟨r, t₁, tail, q, t₂, closed, rfl, rfl⟩ := run
  obtain ⟨us, cs, taken', rest, comma, -⟩ :=
    commaTail_reads (L := Phrase .pairs) (dictItem_reads inner) .noPair (fun first rest => .furtherPair _ first rest) tail
  obtain ⟨t₃, taken₁, taken₂⟩ := takes_append.1 taken'
  have whole := opened.cons (taken.trans (taken₁.trans (taken₂.trans closed)))
  refine ⟨_, whole, ?_⟩
  rw [whole.span_eq (solid_cons rfl)]
  exact .dict p q first rest comma

/-- The set behind its brace and its first element. -/
theorem setFrom_reads {s t t' s' : Input} {p : Span} {ts : List Token} {first e : Expr}
    (opened : Takes s [⟨.punct .leftBrace, p⟩] t) (taken : Takes t ts t') (element : Phrase (.element .named) ts first)
    (run : setFrom self s.start first t' = some (e, s')) : ∃ us, Takes s us s' ∧ Phrase (.expr .atom) us e := by
  unfold setFrom at run
  simp only [↓atForClause_bind_run, bind_eq_some, ↓punct_bind_eq_some, ↓fail_bind_eq_some, ite_eq_some, ↓since_bind_run,
    pure_eq_some, and_false, false_or] at run
  rcases run with ⟨for_, notStarred, gs, t₂, run, q, t₃, closed, rfl, rfl⟩ | ⟨-, r, t₂, tail, q, t₃, closed, rfl, rfl⟩
  · obtain ⟨us, taken', clauses, some_clause⟩ := some_forClauses inner for_ run
    have whole := opened.cons (taken.trans (taken'.trans closed))
    refine ⟨_, whole, ?_⟩
    rw [whole.span_eq (solid_cons rfl)]
    exact .setComp p q (element.expr_of_element nofun notStarred) clauses some_clause
  · obtain ⟨us, comma, taken', series, -⟩ := commaTail_series (starNamed_reads inner) taken element tail
    have whole := opened.cons (taken'.trans closed)
    refine ⟨_, whole, ?_⟩
    rw [whole.span_eq (solid_cons rfl)]
    exact .set p q series

theorem braced_reads : Reads (braced self) (Phrase (.expr .atom)) := by
  intro s e s' run
  unfold braced at run
  simp only [↓here_bind_run, ↓punct_bind_eq_some, ↓acceptPunct_ite_eq_some, ↓atPunct_bind_run, ↓peekSecond_bind_run,
    bind_eq_some, ↓atForClause_bind_run, ite_eq_some, ↓since_bind_run, pure_eq_some] at run
  obtain ⟨p, t, opened, run⟩ := run
  rcases run with ⟨q, t', closed, rfl, rfl⟩ | ⟨-, ⟨-, i, t₁, run, rest⟩ | ⟨-, run⟩⟩
  · refine ⟨_, opened.cons closed, ?_⟩
    rw [(opened.cons closed).span_eq (solid_cons rfl)]
    exact .emptyDict p q
  · obtain ⟨ts, taken, pair⟩ := dictItem_reads inner run
    exact dictFrom_reads inner opened taken pair rest
  rcases run with ⟨-, first, t₁, run, rest⟩ | ⟨-, first, t₁, run, rest⟩
  · obtain ⟨ts, taken, element⟩ := starNamed_reads inner run
    exact setFrom_reads inner opened taken element rest
  obtain ⟨ts, taken, key⟩ := inner .expression run
  rcases rest with ⟨r, t₂, taken', v, t₃, run, rest⟩ | ⟨-, rest⟩
  · obtain ⟨us, taken'', value⟩ := inner .expression run
    rcases rest with ⟨for_, gs, t₄, run, q, t₅, closed, rfl, rfl⟩ | ⟨-, rest⟩
    · obtain ⟨vs, taken₃, clauses, some_clause⟩ := some_forClauses inner for_ run
      have whole := opened.cons (taken.trans (taken'.cons (taken''.trans (taken₃.trans closed))))
      refine ⟨_, whole, ?_⟩
      rw [whole.span_eq (solid_cons rfl)]
      exact .dictComp p q r key value clauses some_clause
    · exact dictFrom_reads inner opened (taken.trans (taken'.cons taken'')) (.entry r key value) rest
  · exact setFrom_reads inner opened taken (.plain (.lift rfl key)) rest

/-- The expression of a field is a phrase up to the end of its line. -/
theorem fieldExpr_reads {source : List Char} {pos : Pos} {v : Expr} (h : fieldExpr self source pos = some v) :
    ∃ ts, Phrase (.tupled .expression) ts v ∧ ∃ p rest, fieldTokens source pos = some (ts ++ ⟨.newline, p⟩ :: rest) := by
  unfold fieldExpr at h
  split at h
  · cases h
  next tokens lexed =>
  obtain ⟨⟨e, s'⟩, run, rfl⟩ := Option.map_eq_some_iff.1 h
  unfold fieldLine at run
  simp only [bind_eq_some, ↓expect_bind_eq_some, pure_eq_some] at run
  obtain ⟨e, t, run, p, t', taken', rfl, rfl⟩ := run
  obtain ⟨ts, taken, phrase⟩ := inner .starExpressions run
  refine ⟨ts, phrase, p, t'.tokens, ?_⟩
  have tokens_eq : tokens = ts ++ [⟨.newline, p⟩] ++ t'.tokens := (taken.trans taken').tokens
  rw [lexed, tokens_eq, List.append_assoc]
  rfl

/-- The phrases of all fields that can be read. -/
theorem exists_fields :
    ∃ field : List Char → Pos → Expr → List Token,
      (∀ source pos v, fieldExpr self source pos = some v → Phrase (.tupled .expression) (field source pos v) v) ∧
      ∀ source pos v, fieldExpr self source pos = some v →
        ∃ p rest, fieldTokens source pos = some (field source pos v ++ ⟨.newline, p⟩ :: rest) := by
  classical
  choose field reads lexes using fun source pos v (h : fieldExpr self source pos = some v) => fieldExpr_reads inner h
  refine ⟨fun source pos v => if h : fieldExpr self source pos = some v then field source pos v h else [], ?_, ?_⟩
  · intro source pos v h
    simpa only [h, dif_pos] using reads source pos v h
  · intro source pos v h
    simpa only [h, dif_pos] using lexes source pos v h

omit inner in
theorem stringTokens_reads :
    Reads (many (do
      match ← peek with
      | .string s =>
        let t ← next
        return some (s, t.span)
      | _ => return none)) (fun ts ss => ts = stringTokens ss) := by
  refine many_reads (P := fun ts x => ts = [⟨.string x.1, x.2⟩]) ?_ rfl ?_
  · intro s o s' run
    rw [peek_bind_run] at run
    change StateT.run _ s = _ at run
    split at run
    · next x kind =>
      unfold StateT.run at run
      simp only [↓next_bind_eq_some, pure_eq_some] at run
      obtain ⟨t, t', taken, rfl, rfl⟩ := run
      have same : (⟨.string x, t.span⟩ : Token) = t := by rw [← kind, taken.kind_eq]
      exact ⟨[t], taken, congrArg (fun t => [t]) same.symm⟩
    · obtain ⟨rfl, rfl⟩ := pure_eq_some.1 run
      exact ⟨[], .refl _, rfl⟩
  · rintro _ _ x xs rfl rfl
    rfl

theorem strings_reads {s s' : Input} {x : StringToken} {e : Expr} (kind : s.kind = .string x)
    (run : strings self s = some (e, s')) :
    ∃ ss, ss ≠ [] ∧ Takes s (stringTokens ss) s' ∧ Phrase (.expr .atom) (stringTokens ss) e := by
  unfold strings at run
  rw [here_bind_run] at run
  obtain ⟨ss, t, run', run⟩ := bind_eq_some.1 run
  obtain ⟨_, taken, rfl⟩ := stringTokens_reads run'
  have some_string : ss ≠ [] := by
    rintro rfl
    cases repeats_of_many run' with
    | done none =>
      rw [peek_bind_run, kind] at none
      simp only [↓next_bind_eq_some, pure_eq_some, reduceCtorEq, false_and, and_false, exists_false] at none
  have solid : Solid (stringTokens ss) := by
    cases ss with
    | nil => exact absurd rfl some_string
    | cons s ss => exact solid_cons rfl
  rw [since_bind_run, taken.span_eq solid] at run
  cases joined : stringsExpr (fieldExpr self) (spanOf (stringTokens ss)) ss with
  | none =>
    rw [joined] at run
    cases run
  | some e' =>
    rw [joined] at run
    obtain ⟨rfl, rfl⟩ := pure_eq_some.1 run
    obtain ⟨field, reads, lexes⟩ := exists_fields inner
    exact ⟨ss, some_string, taken, .strings some_string reads lexes joined⟩

omit inner in
theorem constant_reads {s s' : Input} {v : Literal} {e : Expr} (kind : constantOf? s.kind = some v)
    (run : constant v s = some (e, s')) : ∃ p, Takes s [⟨s.kind, p⟩] s' ∧ e = .constant p v false := by
  rw [constant, spanned_eq_some] at run
  simp only [↓next_bind_eq_some, pure_eq_some] at run
  obtain ⟨_, ⟨t, t', taken, rfl, rfl⟩, rfl⟩ := run
  rw [taken.kind_eq] at kind
  have starts : isMark t.kind = false := Level.isMark_of_starts (l := .atom) (Level.startsAtom_of_constant kind)
  refine ⟨t.span, ?_, ?_⟩
  · rw [taken.kind_eq]
    exact taken
  · rw [taken.span_eq (solid_cons starts)]
    simp [spanOf, endOf, starts]

omit inner in
theorem constant_atom {s s' : Input} {v : Literal} {e : Expr} (kind : constantOf? s.kind = some v)
    (run : constant v s = some (e, s')) : ∃ ts, Takes s ts s' ∧ Phrase (.expr .atom) ts e := by
  obtain ⟨p, taken, rfl⟩ := constant_reads kind run
  exact ⟨_, taken, .constant p kind⟩

omit inner in
theorem nameExpr_reads : Reads nameExpr fun ts e =>
    ∃ w p, ts = [⟨.name w, p⟩] ∧ e = .name p (Text.ofChars (Text.normalForm w)) .load := by
  intro s e s' run
  rw [nameExpr, spanned_eq_some] at run
  simp only [↓name_bind_eq_some, pure_eq_some] at run
  obtain ⟨_, ⟨w, p, t, taken, rfl, rfl⟩, rfl⟩ := run
  exact ⟨_, taken, w, p, rfl, by rw [taken.span_eq (solid_cons rfl)]; rfl⟩

theorem atom_reads : Reads (atom self) (Phrase (.expr .atom)) := by
  intro s e s' run
  unfold atom at run
  rw [peek_bind_run] at run
  change StateT.run _ s = _ at run
  split at run
  · obtain ⟨_, taken, w, p, rfl, rfl⟩ := nameExpr_reads run
    exact ⟨_, taken, .name w p⟩
  iterate 5
    · next kind => exact constant_atom (by rw [kind]; rfl) run
  · next kind =>
    obtain ⟨ss, -, taken, strings⟩ := strings_reads inner kind run
    exact ⟨_, taken, strings⟩
  · exact parenthesized_reads inner run
  · exact bracketed_reads inner run
  · exact braced_reads inner run
  · cases run

/-! ### Arguments -/

theorem argument_reads (a : Arguments) :
    Reads (argument self a) fun ts b => ∃ x, Phrase .argument ts x ∧ a.add? x = some b := by
  intro s b s' run
  unfold argument at run
  simp only [↓here_bind_run, ↓peek_bind_run, ↓peekSecond_bind_run] at run
  change StateT.run _ s = _ at run
  split at run <;> unfold StateT.run at run
  · simp only [↓name_bind_eq_some, ↓punct_bind_eq_some, bind_eq_some, ↓since_bind_run, pure_eq_some] at run
    obtain ⟨w, p, t, taken, q, t', taken', v, t'', run, rfl, rfl⟩ := run
    obtain ⟨ts, taken'', value⟩ := inner .expression run
    have whole := taken.cons (taken'.cons taken'')
    refine ⟨_, whole, _, .keyword w p q value, ?_⟩
    rw [whole.span_eq (solid_cons rfl)]
    rfl
  · next kind =>
    simp only [↓next_bind_eq_some, bind_eq_some, ↓since_bind_run, pure_eq_some] at run
    obtain ⟨⟨k, p⟩, t, taken, v, t', run, rfl, rfl⟩ := run
    obtain rfl : k = .punct .doubleStar := taken.kind_eq.symm.trans kind
    obtain ⟨ts, taken', value⟩ := inner .expression run
    refine ⟨_, taken.cons taken', _, .mapping p value, ?_⟩
    rw [(taken.cons taken').span_eq (solid_cons rfl)]
    rfl
  · simp only [↓fail_bind_eq_some, bind_eq_some, ite_eq_some, pure_eq_some, and_false, false_or] at run
    obtain ⟨stage, e, t, run, rfl, rfl⟩ := run
    rw [starred, spanned_eq_some] at run
    simp only [↓punct_bind_eq_some, bind_eq_some, pure_eq_some] at run
    obtain ⟨_, ⟨p, t', taken, v, t'', run, rfl, rfl⟩, rfl⟩ := run
    obtain ⟨ts, taken', value⟩ := inner .expression run
    refine ⟨_, taken.cons taken', _, .starredArgument p value, ?_⟩
    rw [(taken.cons taken').span_eq (solid_cons rfl)]
    simp [Arguments.add?, isStarred, bne, stage]
  · simp only [↓fail_bind_eq_some, bind_eq_some, ite_eq_some, ↓atPunct_bind_run, pure_eq_some, and_false, false_or] at run
    obtain ⟨stage, e, t, run, -, rfl, rfl⟩ := run
    obtain ⟨ts, taken, value⟩ := inner .named run
    refine ⟨ts, taken, _, .positional value, ?_⟩
    have positional : (a.stage == .positional) = true := by simpa [bne] using stage
    simp [Arguments.add?, positional]

/-- The arguments behind a first one, each behind a comma. -/
theorem Loops.arguments {a b : Arguments} {s s' : Input}
    (h : Loops (fun a => attempt (do punct .comma; argument self a)) a s b s') :
    ∃ ts xs, Takes s ts s' ∧ Phrase .furtherArguments ts xs ∧ xs.foldlM Arguments.add? a = some b := by
  induction h with
  | done run =>
    rcases attempt_eq_some.1 run with ⟨a, none, -⟩ | ⟨-, -, rfl⟩
    · cases none
    · exact ⟨[], [], .refl _, .noArgument, rfl⟩
  | more run _ ih =>
    rcases attempt_eq_some.1 run with ⟨c, same, both⟩ | ⟨none, -⟩
    · cases same
      rw [punct_bind_eq_some] at both
      obtain ⟨p, t, taken, run⟩ := both
      obtain ⟨us, taken', x, first, add⟩ := argument_reads inner _ run
      obtain ⟨vs, xs, taken'', rest, adds⟩ := ih
      refine ⟨_, x :: xs, taken.cons (taken'.trans taken''), .furtherArgument p first rest, ?_⟩
      rw [List.foldlM_cons, add]
      exact adds
    · cases none

/-- The arguments from a first one up to the closing parenthesis. -/
theorem argumentsFrom_reads {s t s' : Input} {ts : List Token} {x : Expr ⊕ Keyword} {a : Arguments}
    {r : List Expr × List Keyword} (taken : Takes s ts t) (first : Phrase .argument ts x)
    (add : Arguments.add? ⟨.positional, [], []⟩ x = some a) (run : argumentsFrom self a t = some (r, s')) :
    ∃ us q, Takes s (us ++ [⟨.punct .rightParen, q⟩]) s' ∧ Phrase .argumentList us r := by
  unfold argumentsFrom at run
  simp only [bind_eq_some, ↓punct_bind_eq_some, pure_eq_some] at run
  obtain ⟨b, t₁, loop, comma, t₂, accepted, q, t₃, closed, rfl, rfl⟩ := run
  obtain ⟨us, xs, taken', rest, adds⟩ := (loops_of_iterate loop).arguments inner
  obtain ⟨cs, taken'', trailing⟩ := trailing_reads accepted
  refine ⟨_, q, (taken.trans (taken'.trans taken'')).trans closed, .argumentList first rest trailing ?_⟩
  rw [List.foldlM_cons, add]
  exact adds

/-- The arguments of a class behind their opening parenthesis. -/
theorem arguments_reads : Reads (arguments self) fun ts r =>
    ∃ us q, ts = us ++ [⟨.punct .rightParen, q⟩] ∧ ((us = [] ∧ r = ([], [])) ∨ Phrase .argumentList us r) := by
  intro s r s' run
  unfold arguments at run
  simp only [↓acceptPunct_ite_eq_some, bind_eq_some, pure_eq_some] at run
  rcases run with ⟨q, t, closed, rfl, rfl⟩ | ⟨-, a, t, run, rest⟩
  · exact ⟨_, closed, [], q, rfl, Or.inl ⟨rfl, rfl⟩⟩
  · obtain ⟨ts, taken, x, first, add⟩ := argument_reads inner _ run
    obtain ⟨us, q, taken', list⟩ := argumentsFrom_reads inner taken first add rest
    exact ⟨_, taken', us, q, rfl, Or.inr list⟩

omit inner in
/-- A single argument that is no keyword and not starred is an expression. -/
theorem Phrase.expr_of_argument {ts : List Token} {x : Expr ⊕ Keyword} {a : Arguments} {e : Expr} (h : Phrase .argument ts x)
    (add : Arguments.add? ⟨.positional, [], []⟩ x = some a) (args : a.args = [e]) (keywords : a.keywords = [])
    (notStarred : isStarred e ≠ true) : Phrase (.expr .named) ts e := by
  cases h with
  | positional value =>
    cases add
    cases args
    exact value
  | starredArgument =>
    cases add
    cases args
    exact absurd rfl notStarred
  | keyword =>
    cases add
    cases keywords
  | mapping =>
    cases add
    cases keywords

theorem callArguments_reads : Reads (callArguments self) (Phrase .callArguments) := by
  intro s r s' run
  unfold callArguments at run
  simp only [↓here_bind_run, ↓punct_bind_eq_some, ↓acceptPunct_ite_eq_some, bind_eq_some, ↓atForClause_bind_run, ite_eq_some,
    pure_eq_some] at run
  obtain ⟨p, t, opened, ⟨q, t', closed, rfl, rfl⟩ | ⟨-, a, t', run, rest⟩⟩ := run
  · exact ⟨_, opened.cons closed, .noArguments p q⟩
  obtain ⟨ts, taken, x, first, add⟩ := argument_reads inner _ run
  rcases rest with ⟨for_, rest⟩ | ⟨-, rest⟩
  · change StateT.run _ t' = _ at rest
    split at rest <;> unfold StateT.run at rest
    · next e args keywords =>
      simp only [↓fail_bind_eq_some, ite_eq_some, bind_eq_some, ↓punct_bind_eq_some, ↓since_bind_run, pure_eq_some, and_false,
        false_or] at rest
      obtain ⟨notStarred, gs, t₂, run, q, t₃, closed, rfl, rfl⟩ := rest
      obtain ⟨us, taken', clauses, some_clause⟩ := some_forClauses inner for_ run
      have whole := opened.cons (taken.trans (taken'.trans closed))
      refine ⟨_, whole, ?_⟩
      rw [whole.span_eq (solid_cons rfl)]
      exact .generatorArgument p q (first.expr_of_argument add args keywords notStarred) clauses some_clause
    · cases rest
  · obtain ⟨us, q, taken', list⟩ := argumentsFrom_reads inner taken first add rest
    exact ⟨_, opened.cons taken', .arguments p q list⟩

/-! ### Subscripts -/

theorem sliceBound_reads : Reads (sliceBound self) (Phrase .bound) := by
  intro s e s' run
  unfold sliceBound at run
  rw [peek_bind_run] at run
  change StateT.run _ s = _ at run
  split at run <;> unfold StateT.run at run
  · obtain ⟨rfl, rfl⟩ := pure_eq_some.1 run
    exact ⟨[], .refl _, .noBound⟩
  · obtain ⟨rfl, rfl⟩ := pure_eq_some.1 run
    exact ⟨[], .refl _, .noBound⟩
  · obtain ⟨rfl, rfl⟩ := pure_eq_some.1 run
    exact ⟨[], .refl _, .noBound⟩
  · simp only [bind_eq_some, pure_eq_some] at run
    obtain ⟨e, t, run, rfl, rfl⟩ := run
    obtain ⟨ts, taken, bound⟩ := inner .expression run
    exact ⟨ts, taken, .bound bound⟩

/-- A slice behind its lower bound. -/
theorem sliceFrom_reads {s t s' : Input} {ts : List Token} {lower : Option Expr} {e : Expr} (taken : Takes s ts t)
    (first : Phrase .bound ts lower) (run : sliceFrom self s.start lower t = some (e, s')) :
    ∃ us, Takes s us s' ∧ Phrase (.element .index) us e := by
  unfold sliceFrom at run
  simp only [↓punct_bind_eq_some, bind_eq_some, ↓acceptPunct_ite_eq_some, ↓pure_bind_run, ↓since_bind_run, pure_eq_some] at run
  obtain ⟨p, t₁, taken₁, upper, t₂, run, rest⟩ := run
  obtain ⟨us, taken₂, second⟩ := sliceBound_reads inner run
  have finish : ∀ {vs step t₃}, Takes t₂ vs t₃ → Phrase .stride vs step →
      ∃ us, Takes s us t₃ ∧ Phrase (.element .index) us (.slice ⟨s.start, t₃.last⟩ lower upper step) := by
    intro vs step t₃ taken₃ third
    have whole := taken.trans (taken₁.cons (taken₂.trans taken₃))
    refine ⟨_, whole, ?_⟩
    rw [whole.span_eq (solid_cons rfl).right]
    exact .slice p first second third
  rcases rest with ⟨q, t₃, colon, step, t₄, run, rfl, rfl⟩ | ⟨-, rfl, rfl⟩
  · obtain ⟨vs, taken₄, bound⟩ := sliceBound_reads inner run
    exact finish (colon.cons taken₄) (.stride q bound)
  · exact finish (.refl _) .noStride

theorem sliceItem_reads : Reads (sliceItem self) (Phrase (.element .index)) := by
  intro s e s' run
  unfold sliceItem at run
  simp only [↓here_bind_run, ↓peek_bind_run, ↓peekSecond_bind_run] at run
  change StateT.run _ s = _ at run
  split at run <;> unfold StateT.run at run
  · exact sliceFrom_reads inner (.refl s) .noBound run
  · exact starred_reads (inner .expression) rfl run
  · obtain ⟨ts, taken, named⟩ := inner .named run
    exact ⟨ts, taken, .plain named⟩
  · simp only [bind_eq_some, ↓atPunct_bind_run, ite_eq_some, pure_eq_some] at run
    obtain ⟨e, t, run, ⟨-, rest⟩ | ⟨-, rfl, rfl⟩⟩ := run
    · obtain ⟨ts, taken, bound⟩ := inner .expression run
      exact sliceFrom_reads inner taken (.bound bound) rest
    · obtain ⟨ts, taken, index⟩ := inner .expression run
      exact ⟨ts, taken, .plain (.lift rfl index)⟩

theorem slices_reads : Reads (slices self) (Phrase .subscripts) := by
  intro s e s' run
  unfold slices at run
  simp only [↓here_bind_run, bind_eq_some, ↓atPunct_bind_run, ite_eq_some, ↓since_bind_run, pure_eq_some] at run
  obtain ⟨first, t, run, rest⟩ := run
  obtain ⟨ts, taken, element⟩ := sliceItem_reads inner run
  rcases rest with ⟨tuple, r, t', tail, rfl, rfl⟩ | ⟨single, rfl, rfl⟩
  · obtain ⟨us, comma, taken', series, all, none⟩ := commaTail_series (sliceItem_reads inner) taken element tail
    refine ⟨us, taken', ?_⟩
    rw [taken'.span_eq (series.solid rfl)]
    refine .indices series ?_
    by_cases at_comma : t.kind = .punct .comma
    · exact Or.inl (all at_comma)
    · have starred : isStarred first = true := by simpa [at_comma] using tuple
      refine Or.inr ?_
      rw [none at_comma]
      simpa using starred
  · simp only [Bool.or_eq_true, not_or, Bool.not_eq_true] at single
    exact ⟨ts, taken, .index element single.1⟩

/-! ### Operations -/

theorem primary_reads : Reads (primary self) (Phrase (.expr .primary)) := by
  intro s e s' run
  unfold primary at run
  rw [here_bind_run, bind_eq_some] at run
  obtain ⟨first, t, run, loop⟩ := run
  obtain ⟨ts, taken, atom⟩ := atom_reads inner run
  -- The tokens so far are a primary expression, and each round takes one trailer more.
  refine (loops_of_iterate loop).invariant (I := fun e t => ∃ ts, Takes s ts t ∧ Phrase (.expr .primary) ts e) ?_ ?_
    ⟨ts, taken, .lift rfl atom⟩
  · intro e t t' run so_far
    rw [peek_bind_run] at run
    change StateT.run _ t = _ at run
    split at run <;> unfold StateT.run at run
    · simp only [↓next_bind_eq_some, ↓name_bind_eq_some, ↓since_bind_run, pure_eq_some, reduceCtorEq, false_and, and_false,
        exists_false] at run
    · simp only [bind_eq_some, ↓since_bind_run, pure_eq_some, reduceCtorEq, false_and, and_false, exists_false] at run
    · simp only [↓next_bind_eq_some, bind_eq_some, ↓punct_bind_eq_some, ↓since_bind_run, pure_eq_some, reduceCtorEq, false_and,
        and_false, exists_false] at run
    · obtain ⟨-, rfl⟩ := pure_eq_some.1 run
      exact so_far
  · rintro e e' t t' run ⟨ts, taken, value⟩
    rw [peek_bind_run] at run
    change StateT.run _ t = _ at run
    split at run <;> unfold StateT.run at run
    · next kind =>
      simp only [↓next_bind_eq_some, ↓name_bind_eq_some, ↓since_bind_run, pure_eq_some, Option.some.injEq] at run
      obtain ⟨⟨k, p⟩, t₁, dot, w, q, t₂, attr, rfl, rfl⟩ := run
      obtain rfl : k = .punct .dot := dot.kind_eq.symm.trans kind
      have whole := taken.trans (dot.cons attr)
      refine ⟨_, whole, ?_⟩
      rw [whole.span_eq (solid_cons rfl).right]
      exact .member w p q value
    · simp only [bind_eq_some, ↓since_bind_run, pure_eq_some, Option.some.injEq] at run
      obtain ⟨as, t₁, run, rfl, rfl⟩ := run
      obtain ⟨us, taken', args⟩ := callArguments_reads inner run
      refine ⟨_, taken.trans taken', ?_⟩
      rw [(taken.trans taken').span_eq (value.solid rfl).left]
      exact .call value args
    · next kind =>
      simp only [↓next_bind_eq_some, bind_eq_some, ↓punct_bind_eq_some, ↓since_bind_run, pure_eq_some, Option.some.injEq] at run
      obtain ⟨⟨k, p⟩, t₁, opened, i, t₂, run, q, t₃, closed, rfl, rfl⟩ := run
      obtain rfl : k = .punct .leftBracket := opened.kind_eq.symm.trans kind
      obtain ⟨us, taken', index⟩ := slices_reads inner run
      have whole := taken.trans (opened.cons (taken'.trans closed))
      refine ⟨_, whole, ?_⟩
      rw [whole.span_eq (solid_cons rfl).right]
      exact .subscript p q value index
    · cases (pure_eq_some.1 run).1

theorem awaited_reads : Reads (awaited self) (Phrase (.expr .awaited)) := by
  intro s e s' run
  unfold awaited at run
  rw [atWord_bind_run, ite_eq_some] at run
  rcases run with ⟨-, run⟩ | ⟨-, run⟩
  · rw [spanned_eq_some] at run
    simp only [↓word_bind_eq_some, bind_eq_some, pure_eq_some] at run
    obtain ⟨_, ⟨p, t, taken, v, t', run, rfl, rfl⟩, rfl⟩ := run
    obtain ⟨ts, taken', value⟩ := primary_reads inner run
    refine ⟨_, taken.cons taken', ?_⟩
    rw [(taken.cons taken').span_eq (solid_cons rfl)]
    exact .await p value
  · obtain ⟨ts, taken, value⟩ := primary_reads inner run
    exact ⟨ts, taken, .lift rfl value⟩

theorem power_reads : Reads (power self) (Phrase (.expr .power)) := by
  intro s e s' run
  unfold power at run
  simp only [↓here_bind_run, bind_eq_some, ↓acceptPunct_ite_eq_some, ↓since_bind_run, pure_eq_some] at run
  obtain ⟨b, t, run, rest⟩ := run
  obtain ⟨ts, taken, base⟩ := awaited_reads inner run
  rcases rest with ⟨p, t₁, star, x, t₂, run, rfl, rfl⟩ | ⟨-, rfl, rfl⟩
  · obtain ⟨us, taken', exponent⟩ := inner .factor run
    have whole := taken.trans (star.cons taken')
    refine ⟨_, whole, ?_⟩
    rw [whole.span_eq (solid_cons rfl).right]
    exact .power p base exponent
  · exact ⟨ts, taken, .lift rfl base⟩

omit inner in
theorem isMark_of_signOp {k : TokenKind} {op : UnaryOp} (h : signOp? k = some op) : isMark k = false := by
  unfold signOp? at h
  split at h <;> first | rfl | cases h

theorem factor_reads : Reads (factor self) (Phrase (.expr .factor)) := by
  intro s e s' run
  unfold factor at run
  rw [peek_bind_run] at run
  change StateT.run _ s = _ at run
  split at run <;> unfold StateT.run at run
  · next op sign =>
    rw [spanned_eq_some] at run
    simp only [↓next_bind_eq_some, bind_eq_some, pure_eq_some] at run
    obtain ⟨_, ⟨⟨k, p⟩, t, taken, v, t', run, rfl, rfl⟩, rfl⟩ := run
    rw [taken.kind_eq] at sign
    obtain ⟨ts, taken', operand⟩ := inner .factor run
    refine ⟨_, taken.cons taken', ?_⟩
    rw [(taken.cons taken').span_eq (solid_cons (isMark_of_signOp sign))]
    exact .sign p sign operand
  · obtain ⟨ts, taken, value⟩ := power_reads inner run
    exact ⟨ts, taken, .lift rfl value⟩

omit inner in
theorem leftAssoc_reads {l m : Level} {operand : Parse Expr} (below : l.below = some m) (h : Reads operand (Phrase (.expr m))) :
    Reads (leftAssoc l.op? operand) (Phrase (.expr l)) := by
  intro s e s' run
  unfold leftAssoc at run
  rw [here_bind_run, bind_eq_some] at run
  obtain ⟨first, t, run, loop⟩ := run
  obtain ⟨ts, taken, value⟩ := h run
  refine (loops_of_iterate loop).invariant (I := fun e t => ∃ ts, Takes s ts t ∧ Phrase (.expr l) ts e) ?_ ?_
    ⟨ts, taken, .lift below value⟩
  · intro e t t' run so_far
    rw [peek_bind_run] at run
    change StateT.run _ t = _ at run
    split at run <;> unfold StateT.run at run
    · obtain ⟨-, rfl⟩ := pure_eq_some.1 run
      exact so_far
    · simp only [↓next_bind_eq_some, bind_eq_some, ↓since_bind_run, pure_eq_some, reduceCtorEq, false_and, and_false,
        exists_false] at run
  · rintro e e' t t' run ⟨ts, taken, left⟩
    rw [peek_bind_run] at run
    change StateT.run _ t = _ at run
    split at run <;> unfold StateT.run at run
    · cases (pure_eq_some.1 run).1
    · next op operator =>
      simp only [↓next_bind_eq_some, bind_eq_some, ↓since_bind_run, pure_eq_some, Option.some.injEq] at run
      obtain ⟨⟨k, p⟩, t₁, taken₁, b, t₂, run, rfl, rfl⟩ := run
      rw [taken₁.kind_eq] at operator
      obtain ⟨us, taken₂, right⟩ := h run
      have whole := taken.trans (taken₁.cons taken₂)
      refine ⟨_, whole, ?_⟩
      rw [whole.span_eq (left.solid rfl).left]
      exact .binary p operator below left right

theorem bitwiseOr_reads : Reads (bitwiseOr self) (Phrase (.expr .bitOr)) := by
  have term := leftAssoc_reads (l := .term) rfl (factor_reads inner)
  have sum := leftAssoc_reads (l := .sum) rfl term
  have shift := leftAssoc_reads (l := .shift) rfl sum
  have bitAnd := leftAssoc_reads (l := .bitAnd) rfl shift
  have bitXor := leftAssoc_reads (l := .bitXor) rfl bitAnd
  exact leftAssoc_reads (l := .bitOr) rfl bitXor

omit inner in
theorem compareOp_reads : Reads compareOp (ItemOf Comparator) := by
  intro s o s' run
  unfold compareOp at run
  rw [peek_bind_run] at run
  have single {op : CompareOp} (kind : compareOp? s.kind = some op)
      (run : (do let _ ← next; return some op : Parse (Option CompareOp)) s = some (o, s')) :
      ∃ ts, Takes s ts s' ∧ ItemOf Comparator ts o := by
    simp only [↓next_bind_eq_some, pure_eq_some] at run
    obtain ⟨⟨k, p⟩, t, taken, rfl, rfl⟩ := run
    rw [taken.kind_eq] at kind
    exact ⟨_, taken, .single p kind⟩
  change StateT.run _ s = _ at run
  split at run <;> unfold StateT.run at run
  iterate 7
    · next kind => exact single (by rw [kind]; rfl) run
  · next kind =>
    simp only [↓next_bind_eq_some, ↓acceptWord_ite_eq_some, pure_eq_some] at run
    obtain ⟨⟨k, p⟩, t, taken, ⟨q, t', taken', rfl, rfl⟩ | ⟨-, rfl, rfl⟩⟩ := run
    · obtain rfl : k = .word .kIs := taken.kind_eq.symm.trans kind
      exact ⟨_, taken.cons taken', .isNot p q⟩
    · obtain rfl : k = .word .kIs := taken.kind_eq.symm.trans kind
      exact ⟨_, taken, .single p rfl⟩
  · next kind =>
    simp only [↓peekSecond_bind_run, ite_eq_some, ↓next_bind_eq_some, pure_eq_some, beq_iff_eq] at run
    rcases run with ⟨second, ⟨k, p⟩, t, taken, ⟨k', q⟩, t', taken', rfl, rfl⟩ | ⟨-, rfl, rfl⟩
    · obtain rfl : k = .word .kNot := taken.kind_eq.symm.trans kind
      obtain rfl : k' = .word .kIn := (taken.cons taken').second_eq.symm.trans second
      exact ⟨_, taken.cons taken', .notIn p q⟩
    · exact ⟨[], .refl _, rfl⟩
  · obtain ⟨rfl, rfl⟩ := pure_eq_some.1 run
    exact ⟨[], .refl _, rfl⟩

theorem links_reads :
    Reads (many (do
      match ← compareOp with
      | none => return none
      | some op => return some (op, ← bitwiseOr self))) (Phrase .links) := by
  refine many_reads (P := fun ts l => ∃ os us, ts = os ++ us ∧ Comparator os l.1 ∧ Phrase (.expr .bitOr) us l.2) ?_ .noLink ?_
  · intro s o s' run
    obtain ⟨op?, t, found, rest⟩ := bind_eq_some.1 run
    obtain ⟨os, taken, operator⟩ := compareOp_reads found
    cases op? with
    | none =>
      obtain rfl : os = [] := operator
      obtain ⟨rfl, rfl⟩ := pure_eq_some.1 rest
      exact ⟨[], taken, rfl⟩
    | some op =>
      simp only [bind_eq_some, pure_eq_some] at rest
      obtain ⟨e, t', run', rfl, rfl⟩ := rest
      obtain ⟨ts, taken', operand⟩ := bitwiseOr_reads inner run'
      exact ⟨_, taken.trans taken', os, ts, rfl, operator, operand⟩
  · rintro _ us ⟨op, e⟩ ls ⟨os, ts, rfl, operator, operand⟩ rest
    rw [List.append_assoc]
    exact .link operator operand rest

theorem comparison_reads : Reads (comparison self) (Phrase (.expr .comparison)) := by
  intro s e s' run
  unfold comparison at run
  rw [here_bind_run] at run
  obtain ⟨left, t, run, rest⟩ := bind_eq_some.1 run
  obtain ⟨ls, t', run', rest⟩ := bind_eq_some.1 rest
  obtain ⟨ts, taken, value⟩ := bitwiseOr_reads inner run
  obtain ⟨us, taken', links⟩ := links_reads inner run'
  simp only [ite_eq_some, ↓since_bind_run, pure_eq_some, List.isEmpty_iff] at rest
  rcases rest with ⟨rfl, rfl, rfl⟩ | ⟨some_link, rfl, rfl⟩
  · cases links
    obtain rfl := takes_nil.1 taken'
    exact ⟨ts, taken, .lift rfl value⟩
  · refine ⟨_, taken.trans taken', ?_⟩
    rw [(taken.trans taken').span_eq (value.solid rfl).left]
    exact .compare value links some_link

theorem inversion_reads : Reads (inversion self) (Phrase (.expr .inversion)) := by
  intro s e s' run
  unfold inversion at run
  rw [atWord_bind_run, ite_eq_some] at run
  rcases run with ⟨-, run⟩ | ⟨-, run⟩
  · rw [spanned_eq_some] at run
    simp only [↓word_bind_eq_some, bind_eq_some, pure_eq_some] at run
    obtain ⟨_, ⟨p, t, taken, v, t', run, rfl, rfl⟩, rfl⟩ := run
    obtain ⟨ts, taken', operand⟩ := inner .inversion run
    refine ⟨_, taken.cons taken', ?_⟩
    rw [(taken.cons taken').span_eq (solid_cons rfl)]
    exact .negation p operand
  · obtain ⟨ts, taken, value⟩ := comparison_reads inner run
    exact ⟨ts, taken, .lift rfl value⟩

omit inner in
theorem connected_reads {l m : Level} {w : Reserved} {op : BoolOp} {operand : Parse Expr}
    (connective : l.connective? = some (w, op)) (below : l.below = some m) (h : Reads operand (Phrase (.expr m))) :
    Reads (connected w op operand) (Phrase (.expr l)) := by
  have operands : Reads (many (do if ← acceptWord w then return some (← operand) else return none)) (Phrase (.operands w m)) := by
    refine many_reads (P := fun ts e => ∃ p us, ts = ⟨.word w, p⟩ :: us ∧ Phrase (.expr m) us e) ?_ .noOperand ?_
    · intro s o s' run
      simp only [↓acceptWord_ite_eq_some, bind_eq_some, pure_eq_some] at run
      rcases run with ⟨p, t, taken, e, t', run, rfl, rfl⟩ | ⟨-, rfl, rfl⟩
      · obtain ⟨ts, taken', value⟩ := h run
        exact ⟨_, taken.cons taken', p, ts, rfl, value⟩
      · exact ⟨[], .refl _, rfl⟩
    · rintro _ us e es ⟨p, ts, rfl, value⟩ rest
      exact .operand p value rest
  intro s e s' run
  unfold connected at run
  rw [here_bind_run] at run
  obtain ⟨first, t, run, rest⟩ := bind_eq_some.1 run
  obtain ⟨es, t', run', rest⟩ := bind_eq_some.1 rest
  obtain ⟨ts, taken, value⟩ := h run
  obtain ⟨us, taken', others⟩ := operands run'
  simp only [ite_eq_some, ↓since_bind_run, pure_eq_some, List.isEmpty_iff] at rest
  rcases rest with ⟨rfl, rfl, rfl⟩ | ⟨some_operand, rfl, rfl⟩
  · cases others
    obtain rfl := takes_nil.1 taken'
    exact ⟨ts, taken, .lift below value⟩
  · refine ⟨_, taken.trans taken', ?_⟩
    rw [(taken.trans taken').span_eq (value.solid rfl).left]
    exact .connected connective below value others some_operand

theorem disjunction_reads : Reads (disjunction self) (Phrase (.expr .disjunction)) :=
  connected_reads rfl rfl (connected_reads (l := .conjunction) rfl rfl (inversion_reads inner))

/-! ### Parameters -/

/-- What follows the name of a parameter; without types nothing does. -/
def AnnotOf (typed starred : Bool) (ts : List Token) (a : Option Expr) : Prop :=
  Phrase (.annot starred) ts a ∧ (typed = false → a = none)

omit inner in
theorem param_reads {annot : Parse (Option Expr)} {typed starred : Bool} (h : Reads annot (AnnotOf typed starred)) :
    Reads (param annot) (Phrase (.param typed starred)) := by
  intro s n s' run
  rw [param, spanned_eq_some] at run
  simp only [↓name_bind_eq_some, bind_eq_some, pure_eq_some] at run
  obtain ⟨_, ⟨w, p, t, taken, a, t', run, rfl, rfl⟩, rfl⟩ := run
  obtain ⟨ts, taken', phrase, untyped⟩ := h run
  refine ⟨_, taken.cons taken', ?_⟩
  rw [(taken.cons taken').span_eq (solid_cons rfl)]
  exact .param w p phrase untyped

section Params

variable {annot starAnnot : Parse (Option Expr)} {default : Parse Expr} {typed : Bool}

omit inner in
theorem paramItem_reads (ha : Reads annot (AnnotOf typed false)) (hs : Reads starAnnot (AnnotOf typed true))
    (hd : Reads default (Phrase (.expr .expression))) :
    Reads (paramItem annot starAnnot default) (Phrase (.paramItem typed)) := by
  intro s i s' run
  unfold paramItem at run
  rw [peek_bind_run] at run
  change StateT.run _ s = _ at run
  split at run <;> unfold StateT.run at run
  · next kind =>
    simp only [↓next_bind_eq_some, pure_eq_some] at run
    obtain ⟨⟨k, p⟩, t, taken, rfl, rfl⟩ := run
    obtain rfl : k = .punct .slash := taken.kind_eq.symm.trans kind
    exact ⟨_, taken, .slashItem p⟩
  · next kind =>
    simp only [↓next_bind_eq_some, ↓atPunct_bind_run, ite_eq_some, bind_eq_some, pure_eq_some] at run
    obtain ⟨⟨k, p⟩, t, taken, rest⟩ := run
    obtain rfl : k = .punct .star := taken.kind_eq.symm.trans kind
    rcases rest with ⟨-, rfl, rfl⟩ | ⟨-, n, t', run, rfl, rfl⟩
    · exact ⟨_, taken, .starItem p⟩
    · obtain ⟨ts, taken', param⟩ := param_reads hs run
      exact ⟨_, taken.cons taken', .starredItem p param⟩
  · next kind =>
    simp only [↓next_bind_eq_some, bind_eq_some, pure_eq_some] at run
    obtain ⟨⟨k, p⟩, t, taken, n, t', run, rfl, rfl⟩ := run
    obtain rfl : k = .punct .doubleStar := taken.kind_eq.symm.trans kind
    obtain ⟨ts, taken', param⟩ := param_reads ha run
    exact ⟨_, taken.cons taken', .doubleStarredItem p param⟩
  · simp only [bind_eq_some, ↓acceptPunct_ite_eq_some, pure_eq_some] at run
    obtain ⟨n, t, run, rest⟩ := run
    obtain ⟨ts, taken, param⟩ := param_reads ha run
    rcases rest with ⟨p, t₁, equal, e, t₂, run, rfl, rfl⟩ | ⟨-, rfl, rfl⟩
    · obtain ⟨us, taken', value⟩ := hd run
      exact ⟨_, taken.trans (equal.cons taken'), .defaultItem p param value⟩
    · exact ⟨ts, taken, .plainItem param⟩

omit inner in
theorem params_reads (ha : Reads annot (AnnotOf typed false)) (hs : Reads starAnnot (AnnotOf typed true))
    (hd : Reads default (Phrase (.expr .expression))) (closing : Punct) :
    Reads (params annot starAnnot default closing) (Phrase (.params typed)) := by
  intro s ps s' run
  unfold params at run
  rw [atPunct_bind_run, ite_eq_some] at run
  rcases run with ⟨-, run⟩ | ⟨-, run⟩
  · obtain ⟨rfl, rfl⟩ := pure_eq_some.1 run
    exact ⟨[], .refl _, .noParams⟩
  obtain ⟨i, t, run₁, run⟩ := bind_eq_some.1 run
  obtain ⟨⟨is, b⟩, t', run₂, run⟩ := bind_eq_some.1 run
  have item := paramItem_reads ha hs hd
  obtain ⟨ts, taken, first⟩ := item run₁
  obtain ⟨us, cs, taken', rest, comma, -⟩ :=
    commaTail_reads (L := Phrase (.paramItems typed)) item .noItem (fun first rest => .furtherItem _ first rest) run₂
  cases assembled : assembleParams (i :: is) with
  | none =>
    simp only [assembled] at run
    cases run
  | some ps' =>
    simp only [assembled] at run
    obtain ⟨rfl, rfl⟩ := pure_eq_some.1 run
    exact ⟨_, taken.trans taken', .params first rest comma assembled⟩

end Params

omit inner in
/-- Nothing behind the names of parameters. -/
theorem pure_none_reads (starred : Bool) : Reads (pure none) (AnnotOf false starred) := by
  intro s a s' run
  obtain ⟨rfl, rfl⟩ := pure_eq_some.1 run
  exact ⟨[], .refl _, .noAnnot, fun _ => rfl⟩

/-! ### Expressions -/

theorem lambda_reads : Reads (lambda self) (Phrase (.expr .expression)) := by
  intro s e s' run
  rw [lambda, spanned_eq_some] at run
  simp only [↓word_bind_eq_some, bind_eq_some, ↓punct_bind_eq_some, pure_eq_some] at run
  obtain ⟨_, ⟨p, t, taken, ps, t₁, run₁, q, t₂, colon, b, t₃, run₂, rfl, rfl⟩, rfl⟩ := run
  obtain ⟨ts, taken₁, parameters⟩ := params_reads (pure_none_reads false) (pure_none_reads true) (inner .expression) .colon run₁
  obtain ⟨us, taken₂, body⟩ := inner .expression run₂
  have whole := taken.cons (taken₁.trans (colon.cons taken₂))
  refine ⟨_, whole, ?_⟩
  rw [whole.span_eq (solid_cons rfl)]
  exact .lambda p q parameters body

theorem expression_reads : Reads (expression self) (Phrase (.expr .expression)) := by
  intro s e s' run
  unfold expression at run
  simp only [↓atWord_bind_run, ↓here_bind_run, ite_eq_some, bind_eq_some, ↓acceptWord_ite_eq_some, ↓word_bind_eq_some,
    ↓since_bind_run, pure_eq_some] at run
  rcases run with ⟨-, run⟩ | ⟨-, b, t, run, rest⟩
  · exact lambda_reads inner run
  obtain ⟨ts, taken, body⟩ := disjunction_reads inner run
  rcases rest with ⟨p, t₁, taken₁, c, t₂, run₂, q, t₃, taken₃, o, t₄, run₄, rfl, rfl⟩ | ⟨-, rfl, rfl⟩
  · obtain ⟨us, taken₂, test⟩ := inner .disjunction run₂
    obtain ⟨vs, taken₄, orelse⟩ := inner .expression run₄
    have whole := taken.trans (taken₁.cons (taken₂.trans (taken₃.cons taken₄)))
    refine ⟨_, whole, ?_⟩
    rw [whole.span_eq (solid_cons rfl).right]
    exact .conditional p q body test orelse
  · exact ⟨ts, taken, .lift rfl body⟩

theorem namedExpression_reads : Reads (namedExpression self) (Phrase (.expr .named)) := by
  intro s e s' run
  unfold namedExpression at run
  simp only [↓peek_bind_run, ↓peekSecond_bind_run] at run
  change StateT.run _ s = _ at run
  split at run <;> unfold StateT.run at run
  · rw [spanned_eq_some] at run
    simp only [bind_eq_some, ↓punct_bind_eq_some, asTarget_eq_some, pure_eq_some] at run
    obtain ⟨_, ⟨n, t, run, q, t₁, equal, v, t₂, run', target, _, ⟨assigned, rfl⟩, rfl, rfl⟩, rfl⟩ := run
    obtain ⟨_, taken, w, p, rfl, rfl⟩ := nameExpr_reads run
    cases assigned
    obtain ⟨ts, taken', value⟩ := inner .expression run'
    have whole := taken.cons (equal.cons taken')
    refine ⟨_, whole, ?_⟩
    rw [whole.span_eq (solid_cons rfl)]
    exact .assigned w p q value
  · simp only [bind_eq_some, ↓atPunct_bind_run, ite_eq_some, ↓fail_bind_eq_some, pure_eq_some, and_false, false_or] at run
    obtain ⟨e, t, run, -, rfl, rfl⟩ := run
    obtain ⟨ts, taken, value⟩ := expression_reads inner run
    exact ⟨ts, taken, .lift rfl value⟩

theorem starExpressions_reads : Reads (starExpressions self) (Phrase (.tupled .expression)) :=
  tupleOr_reads (element_reads (inner .bitwiseOr) rfl (expression_reads inner))

theorem ruleOver_reads (r : Rule) : Reads (ruleOver self r) r.Phrases := by
  cases r with
  | expression => exact expression_reads inner
  | named => exact namedExpression_reads inner
  | starExpressions => exact starExpressions_reads inner
  | disjunction => exact disjunction_reads inner
  | inversion => exact inversion_reads inner
  | bitwiseOr => exact bitwiseOr_reads inner
  | factor => exact factor_reads inner

end Inner

end Rules

/-- Every rule reads its phrases, however deep it may go. -/
theorem exprRule_reads (fuel : Nat) (r : Rule) : Reads (exprRule fuel r) r.Phrases := by
  induction fuel generalizing r with
  | zero =>
    intro s e s' run
    cases run
  | succ fuel ih => exact ruleOver_reads ih r

end CallLint.Source

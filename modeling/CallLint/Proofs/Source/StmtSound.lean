import CallLint.Proofs.Source.StmtPhrase
import CallLint.Source.Program

/-!
# What the rules of statements read

Each rule of the grammar of statements takes the tokens of a phrase and gives what it stands for, if the readers of expressions,
patterns and blocks do. So does a whole module (`moduleRule_reads`).
-/

namespace CallLint.Source

open Parse Grammar

section Lists

variable {α : Type} {P : List Token → α → Prop}

theorem commaSeparated_listed {item : Parse α} (h : Reads item P) :
    Reads (commaSeparated item) (Listed (.punct .comma) P) := by
  intro s as s' run
  obtain ⟨a, rest, ts, us, rfl, taken, first, further⟩ :=
    commaSeparated_reads (L := Each (.punct .comma) P) h .nil (fun first rest => .cons _ first rest) run
  exact ⟨_, taken, .mk first further⟩

/-- Items, each behind a token that shows that there is one more. -/
theorem many_each {item : Parse α} {k : TokenKind} (h : Reads item P) :
    Reads (many (do if ← accept k then return some (← item) else return none)) (Each k P) := by
  refine many_reads (P := fun ts a => ∃ p us, ts = ⟨k, p⟩ :: us ∧ P us a) ?_ .nil ?_
  · intro s o s' run
    simp only [↓accept_ite_eq_some, bind_eq_some, pure_eq_some] at run
    rcases run with ⟨p, t, taken, a, t', run, rfl, rfl⟩ | ⟨-, rfl, rfl⟩
    · obtain ⟨ts, taken', item⟩ := h run
      exact ⟨_, taken.cons taken', p, ts, rfl, item⟩
    · exact ⟨[], .refl _, rfl⟩
  · rintro _ us a as ⟨p, ts, rfl, item⟩ rest
    exact .cons p item rest

/-- An item behind a token, if the token is there. -/
theorem behind_reads {item : Parse α} {k : TokenKind} (h : Reads item P) :
    Reads (do if ← accept k then return some (← item) else return none) (Behind k P) := by
  intro s o s' run
  simp only [↓accept_ite_eq_some, bind_eq_some, pure_eq_some] at run
  rcases run with ⟨p, t, taken, a, t', run, rfl, rfl⟩ | ⟨-, rfl, rfl⟩
  · obtain ⟨ts, taken', item⟩ := h run
    exact ⟨_, taken.cons taken', .some p item⟩
  · exact ⟨[], .refl _, .none⟩

end Lists

/-! ### Names and imports -/

theorem name_reads : Reads name NamePhrase := by
  intro s n s' run
  obtain ⟨w, p, taken, rfl⟩ := name_eq_some.1 run
  exact ⟨_, taken, .mk w p⟩

theorem asName_reads : Reads asName (Behind (.word .kAs) NamePhrase) := behind_reads name_reads

theorem moduleName_reads : Reads moduleName ModuleName := by
  intro s n s' run
  unfold moduleName at run
  simp only [bind_eq_some, pure_eq_some] at run
  obtain ⟨first, t, run₁, rest, t', run₂, rfl, rfl⟩ := run
  obtain ⟨ts, taken, name⟩ := name_reads run₁
  obtain ⟨us, taken', names⟩ := many_each name_reads run₂
  exact ⟨_, taken.trans taken', .mk (.mk name names)⟩

theorem NamePhrase.solid {ts : List Token} {n : Text} (h : NamePhrase ts n) : Solid ts := by
  cases h
  exact solid_cons rfl

theorem ModuleName.solid {ts : List Token} {n : Text} (h : ModuleName ts n) : Solid ts := by
  obtain ⟨⟨first, -⟩⟩ := h
  exact first.solid.left

theorem importAlias_reads {imported : Parse Text} {P : List Token → Text → Prop} (h : Reads imported P)
    (solid : ∀ {ts n}, P ts n → Solid ts) : Reads (importAlias imported) (AliasPhrase P) := by
  intro s a s' run
  rw [importAlias, spanned_eq_some] at run
  simp only [bind_eq_some, pure_eq_some] at run
  obtain ⟨_, ⟨n, t, run₁, a, t', run₂, rfl, rfl⟩, rfl⟩ := run
  obtain ⟨ts, taken, name⟩ := h run₁
  obtain ⟨us, taken', asname⟩ := asName_reads run₂
  refine ⟨_, taken.trans taken', ?_⟩
  rw [(taken.trans taken').span_eq (solid name).left]
  exact .mk name asname

theorem importStmt_reads : Reads importStmt SimplePhrase := by
  intro s x s' run
  rw [importStmt, spanned_eq_some] at run
  simp only [↓word_bind_eq_some, bind_eq_some, pure_eq_some] at run
  obtain ⟨_, ⟨p, t, taken, ns, t', run, rfl, rfl⟩, rfl⟩ := run
  obtain ⟨ts, taken', names⟩ := commaSeparated_listed (importAlias_reads moduleName_reads ModuleName.solid) run
  refine ⟨_, taken.cons taken', ?_⟩
  rw [(taken.cons taken').span_eq (solid_cons rfl)]
  exact .importModules p names

theorem importLevel_reads : Reads importLevel ImportLevel := by
  intro s n s' run
  unfold importLevel at run
  simp only [bind_eq_some, pure_eq_some] at run
  obtain ⟨dots, t, run, rfl, rfl⟩ := run
  refine many_reads (P := fun ts n => ∃ p, (ts = [⟨.punct .dot, p⟩] ∧ n = 1) ∨ (ts = [⟨.punct .ellipsis, p⟩] ∧ n = 3))
    (L := fun ts dots => ImportLevel ts (dots.foldr (· + ·) 0)) ?_ .none ?_ run
  · intro s o s' run
    simp only [↓acceptPunct_ite_eq_some, pure_eq_some] at run
    rcases run with ⟨p, t, taken, rfl, rfl⟩ | ⟨-, ⟨p, t, taken, rfl, rfl⟩ | ⟨-, rfl, rfl⟩⟩
    · exact ⟨_, taken, p, Or.inl ⟨rfl, rfl⟩⟩
    · exact ⟨_, taken, p, Or.inr ⟨rfl, rfl⟩⟩
    · exact ⟨[], .refl _, rfl⟩
  · rintro _ us _ ns ⟨p, ⟨rfl, rfl⟩ | ⟨rfl, rfl⟩⟩ rest
    · exact .dot p rest
    · exact .ellipsis p rest

theorem importedNames_reads : Reads importedNames ImportedNames := by
  intro s ns s' run
  have alias_reads := importAlias_reads name_reads NamePhrase.solid
  unfold importedNames at run
  simp only [↓atPunct_bind_run, ↓here_bind_run, ite_eq_some, ↓punct_bind_eq_some, ↓since_bind_run, ↓acceptPunct_ite_eq_some,
    bind_eq_some, ↓fail_bind_eq_some, pure_eq_some, and_false, false_or] at run
  rcases run with ⟨-, p, t, taken, rfl, rfl⟩ |
    ⟨-, ⟨p, t, opened, ns, t₁, run, b, t₂, accepted, q, t₃, closed, rfl, rfl⟩ | ⟨-, ns, t, run, -, rfl, rfl⟩⟩
  · refine ⟨_, taken, ?_⟩
    rw [taken.span_eq (solid_cons rfl)]
    exact .star p
  · obtain ⟨ts, taken, names⟩ := commaSeparated_listed alias_reads run
    obtain ⟨cs, taken', comma⟩ := trailing_reads accepted
    exact ⟨_, opened.cons (taken.trans (taken'.trans closed)), .parens p q names comma⟩
  · obtain ⟨ts, taken, names⟩ := commaSeparated_listed alias_reads run
    exact ⟨ts, taken, .plain names⟩

theorem importFromStmt_reads : Reads importFromStmt SimplePhrase := by
  intro s x s' run
  rw [importFromStmt, spanned_eq_some] at run
  simp only [↓word_bind_eq_some, bind_eq_some, ↓atWord_bind_run, ite_eq_some, ↓pure_bind_run, pure_eq_some] at run
  obtain ⟨_, ⟨p, t, taken, l, t₁, run₁, rest⟩, rfl⟩ := run
  obtain ⟨ls, taken₁, level⟩ := importLevel_reads run₁
  rcases rest with ⟨relative, q, t₂, word, ns, t₃, run, rfl, rfl⟩ |
    ⟨-, m, t₂, run₂, q, t₃, word, ns, t₄, run, rfl, rfl⟩
  · obtain ⟨ts, taken₂, names⟩ := importedNames_reads run
    have whole := taken.cons (taken₁.trans (word.cons taken₂))
    refine ⟨_, whole, ?_⟩
    rw [whole.span_eq (solid_cons rfl)]
    refine .importRelative p q level ?_ names
    rintro rfl
    cases relative
  · obtain ⟨ms, taken₂, source⟩ := moduleName_reads run₂
    obtain ⟨ts, taken₃, names⟩ := importedNames_reads run
    have whole := taken.cons (taken₁.trans (taken₂.trans (word.cons taken₃)))
    refine ⟨_, whole, ?_⟩
    rw [whole.span_eq (solid_cons rfl)]
    exact .importFrom p q level source names

theorem wordStmt_reads {w : Reserved} {f : Span → Stmt} (h : wordStmt? w = some f) : Reads (wordStmt w f) SimplePhrase := by
  intro s x s' run
  rw [wordStmt, spanned_eq_some] at run
  simp only [↓word_bind_eq_some, pure_eq_some] at run
  obtain ⟨_, ⟨p, t, taken, rfl, rfl⟩, rfl⟩ := run
  refine ⟨_, taken, ?_⟩
  rw [taken.span_eq (solid_cons rfl)]
  exact .word p h

theorem declaration_reads {w : Reserved} {f : Span → List Text → Stmt} (h : declaration? w = some f) :
    Reads (spanned do
      word w
      let names ← commaSeparated name
      return fun span => f span names) SimplePhrase := by
  intro s x s' run
  rw [spanned_eq_some] at run
  simp only [↓word_bind_eq_some, bind_eq_some, pure_eq_some] at run
  obtain ⟨_, ⟨p, t, taken, ns, t', run, rfl, rfl⟩, rfl⟩ := run
  obtain ⟨ts, taken', names⟩ := commaSeparated_listed name_reads run
  refine ⟨_, taken.cons taken', ?_⟩
  rw [(taken.cons taken').span_eq (solid_cons rfl)]
  exact .declaration p h names

/-! ### Simple statements -/

section Simple

variable {expr : Rule → Parse Expr} (inner : ∀ r, Reads (expr r) r.Phrases)

theorem AssignedPhrase.solid {ts : List Token} {e : Expr} (h : AssignedPhrase ts e) : Solid ts := by
  cases h with
  | yielding h => exact h.solid rfl
  | expressions h => exact h.solid rfl

/-- What can be assigned to is no `yield` expression. -/
theorem AssignedPhrase.expressions_of_target {ts : List Token} {e t : Expr} (h : AssignedPhrase ts e)
    (target : e.toTarget? .store = some t) : Phrase (.tupled .expression) ts e := by
  cases h with
  | yielding h => cases h <;> cases target
  | expressions h => exact h

theorem TargetsPhrase.snoc {ts us : List Token} {targets : List Expr} {e t : Expr} (h : TargetsPhrase ts targets) (p : Span)
    (last : Phrase (.tupled .expression) us e) (target : e.toTarget? .store = some t) :
    TargetsPhrase (ts ++ (us ++ [⟨.punct .equal, p⟩])) (targets ++ [t]) := by
  induction h with
  | nil => exact .cons p last target .nil
  | cons q first h _ ih => simpa using TargetsPhrase.cons q first h ih

include inner

theorem assignedValue_reads : Reads (assignedValue expr) AssignedPhrase := by
  intro s e s' run
  unfold assignedValue at run
  rw [atWord_bind_run, ite_eq_some] at run
  rcases run with ⟨-, run⟩ | ⟨-, run⟩
  · obtain ⟨ts, taken, h⟩ := yieldExpr_reads inner run
    exact ⟨ts, taken, .yielding h⟩
  · obtain ⟨ts, taken, h⟩ := inner .starExpressions run
    exact ⟨ts, taken, .expressions h⟩

/-- An annotated assignment behind its target. -/
theorem annotatedFrom_reads {s t s' : Input} {ts : List Token} {e : Expr} {x : Stmt} (taken : Takes s ts t)
    (target : Phrase (.tupled .expression) ts e)
    (run : annotatedFrom expr s.start (s.second == .punct .colon) e t = some (x, s')) :
    ∃ us, Takes s us s' ∧ SimplePhrase us x := by
  unfold annotatedFrom at run
  simp only [↓punct_bind_eq_some, bind_eq_some, ↓acceptPunct_ite_eq_some, ↓pure_bind_run] at run
  obtain ⟨p, t₁, taken₁, a, t₂, run₁, rest⟩ := run
  obtain ⟨us, taken₂, annot⟩ := inner .expression run₁
  have simple : (s.second == .punct .colon) = colonSecond (ts ++ [⟨.punct .colon, p⟩]) := by
    have tokens := (taken.trans taken₁).tokens
    unfold Input.second colonSecond
    rw [tokens]
    obtain ⟨t, us, rfl, -⟩ := target.exists_first rfl
    cases us <;> rfl
  cases single : e.toSingleTarget? with
  | none =>
    rw [single] at rest
    rcases rest with ⟨_, _, -, _, _, -, rest⟩ | ⟨-, rest⟩ <;> cases rest
  | some single' =>
    rw [single] at rest
    simp only [↓since_bind_run, pure_eq_some] at rest
    have finish : ∀ {vs v t₃}, Takes t₂ vs t₃ → Behind (.punct .equal) AssignedPhrase vs v →
        ∃ us, Takes s us t₃ ∧ SimplePhrase us (.annAssign ⟨s.start, t₃.last⟩ single' a v (s.second == .punct .colon)) := by
      intro vs v t₃ taken₃ value
      have whole := taken.trans (taken₁.cons (taken₂.trans taken₃))
      refine ⟨_, whole, ?_⟩
      rw [whole.span_eq (solid_cons rfl).right, simple]
      exact .annotated p target single annot value
    rcases rest with ⟨q, t₃, equal, v, t₄, run, rfl, rfl⟩ | ⟨-, rfl, rfl⟩
    · obtain ⟨vs, taken₄, value⟩ := assignedValue_reads inner run
      exact finish (equal.cons taken₄) (.some q value)
    · exact finish (.refl _) .none

/-- A chain of assignments behind its first target. -/
theorem assignedFrom_reads {s t s' : Input} {ts : List Token} {e : Expr} {x : Stmt} (taken : Takes s ts t)
    (first : Phrase (.tupled .expression) ts e) (run : assignedFrom expr s.start e t = some (x, s')) :
    ∃ us, Takes s us s' ∧ SimplePhrase us x := by
  unfold assignedFrom at run
  rw [bind_eq_some] at run
  obtain ⟨⟨targets, value⟩, t₁, loop, rest⟩ := run
  obtain ⟨ts, us, taken, phrase, assigned⟩ : ∃ ts us, Takes s (ts ++ us) t₁ ∧ TargetsPhrase ts targets.reverse ∧
      AssignedPhrase us value := by
    refine (loops_of_iterate loop).invariant
      (I := fun a t => ∃ ts us, Takes s (ts ++ us) t ∧ TargetsPhrase ts a.1.reverse ∧ AssignedPhrase us a.2) ?_ ?_
      ⟨[], ts, taken, .nil, .expressions first⟩
    · intro a t t' run so_far
      simp only [↓acceptPunct_ite_eq_some, bind_eq_some, asTarget_eq_some, pure_eq_some, reduceCtorEq, false_and, and_false,
        exists_false, false_or, true_and] at run
      obtain ⟨-, rfl⟩ := run
      exact so_far
    · rintro ⟨targets, value⟩ b t t' run ⟨ts, us, taken, phrase, assigned⟩
      simp only [↓acceptPunct_ite_eq_some, bind_eq_some, asTarget_eq_some, pure_eq_some, Option.some.injEq, reduceCtorEq, false_and,
        and_false, or_false] at run
      obtain ⟨p, t₁, equal, target, _, ⟨h, rfl⟩, v, t₂, run, rfl, rfl⟩ := run
      obtain ⟨vs, taken', value⟩ := assignedValue_reads inner run
      refine ⟨ts ++ (us ++ [⟨.punct .equal, p⟩]), vs, ?_, ?_, value⟩
      · rw [← List.append_assoc]
        exact (taken.trans equal).trans taken'
      · rw [List.reverse_cons]
        exact phrase.snoc p (assigned.expressions_of_target h) h
  change StateT.run _ t₁ = _ at rest
  split at rest <;> unfold StateT.run at rest
  · next target further reversed =>
    simp only [↓since_bind_run, pure_eq_some] at rest
    obtain ⟨rfl, rfl⟩ := rest
    rw [reversed] at phrase
    refine ⟨_, taken, ?_⟩
    rw [taken.span_eq assigned.solid.right]
    exact .assign phrase assigned
  · cases rest

theorem expressionStmt_reads : Reads (expressionStmt expr) SimplePhrase := by
  intro s x s' run
  unfold expressionStmt at run
  simp only [↓here_bind_run, ↓atWord_bind_run, ite_eq_some, ↓peekSecond_bind_run] at run
  rcases run with ⟨-, run⟩ | ⟨-, run⟩
  · simp only [bind_eq_some, ↓since_bind_run, pure_eq_some] at run
    obtain ⟨e, t, run, rfl, rfl⟩ := run
    obtain ⟨ts, taken, h⟩ := yieldExpr_reads inner run
    refine ⟨ts, taken, ?_⟩
    rw [taken.span_eq (h.solid rfl)]
    exact .expression (.yielding h)
  rw [bind_eq_some] at run
  obtain ⟨e, t, run, rest⟩ := run
  obtain ⟨ts, taken, value⟩ := inner .starExpressions run
  rw [peek_bind_run] at rest
  cases op? : augmentedOp? t.kind with
  | some op =>
    simp only [op?, bind_eq_some, next_eq_some] at rest
    obtain ⟨⟨k, p⟩, t₁, taken₁, v, t₂, run, rest⟩ := rest
    rw [taken₁.kind_eq] at op?
    obtain ⟨us, taken₂, assigned⟩ := assignedValue_reads inner run
    cases single : e.toSingleTarget? with
    | none =>
      rw [single] at rest
      cases rest
    | some target =>
      simp only [single, ↓since_bind_run, pure_eq_some] at rest
      obtain ⟨rfl, rfl⟩ := rest
      have whole := taken.trans (taken₁.cons taken₂)
      refine ⟨_, whole, ?_⟩
      rw [whole.span_eq (value.solid rfl).left]
      exact .augmented p value single op? assigned
  | none =>
    simp only [op?, ite_eq_some, ↓since_bind_run, pure_eq_some, beq_iff_eq] at rest
    rcases rest with ⟨-, rest⟩ | ⟨-, ⟨-, rest⟩ | ⟨-, rfl, rfl⟩⟩
    · exact annotatedFrom_reads inner taken value rest
    · exact assignedFrom_reads inner taken value rest
    · refine ⟨ts, taken, ?_⟩
      rw [taken.span_eq (value.solid rfl)]
      exact .expression (.expressions value)

theorem deleteStmt_reads : Reads (deleteStmt expr) SimplePhrase := by
  intro s x s' run
  rw [deleteStmt, spanned_eq_some] at run
  simp only [↓word_bind_eq_some] at run
  obtain ⟨f, ⟨p, t, taken, run⟩, rfl⟩ := run
  rw [bind_eq_some] at run
  obtain ⟨first, t₁, run₁, run⟩ := run
  rw [bind_eq_some] at run
  obtain ⟨⟨rest, b⟩, t₂, run₂, run⟩ := run
  have operand : Reads (expr .bitwiseOr) (Phrase (.element .operand)) :=
    fun _ _ _ run => (inner .bitwiseOr run).imp fun _ h => ⟨h.1, .plain h.2⟩
  obtain ⟨ts, taken₁, element⟩ := operand run₁
  obtain ⟨us, comma, taken₂, series, -⟩ := commaTail_series operand taken₁ element run₂
  cases targets : Expr.toTargets? .del (first :: rest) with
  | none =>
    simp only [targets] at run
    cases run
  | some targets' =>
    simp only [targets, pure_eq_some] at run
    obtain ⟨rfl, rfl⟩ := run
    refine ⟨_, taken.cons taken₂, ?_⟩
    rw [(taken.cons taken₂).span_eq (solid_cons rfl)]
    exact .delete p series targets

theorem raiseStmt_reads : Reads (raiseStmt expr) SimplePhrase := by
  intro s x s' run
  rw [raiseStmt, spanned_eq_some] at run
  simp only [↓word_bind_eq_some] at run
  obtain ⟨f, ⟨p, t, taken, run⟩, rfl⟩ := run
  rw [bind_eq_some] at run
  obtain ⟨e?, t₁, tried, run⟩ := run
  rcases attempt_eq_some.1 tried with ⟨e, rfl, run₁⟩ | ⟨rfl, -, rfl⟩
  · obtain ⟨ts, taken₁, exc⟩ := inner .expression run₁
    simp only [↓acceptWord_ite_eq_some, bind_eq_some, ↓pure_bind_run, pure_eq_some] at run
    have finish : ∀ {us c t₂}, Takes t₁ us t₂ → Behind (.word .kFrom) (Phrase (.expr .expression)) us c →
        ∃ vs, Takes s vs t₂ ∧ SimplePhrase vs (.raiseStmt ⟨s.start, t₂.last⟩ (some e) c) := by
      intro us c t₂ taken₂ cause
      have whole := taken.cons (taken₁.trans taken₂)
      refine ⟨_, whole, ?_⟩
      rw [whole.span_eq (solid_cons rfl)]
      exact .raiseValue p exc cause
    rcases run with ⟨q, t₂, from_, c, t₃, run, rfl, rfl⟩ | ⟨-, rfl, rfl⟩
    · obtain ⟨us, taken₂, cause⟩ := inner .expression run
      exact finish (from_.cons taken₂) (.some q cause)
    · exact finish (.refl _) .none
  · obtain ⟨rfl, rfl⟩ := pure_eq_some.1 run
    refine ⟨_, taken, ?_⟩
    rw [taken.span_eq (solid_cons rfl)]
    exact .raiseNone p

theorem assertStmt_reads : Reads (assertStmt expr) SimplePhrase := by
  intro s x s' run
  rw [assertStmt, spanned_eq_some] at run
  simp only [↓word_bind_eq_some, bind_eq_some, ↓acceptPunct_ite_eq_some, ↓pure_bind_run, pure_eq_some] at run
  obtain ⟨f, ⟨p, t, taken, e, t₁, run₁, rest⟩, rfl⟩ := run
  obtain ⟨ts, taken₁, test⟩ := inner .expression run₁
  have finish : ∀ {us m t₂}, Takes t₁ us t₂ → Behind (.punct .comma) (Phrase (.expr .expression)) us m →
      ∃ vs, Takes s vs t₂ ∧ SimplePhrase vs (.assertStmt ⟨s.start, t₂.last⟩ e m) := by
    intro us m t₂ taken₂ msg
    have whole := taken.cons (taken₁.trans taken₂)
    refine ⟨_, whole, ?_⟩
    rw [whole.span_eq (solid_cons rfl)]
    exact .assertion p test msg
  rcases rest with ⟨q, t₂, comma, m, t₃, run, rfl, rfl⟩ | ⟨-, rfl, rfl⟩
  · obtain ⟨us, taken₂, msg⟩ := inner .expression run
    exact finish (comma.cons taken₂) (.some q msg)
  · exact finish (.refl _) .none

theorem returnStmt_reads :
    Reads (spanned do
      word .kReturn
      let value ← attempt (expr .starExpressions)
      return fun span => .returnStmt span value) SimplePhrase := by
  intro s x s' run
  rw [spanned_eq_some] at run
  simp only [↓word_bind_eq_some, bind_eq_some, attempt_eq_some, pure_eq_some] at run
  obtain ⟨_, ⟨p, t, taken, v?, t', ⟨v, rfl, run⟩ | ⟨rfl, -, rfl⟩, rfl, rfl⟩, rfl⟩ := run
  · obtain ⟨ts, taken', value⟩ := inner .starExpressions run
    refine ⟨_, taken.cons taken', ?_⟩
    rw [(taken.cons taken').span_eq (solid_cons rfl)]
    exact .returnValue p value
  · refine ⟨_, taken, ?_⟩
    rw [taken.span_eq (solid_cons rfl)]
    exact .returnNone p

theorem simpleStmt_reads : Reads (simpleStmt expr) SimplePhrase := by
  intro s x s' run
  unfold simpleStmt at run
  rw [peek_bind_run] at run
  change StateT.run _ s = _ at run
  split at run <;> unfold StateT.run at run
  · exact returnStmt_reads inner run
  · exact importStmt_reads run
  · exact importFromStmt_reads run
  · exact raiseStmt_reads inner run
  · exact wordStmt_reads rfl run
  · exact wordStmt_reads rfl run
  · exact wordStmt_reads rfl run
  · exact deleteStmt_reads inner run
  · exact assertStmt_reads inner run
  · exact declaration_reads (w := .kGlobal) rfl run
  · exact declaration_reads (w := .kNonlocal) rfl run
  · exact expressionStmt_reads inner run

theorem simpleStmts_reads : Reads (simpleStmts expr) LinePhrase := by
  intro s ss s' run
  unfold simpleStmts at run
  simp only [bind_eq_some, ↓expect_bind_eq_some, pure_eq_some] at run
  obtain ⟨first, t, run₁, ss, t₁, more, b, t₂, accepted, p, t₃, newline, rfl, rfl⟩ := run
  obtain ⟨ts, taken, stmt⟩ := simpleStmt_reads inner run₁
  obtain ⟨rest, rfl, repeats⟩ := repeats_of_manyFrom more
  obtain ⟨us, taken₁, stmts⟩ : ∃ us, Takes t us t₁ ∧ Each (.punct .semicolon) SimplePhrase us rest := by
    refine repeats.reads (attempt_reads (simpleStmt_reads inner)) .nil ?_
    rintro ts us a as ⟨p, vs, rfl, item⟩ items
    exact .cons p item items
  obtain ⟨cs, taken₂, semicolon⟩ := accept_reads _ accepted
  exact ⟨_, (taken.trans taken₁).trans (taken₂.trans newline), .mk p (.mk stmt stmts) semicolon⟩

end Simple

/-! ### Compound statements -/

section Compound

variable {expr : Rule → Parse Expr} {pattern : Parse Pattern} {block : Parse (List Stmt)}
  (inner : ∀ r, Reads (expr r) r.Phrases) (whole : Reads pattern (PatternPhrase .whole))
  (blocks : Reads block (StmtPhrase .block))

section Blocks

include blocks

theorem suite_reads : Reads (suite block) fun ts ss => ∃ d bs, ts = ⟨.punct .colon, d⟩ :: bs ∧ StmtPhrase .block bs ss := by
  intro s ss s' run
  unfold suite at run
  rw [punct_bind_eq_some] at run
  obtain ⟨d, t, colon, run⟩ := run
  obtain ⟨bs, taken, body⟩ := blocks run
  exact ⟨_, colon.cons taken, d, bs, rfl, body⟩

theorem optionalSuite_reads (w : Reserved) : Reads (optionalSuite block w) (StmtPhrase (.orelse w)) := by
  intro s ss s' run
  unfold optionalSuite at run
  simp only [↓acceptWord_ite_eq_some, pure_eq_some] at run
  rcases run with ⟨p, t, taken, run⟩ | ⟨-, rfl, rfl⟩
  · obtain ⟨_, taken', d, bs, rfl, body⟩ := suite_reads blocks run
    exact ⟨_, taken.cons taken', .orelse p d body⟩
  · exact ⟨[], .refl _, .noOrelse⟩

/-- Where the word stands, the block is there. -/
theorem some_optionalSuite {w : Reserved} {s s' : Input} {ss : List Stmt} (at_word : s.kind = .word w)
    (run : optionalSuite block w s = some (ss, s')) : ∃ ts, Takes s ts s' ∧ StmtPhrase (.orelse w) ts ss ∧ ts ≠ [] := by
  obtain ⟨ts, taken, orelse⟩ := optionalSuite_reads blocks w run
  refine ⟨ts, taken, orelse, ?_⟩
  rintro rfl
  obtain rfl := takes_nil.1 taken
  unfold optionalSuite at run
  simp only [↓acceptWord_ite_eq_some, at_word, ne_eq, not_true, false_and, or_false] at run
  obtain ⟨p, t, taken', run⟩ := run
  obtain ⟨_, taken'', -⟩ := suite_reads blocks run
  exact absurd (taken'.trans taken'').length_lt (Nat.lt_irrefl _)

end Blocks

section Definitions

include inner

theorem annot_reads : Reads (annot? (expr .expression)) (AnnotOf true false) := by
  intro s a s' run
  obtain ⟨ts, taken, behind⟩ := behind_reads (inner .expression) run
  refine ⟨ts, taken, ?_, nofun⟩
  cases behind with
  | none => exact .noAnnot
  | some p h => exact .annot p h

theorem starAnnot_reads : Reads (annot? (starExpression expr)) (AnnotOf true true) := by
  intro s a s' run
  obtain ⟨ts, taken, behind⟩ := behind_reads (starExpression_reads inner) run
  refine ⟨ts, taken, ?_, nofun⟩
  cases behind with
  | none => exact .noAnnot
  | some p h => exact .starredAnnot p h

include blocks

theorem functionDef_reads {s t s' : Input} {as : List Token} {isAsync : Bool} {es : List Expr} {x : Stmt} (taken : Takes s as t)
    (mark : Mark (.word .kAsync) as isAsync) (run : functionDef expr block s.start isAsync es t = some (x, s')) :
    ∃ us, Takes s us s' ∧ StmtPhrase (.definition es) us x := by
  unfold functionDef at run
  simp only [↓word_bind_eq_some, ↓name_bind_eq_some, ↓punct_bind_eq_some, bind_eq_some, ↓acceptPunct_ite_eq_some, ↓pure_bind_run,
    ↓since_bind_run, pure_eq_some] at run
  obtain ⟨p, t₁, def_, w, q, t₂, name, o, t₃, opened, ps, t₄, run₁, c, t₅, closed, rest⟩ := run
  obtain ⟨ts, taken₁, parameters⟩ := params_reads (annot_reads inner) (starAnnot_reads inner) (inner .expression) _ run₁
  have finish : ∀ {rs r t₆ body}, Takes t₅ rs t₆ → Behind (.punct .arrow) (Phrase (.expr .expression)) rs r →
      suite block t₆ = some (body, s') →
      ∃ us, Takes s us s' ∧ StmtPhrase (.definition es) us
        (.functionDef ⟨s.start, s'.last⟩ isAsync (Text.ofChars (Text.normalForm w)) ps body es r) := by
    intro rs r t₆ body taken₂ returns run
    obtain ⟨_, taken₃, d, bs, rfl, block⟩ := suite_reads blocks run
    have whole := taken.trans (def_.cons (name.cons (opened.cons (taken₁.trans (closed.cons (taken₂.trans taken₃))))))
    refine ⟨_, whole, ?_⟩
    rw [whole.span_eq (solid_cons rfl).right]
    exact .function w p q o c d mark parameters returns block
  rcases rest with ⟨a, t₆, arrow, r, t₇, run, body, t₈, run', rfl, rfl⟩ | ⟨-, body, t₆, run, rfl, rfl⟩
  · obtain ⟨rs, taken₂, returns⟩ := inner .expression run
    exact finish (arrow.cons taken₂) (.some a returns) run'
  · exact finish (.refl _) .none run

theorem classDef_reads {s s' : Input} {es : List Expr} {x : Stmt} (run : classDef expr block s.start es s = some (x, s')) :
    ∃ us, Takes s us s' ∧ StmtPhrase (.definition es) us x := by
  unfold classDef at run
  simp only [↓word_bind_eq_some, ↓name_bind_eq_some, ↓acceptPunct_ite_eq_some, ↓pure_bind_run, bind_eq_some, ↓since_bind_run,
    pure_eq_some] at run
  obtain ⟨p, t, class_, w, q, t₁, name, rest⟩ := run
  have finish : ∀ {ts as t₂ body}, Takes t₁ ts t₂ → BasesPhrase ts as → suite block t₂ = some (body, s') →
      ∃ us, Takes s us s' ∧ StmtPhrase (.definition es) us
        (.classDef ⟨s.start, s'.last⟩ (Text.ofChars (Text.normalForm w)) as.1 as.2 body es) := by
    intro ts as t₂ body taken bases run
    obtain ⟨_, taken', d, bs, rfl, block⟩ := suite_reads blocks run
    have whole := class_.cons (name.cons (taken.trans taken'))
    refine ⟨_, whole, ?_⟩
    rw [whole.span_eq (solid_cons rfl)]
    exact .ofClass w p q d bases block
  rcases rest with ⟨o, t₂, opened, as, t₃, run, body, t₄, run', rfl, rfl⟩ | ⟨-, body, t₂, run, rfl, rfl⟩
  · obtain ⟨_, taken, us, c, rfl, ⟨rfl, rfl⟩ | list⟩ := arguments_reads inner run
    · exact finish (opened.cons taken) (.empty o c) run'
    · exact finish (opened.cons taken) (.some o c list) run'
  · exact finish (.refl _) .none run

omit blocks in
theorem decorators_reads :
    Reads (many (do
      if ← acceptPunct .at then
        let e ← expr .named
        expect .newline
        return some e
      else return none)) Decorators := by
  refine many_reads (P := fun ts e => ∃ p q us, ts = ⟨.punct .at, p⟩ :: (us ++ [⟨.newline, q⟩]) ∧ Phrase (.expr .named) us e) ?_ .nil ?_
  · intro s o s' run
    simp only [↓acceptPunct_ite_eq_some, bind_eq_some, ↓expect_bind_eq_some, pure_eq_some] at run
    rcases run with ⟨p, t, at_, e, t₁, run, q, t₂, newline, rfl, rfl⟩ | ⟨-, rfl, rfl⟩
    · obtain ⟨ts, taken, decorator⟩ := inner .named run
      exact ⟨_, at_.cons (taken.trans newline), p, q, ts, rfl, decorator⟩
    · exact ⟨[], .refl _, rfl⟩
  · rintro _ us e es ⟨p, q, ts, rfl, decorator⟩ rest
    simpa using Decorators.cons p q decorator rest

theorem decorated_reads : Reads (decorated expr block) (StmtPhrase .compound) := by
  intro s x s' run
  unfold decorated at run
  rw [bind_eq_some] at run
  obtain ⟨es, t, run₁, run⟩ := run
  obtain ⟨ts, taken, decorators⟩ := decorators_reads inner run₁
  obtain ⟨us, taken', definition⟩ : ∃ us, Takes t us s' ∧ StmtPhrase (.definition es) us x := by
    simp only [↓here_bind_run, ↓atWord_bind_run, ite_eq_some, bind_eq_some] at run
    rcases run with ⟨-, run⟩ | ⟨-, isAsync, t₁, accepted, run⟩
    · exact classDef_reads inner blocks run
    · obtain ⟨as, taken', mark⟩ := accept_reads _ accepted
      exact functionDef_reads inner blocks taken' mark run
  exact ⟨_, taken.trans taken', .definition decorators definition⟩

end Definitions

section Control

include inner blocks

/-- A branch of a conditional behind its word. -/
theorem branch_reads (w : Reserved) : Reads (do
      let start ← here
      word w
      let test ← expr .named
      return (start, test, ← suite block) : Parse (Pos × Expr × List Stmt)) fun ts r =>
    ∃ p d us bs, ts = ⟨.word w, p⟩ :: (us ++ ⟨.punct .colon, d⟩ :: bs) ∧ r.1 = p.start ∧
      Phrase (.expr .named) us r.2.1 ∧ StmtPhrase .block bs r.2.2 := by
  intro s r s' run
  simp only [↓here_bind_run, ↓word_bind_eq_some, bind_eq_some, pure_eq_some] at run
  obtain ⟨p, t, taken, e, t₁, run₁, body, t₂, run₂, rfl, rfl⟩ := run
  obtain ⟨us, taken₁, test⟩ := inner .named run₁
  obtain ⟨_, taken₂, d, bs, rfl, block⟩ := suite_reads blocks run₂
  exact ⟨_, taken.cons (taken₁.trans taken₂), p, d, us, bs, rfl, taken.start_eq, test, block⟩

/-- The conditionals that further branches make, all of which end where the last one does. -/
def nestBranches (stop : Pos) (branches : List (Pos × Expr × List Stmt)) (orelse : List Stmt) : List Stmt :=
  branches.foldr (fun (p, t, b) rest => [.ifStmt ⟨p, stop⟩ t b rest]) orelse

theorem branches_reads {s t s' : Input} {branches : List (Pos × Expr × List Stmt)} {orelse : List Stmt}
    (run : Repeats (do
      if ← atWord .kElif then
        return some (← (do
          let start ← here
          word .kElif
          let test ← expr .named
          return (start, test, ← suite block)))
      else return none) s branches t)
    (last : optionalSuite block .kElse t = some (orelse, s')) :
    ∃ ts, Takes s ts s' ∧ StmtPhrase .branches ts (nestBranches s'.last branches orelse) := by
  induction run with
  | done run =>
    simp only [↓atWord_bind_run, ite_eq_some, bind_eq_some, pure_eq_some, reduceCtorEq, false_and, and_false, exists_false, false_or,
      true_and] at run
    obtain ⟨-, rfl⟩ := run
    obtain ⟨ts, taken, orelse⟩ := optionalSuite_reads blocks _ last
    exact ⟨ts, taken, .lastBranch orelse⟩
  | @item branch branches s t _ run _ ih =>
    rw [atWord_bind_run, ite_eq_some] at run
    rcases run with ⟨-, run⟩ | ⟨-, none⟩
    · rw [bind_eq_some] at run
      obtain ⟨r, t', run, same⟩ := run
      obtain ⟨same, rfl⟩ := pure_eq_some.1 same
      cases same
      obtain ⟨_, taken, p, d, us, bs, rfl, start, test, block⟩ := branch_reads inner blocks .kElif run
      obtain ⟨vs, taken', further⟩ := ih last
      have all := taken.trans taken'
      rw [List.cons_append, List.append_assoc, List.cons_append] at all
      refine ⟨_, all, ?_⟩
      have span := all.span_eq (solid_cons rfl)
      rw [all.start_eq, ← start] at span
      simp only [nestBranches, List.foldr_cons, span]
      exact .branch p d test block further
    · cases (pure_eq_some.1 none).1

theorem ifStmt_reads : Reads (ifStmt expr block) (StmtPhrase .compound) := by
  intro s x s' run
  unfold ifStmt at run
  simp only at run
  rw [bind_eq_some] at run
  obtain ⟨⟨start, e, body⟩, t, run₁, run⟩ := run
  rw [bind_eq_some] at run
  obtain ⟨branches, t₁, run₂, run⟩ := run
  simp only [bind_eq_some, ↓since_bind_run, pure_eq_some] at run
  obtain ⟨orelse, t₂, last, rfl, rfl⟩ := run
  obtain ⟨_, taken, p, d, us, bs, rfl, rfl, test, block⟩ := branch_reads inner blocks .kIf run₁
  obtain ⟨vs, taken', further⟩ := branches_reads inner blocks (repeats_of_many run₂) last
  have all := taken.trans taken'
  rw [List.cons_append, List.append_assoc, List.cons_append] at all
  refine ⟨_, all, ?_⟩
  have span := all.span_eq (solid_cons rfl)
  rw [all.start_eq] at span
  rw [span]
  exact .conditional p d test block further

theorem whileStmt_reads : Reads (whileStmt expr block) (StmtPhrase .compound) := by
  intro s x s' run
  rw [whileStmt, spanned_eq_some] at run
  simp only [↓word_bind_eq_some, bind_eq_some, pure_eq_some] at run
  obtain ⟨_, ⟨p, t, taken, e, t₁, run₁, body, t₂, run₂, rest, t₃, run₃, rfl, rfl⟩, rfl⟩ := run
  obtain ⟨ts, taken₁, test⟩ := inner .named run₁
  obtain ⟨_, taken₂, d, bs, rfl, block⟩ := suite_reads blocks run₂
  obtain ⟨us, taken₃, orelse⟩ := optionalSuite_reads blocks _ run₃
  have all := taken.cons (taken₁.trans (taken₂.trans taken₃))
  refine ⟨_, all, ?_⟩
  rw [all.span_eq (solid_cons rfl)]
  exact .whileLoop p d test block orelse

theorem forStmt_reads {s t s' : Input} {as : List Token} {isAsync : Bool} {x : Stmt} (taken : Takes s as t)
    (mark : Mark (.word .kAsync) as isAsync) (run : forStmt expr block s.start isAsync t = some (x, s')) :
    ∃ us, Takes s us s' ∧ StmtPhrase .compound us x := by
  unfold forStmt at run
  simp only [↓word_bind_eq_some, bind_eq_some, ↓since_bind_run, pure_eq_some] at run
  obtain ⟨p, t₁, for_, target, t₂, run₁, q, t₃, in_, i, t₄, run₂, body, t₅, run₃, rest, t₆, run₄, rfl, rfl⟩ := run
  obtain ⟨ts, taken₁, e, targets, h⟩ := forTargets_reads inner run₁
  obtain ⟨us, taken₂, iter⟩ := inner .starExpressions run₂
  obtain ⟨_, taken₃, d, bs, rfl, block⟩ := suite_reads blocks run₃
  obtain ⟨vs, taken₄, orelse⟩ := optionalSuite_reads blocks _ run₄
  have all := taken.trans (for_.cons (taken₁.trans (in_.cons (taken₂.trans (taken₃.trans taken₄)))))
  refine ⟨_, all, ?_⟩
  rw [all.span_eq (solid_cons rfl).right]
  exact .forLoop p q d mark targets h iter block orelse

omit blocks in
theorem withItem_reads : Reads (withItem expr) WithItemPhrase := by
  intro s i s' run
  unfold withItem at run
  simp only [bind_eq_some, ↓acceptWord_ite_eq_some, asTarget_eq_some, pure_eq_some] at run
  obtain ⟨e, t, run, ⟨p, t₁, as_, y, t₂, run', target, _, ⟨h, rfl⟩, rfl, rfl⟩ | ⟨-, rfl, rfl⟩⟩ := run
  · obtain ⟨ts, taken, context⟩ := inner .expression run
    obtain ⟨us, taken', element⟩ := targetItem_reads inner run'
    exact ⟨_, taken.trans (as_.cons taken'), .bound p context element h⟩
  · obtain ⟨ts, taken, context⟩ := inner .expression run
    exact ⟨ts, taken, .bare context⟩

omit blocks in
theorem withItems_reads :
    Reads (either (parenthesizedItems expr) (plainItems expr)) fun ts is =>
      ∃ us d, ts = us ++ [⟨.punct .colon, d⟩] ∧ WithItems us is := by
  intro s is s' run
  have items := commaSeparated_listed (withItem_reads inner)
  rcases either_eq_some.1 run with run | ⟨-, run⟩
  · unfold parenthesizedItems at run
    simp only [↓punct_bind_eq_some, bind_eq_some, pure_eq_some] at run
    obtain ⟨p, t, opened, is, t₁, run₁, b, t₂, accepted, q, t₃, closed, d, t₄, colon, rfl, rfl⟩ := run
    obtain ⟨ts, taken, listed⟩ := items run₁
    obtain ⟨cs, taken', comma⟩ := trailing_reads accepted
    exact ⟨_, (opened.cons (taken.trans (taken'.trans closed))).trans colon, _, d, rfl, .parens p q listed comma⟩
  · unfold plainItems at run
    simp only [↓punct_bind_eq_some, bind_eq_some, pure_eq_some] at run
    obtain ⟨is, t₁, run₁, d, t₂, colon, rfl, rfl⟩ := run
    obtain ⟨ts, taken, listed⟩ := items run₁
    exact ⟨_, taken.trans colon, ts, d, rfl, .plain listed⟩

theorem withStmt_reads {s t s' : Input} {as : List Token} {isAsync : Bool} {x : Stmt} (taken : Takes s as t)
    (mark : Mark (.word .kAsync) as isAsync) (run : withStmt expr block s.start isAsync t = some (x, s')) :
    ∃ us, Takes s us s' ∧ StmtPhrase .compound us x := by
  unfold withStmt at run
  simp only [↓word_bind_eq_some, bind_eq_some, ↓since_bind_run, pure_eq_some] at run
  obtain ⟨p, t₁, with_, is, t₂, run₁, body, t₃, run₂, rfl, rfl⟩ := run
  obtain ⟨_, taken₁, ts, d, rfl, items⟩ := withItems_reads inner run₁
  obtain ⟨bs, taken₂, block⟩ := blocks run₂
  have all := taken.trans (with_.cons (taken₁.trans taken₂))
  rw [List.append_assoc, List.singleton_append] at all
  refine ⟨_, all, ?_⟩
  rw [all.span_eq (solid_cons rfl).right]
  exact .withBlock p d mark items block

theorem handler_reads (star : Bool) : Reads (handler expr block star) (StmtPhrase (.handler star)) := by
  intro s h s' run
  rw [handler, spanned_eq_some] at run
  simp only [↓word_bind_eq_some] at run
  obtain ⟨f, ⟨p, t, except_, run⟩, rfl⟩ := run
  have typed {ms : List Token} {t₁ : Input} (taken : Takes t ms t₁) (mark : Mark (.punct .star) ms star)
      (run : (do
        let type ← expr .expression
        let id ← asName
        let body ← suite block
        return fun span => Handler.mk span (some type) id body : Parse (Span → Handler)) t₁ = some (f, s')) :
      ∃ ts, Takes s ts s' ∧ StmtPhrase (.handler star) ts (f ⟨s.start, s'.last⟩) := by
    simp only [bind_eq_some, pure_eq_some] at run
    obtain ⟨e, t₂, run₁, n, t₃, run₂, body, t₄, run₃, rfl, rfl⟩ := run
    obtain ⟨ts, taken₁, type⟩ := inner .expression run₁
    obtain ⟨us, taken₂, asname⟩ := asName_reads run₂
    obtain ⟨_, taken₃, d, bs, rfl, block⟩ := suite_reads blocks run₃
    have all := except_.cons (taken.trans (taken₁.trans (taken₂.trans taken₃)))
    refine ⟨_, all, ?_⟩
    rw [all.span_eq (solid_cons rfl)]
    exact .catch_ p d mark type asname block
  cases star with
  | true =>
    simp only [↓reduceIte, ↓punct_bind_eq_some, ↓atPunct_bind_run, Bool.not_true, Bool.false_and, Bool.false_eq_true] at run
    obtain ⟨q, t₁, star, run⟩ := run
    exact typed star (.some q) run
  | false =>
    simp only [↓reduceIte, Bool.false_eq_true, ↓atPunct_bind_run, Bool.not_false, Bool.true_and, ite_eq_some] at run
    rcases run with ⟨-, run⟩ | ⟨-, run⟩
    · simp only [bind_eq_some, pure_eq_some] at run
      obtain ⟨body, t₁, run, rfl, rfl⟩ := run
      obtain ⟨_, taken, d, bs, rfl, block⟩ := suite_reads blocks run
      refine ⟨_, except_.cons taken, ?_⟩
      rw [(except_.cons taken).span_eq (solid_cons rfl)]
      exact .catchAll p d block
    · exact typed (.refl _) .none run

theorem handlers_reads (star : Bool) :
    Reads (many (do if ← atWord .kExcept then return some (← handler expr block star) else return none))
      (StmtPhrase (.handlers star)) := by
  refine many_reads (P := StmtPhrase (.handler star)) ?_ .noHandler fun first rest => .furtherHandler first rest
  intro s o s' run
  simp only [↓atWord_bind_run, ite_eq_some, bind_eq_some, pure_eq_some] at run
  rcases run with ⟨-, h, t, run, rfl, rfl⟩ | ⟨-, rfl, rfl⟩
  · exact handler_reads inner blocks star run
  · exact ⟨[], .refl _, rfl⟩

theorem tryStmt_reads : Reads (tryStmt expr block) (StmtPhrase .compound) := by
  intro s x s' run
  rw [tryStmt, spanned_eq_some] at run
  simp only [↓word_bind_eq_some] at run
  obtain ⟨f, ⟨p, t, try_, run⟩, rfl⟩ := run
  rw [bind_eq_some] at run
  obtain ⟨body, t₁, run₁, run⟩ := run
  obtain ⟨_, taken₁, d, bs, rfl, block⟩ := suite_reads blocks run₁
  simp only [↓atWord_bind_run, ↓peekSecond_bind_run] at run
  rw [bind_eq_some] at run
  obtain ⟨hs, t₂, run₂, run⟩ := run
  obtain ⟨us, taken₂, handlers⟩ := handlers_reads inner blocks _ run₂
  simp only [ite_eq_some, ↓pure_bind_run, ↓atWord_bind_run, bind_eq_some, ↓fail_bind_eq_some, pure_eq_some, and_false, false_or,
    List.isEmpty_iff] at run
  rcases run with ⟨rfl, at_finally, final, t₃, run, rfl, rfl⟩ | ⟨some_handler, rest, t₃, run₃, -, final, t₄, run₄, rfl, rfl⟩
  · cases handlers
    obtain rfl := takes_nil.1 taken₂
    have kind : t₁.kind = .word .kFinally := by simpa using at_finally
    obtain ⟨vs, taken₃, finally_, some_finally⟩ := some_optionalSuite blocks kind run
    have all := try_.cons (taken₁.trans taken₃)
    refine ⟨_, all, ?_⟩
    rw [all.span_eq (solid_cons rfl), kind]
    exact .tryFinally p d block finally_ some_finally
  · obtain ⟨vs, taken₃, orelse⟩ := optionalSuite_reads blocks _ run₃
    obtain ⟨ws, taken₄, finally_⟩ := optionalSuite_reads blocks _ run₄
    have all := try_.cons (taken₁.trans (taken₂.trans (taken₃.trans taken₄)))
    refine ⟨_, all, ?_⟩
    rw [all.span_eq (solid_cons rfl)]
    exact .tryExcept p d block handlers some_handler orelse finally_

end Control

section Matches

include inner

omit blocks in
theorem subject_reads : Reads (subject expr) fun ts e => Phrase (.tupled .named) ts e ∧ isStarred e = false := by
  intro s e s' run
  unfold subject at run
  simp only [↓here_bind_run, bind_eq_some, ↓atPunct_bind_run, ↓fail_bind_eq_some, ite_eq_some, ↓since_bind_run, pure_eq_some,
    beq_iff_eq, and_false, false_or] at run
  obtain ⟨first, t, run, ⟨at_comma, r, t', tail, rfl, rfl⟩ | ⟨-, notStarred, rfl, rfl⟩⟩ := run
  · obtain ⟨ts, taken, element⟩ := starNamed_reads inner run
    obtain ⟨us, comma, taken', series, all, -⟩ := commaTail_series (starNamed_reads inner) taken element tail
    obtain rfl := all at_comma
    refine ⟨us, taken', ?_, rfl⟩
    rw [taken'.span_eq (series.solid rfl)]
    exact .together series
  · obtain ⟨ts, taken, element⟩ := starNamed_reads inner run
    exact ⟨ts, taken, .alone element, by simpa using notStarred⟩

omit blocks in
theorem matchHeader_reads : Reads (matchHeader expr) fun ts e =>
    ∃ us p d n i, ts = ⟨.name "match".toList, p⟩ :: (us ++ [⟨.punct .colon, d⟩, ⟨.newline, n⟩, ⟨.indent, i⟩]) ∧
      Phrase (.tupled .named) us e ∧ isStarred e = false := by
  intro s e s' run
  unfold matchHeader softWord at run
  simp only [↓expect_bind_eq_some, bind_eq_some, ↓punct_bind_eq_some, pure_eq_some] at run
  obtain ⟨p, t, match_, e, t₁, run, d, t₂, colon, n, t₃, newline, i, t₄, indent, rfl, rfl⟩ := run
  obtain ⟨us, taken, subject, notStarred⟩ := subject_reads inner run
  exact ⟨_, match_.cons (taken.trans (colon.cons (newline.cons indent))), us, p, d, n, i, rfl, subject, notStarred⟩

include whole blocks

theorem matchCase_reads : Reads (matchCase expr pattern block) (StmtPhrase .case) := by
  intro s c s' run
  unfold matchCase softWord at run
  simp only [↓expect_bind_eq_some, bind_eq_some, ↓acceptWord_ite_eq_some, ↓pure_bind_run, pure_eq_some] at run
  obtain ⟨p, t, case_, x, t₁, run₁, rest⟩ := run
  obtain ⟨ts, taken₁, pattern⟩ := casePattern_reads whole run₁
  have finish : ∀ {us g t₂ body}, Takes t₁ us t₂ → Behind (.word .kIf) (Phrase (.expr .named)) us g →
      suite block t₂ = some (body, s') → ∃ vs, Takes s vs s' ∧ StmtPhrase .case vs (.mk x g body) := by
    intro us g t₂ body taken₂ guard run
    obtain ⟨_, taken₃, d, bs, rfl, block⟩ := suite_reads blocks run
    exact ⟨_, case_.cons (taken₁.trans (taken₂.trans taken₃)), .case p d pattern guard block⟩
  rcases rest with ⟨q, t₂, if_, g, t₃, run, body, t₄, run', rfl, rfl⟩ | ⟨-, body, t₂, run, rfl, rfl⟩
  · obtain ⟨us, taken₂, guard⟩ := inner .named run
    exact finish (if_.cons taken₂) (.some q guard) run'
  · exact finish (.refl _) .none run

theorem matchFrom_reads {s t s' : Input} {ts : List Token} {e : Expr} {x : Stmt} {p d n i : Span}
    (taken : Takes s (⟨.name "match".toList, p⟩ :: (ts ++ [⟨.punct .colon, d⟩, ⟨.newline, n⟩, ⟨.indent, i⟩])) t)
    (subject : Phrase (.tupled .named) ts e) (notStarred : isStarred e = false)
    (run : matchFrom expr pattern block s.start e t = some (x, s')) : ∃ us, Takes s us s' ∧ StmtPhrase .compound us x := by
  unfold matchFrom at run
  simp only [bind_eq_some, ↓expect_bind_eq_some, ↓since_bind_run, pure_eq_some] at run
  obtain ⟨c, t₁, run₁, cs, t₂, more, r, t₃, dedent, rfl, rfl⟩ := run
  obtain ⟨us, taken₁, first⟩ := matchCase_reads inner whole blocks run₁
  obtain ⟨cs, rfl, repeats⟩ := repeats_of_manyFrom more
  obtain ⟨vs, taken₂, cases⟩ : ∃ vs, Takes t₁ vs t₂ ∧ StmtPhrase .cases vs cs := by
    refine repeats.reads (P := StmtPhrase .case) ?_ .noCase fun first rest => .furtherCase first rest
    intro s o s' run
    simp only [↓peek_bind_run, ite_eq_some, bind_eq_some, pure_eq_some] at run
    rcases run with ⟨-, rfl, rfl⟩ | ⟨-, c, t, run, rfl, rfl⟩
    · exact ⟨[], .refl _, rfl⟩
    · exact matchCase_reads inner whole blocks run
  have all := taken.trans (taken₁.trans (taken₂.trans dedent))
  simp only [List.cons_append, List.append_assoc, List.nil_append] at all
  refine ⟨_, all, ?_⟩
  rw [all.span_eq (solid_cons rfl)]
  exact .matching p d n i r subject notStarred first cases

end Matches

section Statements

include inner whole blocks

omit inner whole blocks in
/-- One compound statement is a statement. -/
theorem compound_reads {p : Parse Stmt} {s t s' : Input} {ss : List Stmt} (run : (do return [← p]) t = some (ss, s'))
    (h : ∀ {x}, p t = some (x, s') → ∃ ts, Takes s ts s' ∧ StmtPhrase .compound ts x) :
    ∃ ts, Takes s ts s' ∧ StmtPhrase .statement ts ss := by
  simp only [bind_eq_some, pure_eq_some] at run
  obtain ⟨x, t, run, rfl, rfl⟩ := run
  obtain ⟨ts, taken, compound⟩ := h run
  exact ⟨ts, taken, .compound compound⟩

theorem statement_reads : Reads (statement expr pattern block) (StmtPhrase .statement) := by
  intro s ss s' run
  have line (run : simpleStmts expr s = some (ss, s')) : ∃ ts, Takes s ts s' ∧ StmtPhrase .statement ts ss :=
    (simpleStmts_reads inner run).imp fun _ h => ⟨h.1, .line h.2⟩
  unfold statement at run
  simp only [↓here_bind_run, ↓peek_bind_run] at run
  change StateT.run _ s = _ at run
  split at run <;> unfold StateT.run at run
  · exact compound_reads run (decorated_reads inner blocks ·)
  · exact compound_reads run (decorated_reads inner blocks ·)
  · exact compound_reads run (decorated_reads inner blocks ·)
  · exact compound_reads run (ifStmt_reads inner blocks ·)
  · exact compound_reads run (whileStmt_reads inner blocks ·)
  · exact compound_reads run (forStmt_reads inner blocks (.refl s) .none ·)
  · exact compound_reads run (withStmt_reads inner blocks (.refl s) .none ·)
  · exact compound_reads run (tryStmt_reads inner blocks ·)
  · next kind =>
    rw [peekSecond_bind_run] at run
    change StateT.run _ s = _ at run
    split at run <;> unfold StateT.run at run
    · rw [next_bind_eq_some] at run
      obtain ⟨⟨k, p⟩, t, taken, run⟩ := run
      obtain rfl : k = .word .kAsync := taken.kind_eq.symm.trans kind
      exact compound_reads run (forStmt_reads inner blocks taken (.some p) ·)
    · rw [next_bind_eq_some] at run
      obtain ⟨⟨k, p⟩, t, taken, run⟩ := run
      obtain rfl : k = .word .kAsync := taken.kind_eq.symm.trans kind
      exact compound_reads run (withStmt_reads inner blocks taken (.some p) ·)
    · exact compound_reads run (decorated_reads inner blocks ·)
  -- `match` is a name, too: without the header of a block the line holds simple statements.
  · rw [ite_eq_some] at run
    rcases run with ⟨-, run⟩ | ⟨-, run⟩
    · rw [bind_eq_some] at run
      obtain ⟨e?, t, tried, run⟩ := run
      rcases attempt_eq_some.1 tried with ⟨e, rfl, header⟩ | ⟨rfl, -, rfl⟩
      · obtain ⟨_, taken, us, p, d, n, i, rfl, subject, notStarred⟩ := matchHeader_reads inner header
        exact compound_reads run (matchFrom_reads inner whole blocks taken subject notStarred ·)
      · exact line run
    · exact line run
  · exact line run

theorem statements_reads : Reads (statements expr pattern block) (StmtPhrase .statements) := by
  intro s ss s' run
  unfold statements at run
  simp only [bind_eq_some, pure_eq_some] at run
  obtain ⟨groups, t, run, rfl, rfl⟩ := run
  refine many_reads (P := StmtPhrase .statement) (L := fun ts groups => StmtPhrase .statements ts groups.flatten) ?_ .noStatement ?_ run
  · intro s o s' run
    rw [peek_bind_run] at run
    change StateT.run _ s = _ at run
    split at run <;> unfold StateT.run at run
    · obtain ⟨rfl, rfl⟩ := pure_eq_some.1 run
      exact ⟨[], .refl _, rfl⟩
    · obtain ⟨rfl, rfl⟩ := pure_eq_some.1 run
      exact ⟨[], .refl _, rfl⟩
    · simp only [bind_eq_some, pure_eq_some] at run
      obtain ⟨ss, t, run, rfl, rfl⟩ := run
      exact statement_reads inner whole blocks run
  · intro ts us ss groups first rest
    exact .furtherStatement first rest

end Statements

end Compound

/-- Blocks are read as phrases, however deep they may go. -/
theorem blockRule_reads {expr : Rule → Parse Expr} {pattern : Parse Pattern} (inner : ∀ r, Reads (expr r) r.Phrases)
    (whole : Reads pattern (PatternPhrase .whole)) (fuel : Nat) : Reads (blockRule expr pattern fuel) (StmtPhrase .block) := by
  induction fuel with
  | zero =>
    intro s ss s' run
    cases run
  | succ fuel ih =>
    intro s ss s' run
    unfold blockRule at run
    simp only [↓accept_ite_eq_some, ↓expect_bind_eq_some, bind_eq_some, pure_eq_some] at run
    rcases run with ⟨p, t, newline, q, t₁, indent, ss, t₂, run₁, rs, t₃, run₂, r, t₄, dedent, rfl, rfl⟩ | ⟨-, run⟩
    · obtain ⟨ts, taken₁, first⟩ := statement_reads inner whole ih run₁
      obtain ⟨us, taken₂, rest⟩ := statements_reads inner whole ih run₂
      exact ⟨_, newline.cons (indent.cons (taken₁.trans (taken₂.trans dedent))), .indented p q r first rest⟩
    · obtain ⟨ts, taken, line⟩ := simpleStmts_reads inner run
      exact ⟨ts, taken, .inline line⟩

/-- A module is statements up to the end of the source. -/
theorem moduleRule_reads {fuel : Nat} {s s' : Input} {program : Program} (run : moduleRule fuel s = some (program, s')) :
    ∃ ts ss p, Takes s (ts ++ [⟨.stop, p⟩]) s' ∧ StmtPhrase .statements ts ss ∧ program = .module ss := by
  unfold moduleRule at run
  simp only [bind_eq_some, ↓expect_bind_eq_some, pure_eq_some] at run
  obtain ⟨ss, t, run, p, t₁, stop, rfl, rfl⟩ := run
  have inner := exprRule_reads fuel
  have whole := patternRule_reads inner fuel
  obtain ⟨ts, taken, statements⟩ := statements_reads inner whole (blockRule_reads inner whole fuel) run
  exact ⟨ts, ss, p, taken.trans stop, statements, rfl⟩

end CallLint.Source

import CallLint.Proofs.Source.PhraseSound
import CallLint.Source.Grammar.Pattern

/-!
# Patterns as phrases

The grammar of patterns as a relation, and that the rules of patterns read it (`patternRule_reads`). The expressions in patterns are
phrases of the grammar of expressions with few shapes: numbers, strings, named constants and dotted names.
-/

namespace CallLint.Source

open Parse Grammar

/-! ### The expressions in patterns -/

/-- A number, possibly negative. -/
inductive NumberPhrase : List Token → Expr → Prop where
  | plain (v : Literal) (p : Span) : NumberPhrase [⟨.number v, p⟩] (.constant p v false)
  | negative (v : Literal) (p q : Span) :
      NumberPhrase [⟨.punct .minus, p⟩, ⟨.number v, q⟩]
        (.unaryOp (spanOf [⟨.punct .minus, p⟩, ⟨.number v, q⟩]) .minus (.constant q v false))

/-- A number, possibly complex, or strings. -/
inductive ValuePhrase : List Token → Expr → Prop where
  | number {ts : List Token} {e : Expr} (h : NumberPhrase ts e) : ValuePhrase ts e
  | complex {ts : List Token} {e : Expr} {k : TokenKind} {op : BinOp} (x : Decimal.Binary64) (p q : Span) (left : NumberPhrase ts e)
      (real : isRealNumber e = true) (h : sumOp? k = some op) :
      ValuePhrase (ts ++ [⟨k, p⟩, ⟨.number (.imaginary x), q⟩])
        (.binOp (spanOf (ts ++ [⟨k, p⟩, ⟨.number (.imaginary x), q⟩])) e op (.constant q (.imaginary x) false))
  | strings {ss : List (StringToken × Span)} {e : Expr} (some_string : ss ≠ []) (h : Phrase (.expr .atom) (stringTokens ss) e) :
      ValuePhrase (stringTokens ss) e

/-- Names joined by dots. -/
inductive DottedPhrase : List Token → Expr → Prop where
  | name (w : List Char) (p : Span) : DottedPhrase [⟨.name w, p⟩] (.name p (Text.ofChars (Text.normalForm w)) .load)
  | member {ts : List Token} {e : Expr} (w : List Char) (p q : Span) (value : DottedPhrase ts e) :
      DottedPhrase (ts ++ [⟨.punct .dot, p⟩, ⟨.name w, q⟩])
        (.member (spanOf (ts ++ [⟨.punct .dot, p⟩, ⟨.name w, q⟩])) e (Text.ofChars (Text.normalForm w)) .load)

/-- The value of a named constant. -/
def singletonOf? : TokenKind → Option Literal
  | .word .kTrue => some (.bool true)
  | .word .kFalse => some (.bool false)
  | .word .kNone => some .none
  | _ => none

/-- The key of a mapping. -/
inductive KeyPhrase : List Token → Expr → Prop where
  | value {ts : List Token} {e : Expr} (h : ValuePhrase ts e) : KeyPhrase ts e
  | singleton {k : TokenKind} {v : Literal} (p : Span) (h : singletonOf? k = some v) : KeyPhrase [⟨k, p⟩] (.constant p v false)
  | dotted {ts : List Token} {e : Expr} (h : DottedPhrase ts e) (some_dot : 1 < ts.length) : KeyPhrase ts e

theorem Phrase.sum_of_factor {ts : List Token} {e : Expr} (h : Phrase (.expr .factor) ts e) : Phrase (.expr .sum) ts e :=
  .lift (m := .term) rfl (.lift rfl h)

theorem Phrase.factor_of_primary {ts : List Token} {e : Expr} (h : Phrase (.expr .primary) ts e) : Phrase (.expr .factor) ts e :=
  .lift (m := .power) rfl (.lift (m := .awaited) rfl (.lift rfl h))

theorem NumberPhrase.phrase {ts : List Token} {e : Expr} (h : NumberPhrase ts e) : Phrase (.expr .factor) ts e := by
  cases h with
  | plain v p => exact .factor_of_primary (.lift rfl (.constant p rfl))
  | negative v p q => exact .sign p rfl (.factor_of_primary (.lift rfl (.constant q rfl)))

theorem ValuePhrase.phrase {ts : List Token} {e : Expr} (h : ValuePhrase ts e) : Phrase (.expr .sum) ts e := by
  cases h with
  | number h => exact .sum_of_factor h.phrase
  | complex x p q left _ h =>
    exact .binary p h rfl (.sum_of_factor left.phrase) (.lift rfl (.factor_of_primary (.lift rfl (.constant q rfl))))
  | strings _ h => exact .sum_of_factor (.factor_of_primary (.lift rfl h))

theorem DottedPhrase.phrase {ts : List Token} {e : Expr} (h : DottedPhrase ts e) : Phrase (.expr .primary) ts e := by
  induction h with
  | name w p => exact .lift rfl (.name w p)
  | member w p q _ ih => exact .member w p q ih

theorem constantOf_of_singletonOf {k : TokenKind} {v : Literal} (h : singletonOf? k = some v) : constantOf? k = some v := by
  unfold singletonOf? at h
  split at h <;> first | exact h | cases h

theorem KeyPhrase.phrase {ts : List Token} {e : Expr} (h : KeyPhrase ts e) : Phrase (.expr .sum) ts e := by
  cases h with
  | value h => exact h.phrase
  | singleton p h => exact .sum_of_factor (.factor_of_primary (.lift rfl (.constant p (constantOf_of_singletonOf h))))
  | dotted h => exact .sum_of_factor (.factor_of_primary h.phrase)

/-! ### Patterns -/

/-- What may be listed in a pattern. -/
inductive PatternItem where
  /-- An element of a sequence, which may be a starred name. -/
  | element
  /-- A pattern by position. -/
  | positional
  /-- A key with its pattern. -/
  | entry
  /-- The name of a member with its pattern. -/
  | keyword

/-- What an item stands for. -/
@[reducible] def PatternItem.Value : PatternItem → Type
  | element | positional => Pattern
  | entry => Expr × Pattern
  | keyword => Text × Pattern

/-- The forms of patterns. -/
inductive PatternForm where
  /-- A pattern without alternatives. -/
  | closed
  /-- Closed patterns, each behind a bar. -/
  | alternatives
  /-- A closed pattern with its alternatives. -/
  | union
  /-- Alternatives, possibly with a name for what matched. -/
  | whole
  | item (k : PatternItem)
  /-- Items, each behind a comma. -/
  | further (k : PatternItem)
  | classArguments
  /-- What stands behind `case`. -/
  | case

/-- Whether a pattern of a form may have no tokens. -/
def PatternForm.isOptional : PatternForm → Bool
  | alternatives | further _ => true
  | _ => false

/-- What patterns of a form stand for. -/
@[reducible] def PatternForm.Value : PatternForm → Type
  | closed | union | whole | case => Pattern
  | alternatives => List Pattern
  | item k => k.Value
  | further k => List k.Value
  | classArguments => List Pattern × List (Text × Pattern)

/-- The tokens of a pattern, its form, and what it stands for. -/
inductive PatternPhrase : (f : PatternForm) → List Token → f.Value → Prop where
  | singleton {k : TokenKind} {v : Literal} (p : Span) (h : singletonOf? k = some v) :
      PatternPhrase .closed [⟨k, p⟩] (.singleton p v)
  | value {ts : List Token} {e : Expr} (h : ValuePhrase ts e) : PatternPhrase .closed ts (.value (spanOf ts) e)
  | wildcard (p : Span) : PatternPhrase .closed [⟨.name ['_'], p⟩] (.alias p none none)
  | capture (w : List Char) (p : Span) (h : w ≠ ['_']) :
      PatternPhrase .closed [⟨.name w, p⟩] (.alias p none (some (Text.ofChars (Text.normalForm w))))
  | dotted {ts : List Token} {e : Expr} (h : DottedPhrase ts e) (some_dot : 1 < ts.length) :
      PatternPhrase .closed ts (.value (spanOf ts) e)
  | ofClass {ts us : List Token} {e : Expr} {as : List Pattern × List (Text × Pattern)} (h : DottedPhrase ts e)
      (args : PatternPhrase .classArguments us as) :
      PatternPhrase .closed (ts ++ us) (.ofClass (spanOf (ts ++ us)) e as.1 (as.2.map (·.1)) (as.2.map (·.2)))
  | emptyParens (p q : Span) :
      PatternPhrase .closed [⟨.punct .leftParen, p⟩, ⟨.punct .rightParen, q⟩]
        (.sequence (spanOf [⟨.punct .leftParen, p⟩, ⟨.punct .rightParen, q⟩]) [])
  | group {ts : List Token} {x : Pattern} (p q : Span) (inner : PatternPhrase .whole ts x) :
      PatternPhrase .closed (⟨.punct .leftParen, p⟩ :: (ts ++ [⟨.punct .rightParen, q⟩])) x
  | parens {ts us cs : List Token} {x : Pattern} {xs : List Pattern} (p q : Span) (first : PatternPhrase (.item .element) ts x)
      (rest : PatternPhrase (.further .element) us xs) (comma : Trailing cs) (some_comma : us ++ cs ≠ []) :
      PatternPhrase .closed (⟨.punct .leftParen, p⟩ :: (ts ++ (us ++ cs ++ [⟨.punct .rightParen, q⟩])))
        (.sequence (spanOf (⟨.punct .leftParen, p⟩ :: (ts ++ (us ++ cs ++ [⟨.punct .rightParen, q⟩])))) (x :: xs))
  | emptyBrackets (p q : Span) :
      PatternPhrase .closed [⟨.punct .leftBracket, p⟩, ⟨.punct .rightBracket, q⟩]
        (.sequence (spanOf [⟨.punct .leftBracket, p⟩, ⟨.punct .rightBracket, q⟩]) [])
  | brackets {ts us cs : List Token} {x : Pattern} {xs : List Pattern} (p q : Span) (first : PatternPhrase (.item .element) ts x)
      (rest : PatternPhrase (.further .element) us xs) (comma : Trailing cs) :
      PatternPhrase .closed (⟨.punct .leftBracket, p⟩ :: (ts ++ (us ++ cs ++ [⟨.punct .rightBracket, q⟩])))
        (.sequence (spanOf (⟨.punct .leftBracket, p⟩ :: (ts ++ (us ++ cs ++ [⟨.punct .rightBracket, q⟩])))) (x :: xs))
  | emptyMapping (p q : Span) :
      PatternPhrase .closed [⟨.punct .leftBrace, p⟩, ⟨.punct .rightBrace, q⟩]
        (.mapping (spanOf [⟨.punct .leftBrace, p⟩, ⟨.punct .rightBrace, q⟩]) [] [] none)
  | restMapping {cs : List Token} (w : List Char) (p q r o : Span) (h : w ≠ ['_']) (comma : Trailing cs) :
      PatternPhrase .closed (⟨.punct .leftBrace, p⟩ :: ⟨.punct .doubleStar, q⟩ :: ⟨.name w, r⟩ :: (cs ++ [⟨.punct .rightBrace, o⟩]))
        (.mapping (spanOf (⟨.punct .leftBrace, p⟩ :: ⟨.punct .doubleStar, q⟩ :: ⟨.name w, r⟩ :: (cs ++ [⟨.punct .rightBrace, o⟩])))
          [] [] (some (Text.ofChars (Text.normalForm w))))
  | mapping {ts us cs : List Token} {i : Expr × Pattern} {is : List (Expr × Pattern)} (p q : Span)
      (first : PatternPhrase (.item .entry) ts i) (rest : PatternPhrase (.further .entry) us is) (comma : Trailing cs) :
      PatternPhrase .closed (⟨.punct .leftBrace, p⟩ :: (ts ++ (us ++ (cs ++ [⟨.punct .rightBrace, q⟩]))))
        (.mapping (spanOf (⟨.punct .leftBrace, p⟩ :: (ts ++ (us ++ (cs ++ [⟨.punct .rightBrace, q⟩])))))
          ((i :: is).map (·.1)) ((i :: is).map (·.2)) none)
  | mappingRest {ts us cs : List Token} {i : Expr × Pattern} {is : List (Expr × Pattern)} (w : List Char) (p q r c o : Span)
      (first : PatternPhrase (.item .entry) ts i) (rest : PatternPhrase (.further .entry) us is) (h : w ≠ ['_'])
      (comma : Trailing cs) :
      PatternPhrase .closed
        (⟨.punct .leftBrace, p⟩ ::
          (ts ++ (us ++ ⟨.punct .comma, c⟩ :: ⟨.punct .doubleStar, q⟩ :: ⟨.name w, r⟩ :: (cs ++ [⟨.punct .rightBrace, o⟩]))))
        (.mapping
          (spanOf (⟨.punct .leftBrace, p⟩ ::
            (ts ++ (us ++ ⟨.punct .comma, c⟩ :: ⟨.punct .doubleStar, q⟩ :: ⟨.name w, r⟩ :: (cs ++ [⟨.punct .rightBrace, o⟩])))))
          ((i :: is).map (·.1)) ((i :: is).map (·.2)) (some (Text.ofChars (Text.normalForm w))))
  -- Alternatives.
  | noAlternative : PatternPhrase .alternatives [] []
  | alternative {ts us : List Token} {x : Pattern} {xs : List Pattern} (p : Span) (first : PatternPhrase .closed ts x)
      (rest : PatternPhrase .alternatives us xs) : PatternPhrase .alternatives (⟨.punct .bar, p⟩ :: (ts ++ us)) (x :: xs)
  | alone {ts : List Token} {x : Pattern} (inner : PatternPhrase .closed ts x) : PatternPhrase .union ts x
  | either {ts us : List Token} {x : Pattern} {xs : List Pattern} (first : PatternPhrase .closed ts x)
      (rest : PatternPhrase .alternatives us xs) (some_alternative : xs ≠ []) :
      PatternPhrase .union (ts ++ us) (.either (spanOf (ts ++ us)) (x :: xs))
  | unnamed {ts : List Token} {x : Pattern} (inner : PatternPhrase .union ts x) : PatternPhrase .whole ts x
  | named {ts : List Token} {x : Pattern} (w : List Char) (p q : Span) (inner : PatternPhrase .union ts x) (h : w ≠ ['_']) :
      PatternPhrase .whole (ts ++ [⟨.word .kAs, p⟩, ⟨.name w, q⟩])
        (.alias (spanOf (ts ++ [⟨.word .kAs, p⟩, ⟨.name w, q⟩])) (some x) (some (Text.ofChars (Text.normalForm w))))
  -- Items.
  | plain {ts : List Token} {x : Pattern} (inner : PatternPhrase .whole ts x) : PatternPhrase (.item .element) ts x
  | starWildcard (p q : Span) :
      PatternPhrase (.item .element) [⟨.punct .star, p⟩, ⟨.name ['_'], q⟩]
        (.star (spanOf [⟨.punct .star, p⟩, ⟨.name ['_'], q⟩]) none)
  | star (w : List Char) (p q : Span) (h : w ≠ ['_']) :
      PatternPhrase (.item .element) [⟨.punct .star, p⟩, ⟨.name w, q⟩]
        (.star (spanOf [⟨.punct .star, p⟩, ⟨.name w, q⟩]) (some (Text.ofChars (Text.normalForm w))))
  | positional {ts : List Token} {x : Pattern} (inner : PatternPhrase .whole ts x) : PatternPhrase (.item .positional) ts x
  | entry {ts us : List Token} {e : Expr} {x : Pattern} (p : Span) (key : KeyPhrase ts e) (value : PatternPhrase .whole us x) :
      PatternPhrase (.item .entry) (ts ++ ⟨.punct .colon, p⟩ :: us) (e, x)
  | keyword {ts : List Token} {x : Pattern} (w : List Char) (p q : Span) (value : PatternPhrase .whole ts x) :
      PatternPhrase (.item .keyword) (⟨.name w, p⟩ :: ⟨.punct .equal, q⟩ :: ts) (Text.ofChars (Text.normalForm w), x)
  | noFurther {k : PatternItem} : PatternPhrase (.further k) [] []
  | furtherItem {k : PatternItem} {ts us : List Token} {x : k.Value} {xs : List k.Value} (p : Span)
      (first : PatternPhrase (.item k) ts x) (rest : PatternPhrase (.further k) us xs) :
      PatternPhrase (.further k) (⟨.punct .comma, p⟩ :: (ts ++ us)) (x :: xs)
  -- The arguments of a class.
  | noArguments (p q : Span) : PatternPhrase .classArguments [⟨.punct .leftParen, p⟩, ⟨.punct .rightParen, q⟩] ([], [])
  | byPosition {ts us cs : List Token} {x : Pattern} {xs : List Pattern} (p q : Span)
      (first : PatternPhrase (.item .positional) ts x) (rest : PatternPhrase (.further .positional) us xs) (comma : Trailing cs) :
      PatternPhrase .classArguments (⟨.punct .leftParen, p⟩ :: (ts ++ (us ++ (cs ++ [⟨.punct .rightParen, q⟩])))) (x :: xs, [])
  | byKeyword {ts us cs : List Token} {x : Text × Pattern} {xs : List (Text × Pattern)} (p q : Span)
      (first : PatternPhrase (.item .keyword) ts x) (rest : PatternPhrase (.further .keyword) us xs) (comma : Trailing cs) :
      PatternPhrase .classArguments (⟨.punct .leftParen, p⟩ :: (ts ++ (us ++ (cs ++ [⟨.punct .rightParen, q⟩])))) ([], x :: xs)
  | byBoth {ts us vs ws cs : List Token} {x : Pattern} {xs : List Pattern} {y : Text × Pattern} {ys : List (Text × Pattern)}
      (p q c : Span) (first : PatternPhrase (.item .positional) ts x) (rest : PatternPhrase (.further .positional) us xs)
      (keyword : PatternPhrase (.item .keyword) vs y) (keywords : PatternPhrase (.further .keyword) ws ys) (comma : Trailing cs) :
      PatternPhrase .classArguments
        (⟨.punct .leftParen, p⟩ ::
          (ts ++ (us ++ ⟨.punct .comma, c⟩ :: (vs ++ (ws ++ (cs ++ [⟨.punct .rightParen, q⟩]))))))
        (x :: xs, y :: ys)
  -- What stands behind `case`.
  | one {ts : List Token} {x : Pattern} (inner : PatternPhrase .whole ts x) : PatternPhrase .case ts x
  | several {ts us cs : List Token} {x : Pattern} {xs : List Pattern} (first : PatternPhrase (.item .element) ts x)
      (rest : PatternPhrase (.further .element) us xs) (comma : Trailing cs) (some_comma : us ++ cs ≠ []) :
      PatternPhrase .case (ts ++ (us ++ cs)) (.sequence (spanOf (ts ++ (us ++ cs))) (x :: xs))

/-- The first token of a pattern is no mark. -/
theorem PatternPhrase.solid {f : PatternForm} {ts : List Token} {v : f.Value} (h : PatternPhrase f ts v)
    (required : f.isOptional = false) : Solid ts := by
  induction h with
  | singleton p h => exact solid_cons (Level.isMark_of_starts (l := .atom) (Level.startsAtom_of_constant (constantOf_of_singletonOf h)))
  | value h => exact h.phrase.solid rfl
  | dotted h => exact h.phrase.solid rfl
  | ofClass h => exact (h.phrase.solid rfl).left
  | entry _ key => exact (key.phrase.solid rfl).left
  | alone _ ih | unnamed _ ih | plain _ ih | positional _ ih | one _ ih => exact ih rfl
  | either _ _ _ ih | several _ _ _ _ ih => exact (ih rfl).left
  | named _ _ _ _ _ ih => exact (ih rfl).left
  | noAlternative | noFurther => cases required
  | _ => exact solid_cons rfl

/-! ### What the rules read -/

theorem captureName_reads : Reads captureName fun ts n =>
    ∃ w p, ts = [⟨.name w, p⟩] ∧ w ≠ ['_'] ∧ n = Text.ofChars (Text.normalForm w) := by
  intro s n s' run
  unfold captureName at run
  simp only [↓peek_bind_run, ite_eq_some, ↓fail_bind_eq_some, ↓name_bind_eq_some, pure_eq_some, and_false, false_or] at run
  obtain ⟨notWildcard, w, p, t, taken, -, rfl, rfl⟩ := run
  refine ⟨_, taken, w, p, rfl, ?_, rfl⟩
  rintro rfl
  exact notWildcard (by rw [taken.kind_eq]; rfl)

theorem number_reads {s s' : Input} {v : Literal} {e : Expr} (kind : s.kind = .number v) (run : constant v s = some (e, s')) :
    ∃ p, Takes s [⟨.number v, p⟩] s' ∧ e = .constant p v false := by
  obtain ⟨p, taken, eq⟩ := constant_reads (by rw [kind]; rfl) run
  exact ⟨p, kind ▸ taken, eq⟩

theorem signedNumber_reads : Reads signedNumber NumberPhrase := by
  intro s e s' run
  unfold signedNumber at run
  simp only [↓peek_bind_run, ↓peekSecond_bind_run] at run
  change StateT.run _ s = _ at run
  split at run <;> unfold StateT.run at run
  · next kind =>
    obtain ⟨p, taken, rfl⟩ := number_reads kind run
    exact ⟨_, taken, .plain _ p⟩
  · next kind second =>
    rw [spanned_eq_some] at run
    simp only [↓next_bind_eq_some, bind_eq_some, pure_eq_some] at run
    obtain ⟨_, ⟨⟨k, p⟩, t, taken, v, t', run, rfl, rfl⟩, rfl⟩ := run
    obtain rfl : k = .punct .minus := taken.kind_eq.symm.trans kind
    obtain ⟨q, taken', rfl⟩ := number_reads (taken.second_of_single.symm.trans second) run
    refine ⟨_, taken.cons taken', ?_⟩
    rw [(taken.cons taken').span_eq (solid_cons rfl)]
    exact .negative _ p q
  · cases run

theorem numberPattern_reads : Reads numberPattern ValuePhrase := by
  intro s e s' run
  unfold numberPattern at run
  rw [here_bind_run, bind_eq_some] at run
  obtain ⟨left, t, run₁, run⟩ := run
  obtain ⟨ts, taken, number⟩ := signedNumber_reads run₁
  rw [peek_bind_run] at run
  change StateT.run _ t = _ at run
  split at run <;> unfold StateT.run at run
  · obtain ⟨rfl, rfl⟩ := pure_eq_some.1 run
    exact ⟨ts, taken, .number number⟩
  · next op sign =>
    simp only [ite_eq_some, ↓fail_bind_eq_some, ↓next_bind_eq_some, ↓peek_bind_run, and_false, false_or] at run
    obtain ⟨real, ⟨k, p⟩, t₁, taken₁, run⟩ := run
    rw [taken₁.kind_eq] at sign
    change StateT.run _ t₁ = _ at run
    split at run <;> unfold StateT.run at run
    · next x kind =>
      simp only [bind_eq_some, ↓since_bind_run, pure_eq_some] at run
      obtain ⟨right, t₂, run, rfl, rfl⟩ := run
      obtain ⟨q, taken₂, rfl⟩ := number_reads kind run
      have whole := taken.trans (taken₁.cons taken₂)
      refine ⟨_, whole, ?_⟩
      rw [whole.span_eq (number.phrase.solid rfl).left]
      exact .complex x p q number (by simpa using real) sign
    · cases run

theorem dottedName_reads : Reads dottedName DottedPhrase := by
  intro s e s' run
  unfold dottedName at run
  rw [here_bind_run, bind_eq_some] at run
  obtain ⟨first, t, run, loop⟩ := run
  obtain ⟨_, taken, w, p, rfl, rfl⟩ := nameExpr_reads run
  refine (loops_of_iterate loop).invariant (I := fun e t => ∃ ts, Takes s ts t ∧ DottedPhrase ts e) ?_ ?_
    ⟨_, taken, .name w p⟩
  · intro e t t' run so_far
    simp only [↓acceptPunct_ite_eq_some, ↓name_bind_eq_some, ↓since_bind_run, pure_eq_some, reduceCtorEq, false_and, and_false,
      exists_false, false_or, true_and] at run
    obtain ⟨-, rfl⟩ := run
    exact so_far
  · rintro e e' t t' run ⟨ts, taken, value⟩
    simp only [↓acceptPunct_ite_eq_some, ↓name_bind_eq_some, ↓since_bind_run, pure_eq_some, Option.some.injEq, reduceCtorEq,
      false_and, and_false, or_false] at run
    obtain ⟨p, t₁, dot, w, q, t₂, attr, rfl, rfl⟩ := run
    have whole := taken.trans (dot.cons attr)
    refine ⟨_, whole, ?_⟩
    rw [whole.span_eq (solid_cons rfl).right]
    exact .member w p q value

theorem dottedName_stops {s s' : Input} {e : Expr} (run : dottedName s = some (e, s')) : s'.kind ≠ .punct .dot := by
  unfold dottedName at run
  rw [here_bind_run, bind_eq_some] at run
  obtain ⟨first, t, -, loop⟩ := run
  obtain ⟨t, run⟩ := (loops_of_iterate loop).exists_done
  simp only [↓acceptPunct_ite_eq_some, ↓name_bind_eq_some, ↓since_bind_run, pure_eq_some, reduceCtorEq, false_and, and_false,
    exists_false, false_or, true_and] at run
  obtain ⟨notDot, rfl⟩ := run
  exact notDot

theorem DottedPhrase.length_pos {ts : List Token} {e : Expr} (h : DottedPhrase ts e) : 0 < ts.length := by
  cases h <;> simp

section Rules

variable {expr : Rule → Parse Expr} {self : Parse Pattern} (inner : ∀ r, Reads (expr r) r.Phrases)
  (whole : Reads self (PatternPhrase .whole))

section Literals

include inner

theorem literalExpr_reads {s s' : Input} {e : Expr} (run : literalExpr expr s = some (e, s')) :
    ∃ ts, Takes s ts s' ∧ (ValuePhrase ts e ∨ ∃ v p, singletonOf? s.kind = some v ∧ ts = [⟨s.kind, p⟩] ∧ e = .constant p v false) := by
  unfold literalExpr at run
  rw [peek_bind_run] at run
  have singleton {v : Literal} (kind : singletonOf? s.kind = some v) (run : constant v s = some (e, s')) :
      ∃ ts, Takes s ts s' ∧
        (ValuePhrase ts e ∨ ∃ v p, singletonOf? s.kind = some v ∧ ts = [⟨s.kind, p⟩] ∧ e = .constant p v false) := by
    obtain ⟨p, taken, rfl⟩ := constant_reads (constantOf_of_singletonOf kind) run
    exact ⟨_, taken, Or.inr ⟨v, p, kind, rfl, rfl⟩⟩
  change StateT.run _ s = _ at run
  split at run <;> unfold StateT.run at run
  · obtain ⟨ts, taken, value⟩ := numberPattern_reads run
    exact ⟨ts, taken, Or.inl value⟩
  · obtain ⟨ts, taken, value⟩ := numberPattern_reads run
    exact ⟨ts, taken, Or.inl value⟩
  · next kind =>
    obtain ⟨ss, some_string, taken, strings⟩ := strings_reads inner kind run
    exact ⟨_, taken, Or.inl (.strings some_string strings)⟩
  · next kind => exact singleton (by rw [kind]; rfl) run
  · next kind => exact singleton (by rw [kind]; rfl) run
  · next kind => exact singleton (by rw [kind]; rfl) run
  · cases run

theorem closedLiteral_reads {s s' : Input} {x : Pattern} (kind : singletonOf? s.kind = none)
    (run : (spanned do
      let e ← literalExpr expr
      return fun span => Pattern.value span e) s = some (x, s')) : ∃ ts, Takes s ts s' ∧ PatternPhrase .closed ts x := by
  rw [spanned_eq_some] at run
  simp only [bind_eq_some, pure_eq_some] at run
  obtain ⟨_, ⟨e, t, run, rfl, rfl⟩, rfl⟩ := run
  obtain ⟨ts, taken, value | ⟨v, p, some, -⟩⟩ := literalExpr_reads inner run
  · refine ⟨ts, taken, ?_⟩
    rw [taken.span_eq (value.phrase.solid rfl)]
    exact .value value
  · rw [kind] at some
    cases some

end Literals

theorem singletonPattern_reads {s s' : Input} {v : Literal} {x : Pattern} (kind : singletonOf? s.kind = some v)
    (run : singletonPattern v s = some (x, s')) : ∃ ts, Takes s ts s' ∧ PatternPhrase .closed ts x := by
  rw [singletonPattern, spanned_eq_some] at run
  simp only [↓next_bind_eq_some, pure_eq_some] at run
  obtain ⟨_, ⟨t, t', taken, rfl, rfl⟩, rfl⟩ := run
  rw [taken.kind_eq] at kind
  have starts : isMark t.kind = false :=
    Level.isMark_of_starts (l := .atom) (Level.startsAtom_of_constant (constantOf_of_singletonOf kind))
  have span : spanOf [t] = t.span := by simp [spanOf, endOf, starts]
  refine ⟨_, taken, ?_⟩
  rw [taken.span_eq (solid_cons starts), span]
  exact .singleton t.span kind

theorem eq_of_isWildcard {k : TokenKind} (h : isWildcard k = true) : k = .name ['_'] := by
  unfold isWildcard at h
  split at h
  · rw [beq_iff_eq] at h
    rw [h]
  · cases h

theorem starPattern_reads : Reads starPattern (PatternPhrase (.item .element)) := by
  intro s x s' run
  rw [starPattern, spanned_eq_some] at run
  simp only [↓punct_bind_eq_some, bind_eq_some, pure_eq_some] at run
  obtain ⟨f, ⟨p, t, star, b, t₁, ⟨k, t₂, run₁, rfl, rfl⟩, rest⟩, rfl⟩ := run
  obtain ⟨rfl, rfl⟩ : t.kind = k ∧ t = t₂ := by simpa [peek, Input.kind] using run₁
  simp only [ite_eq_some, ↓next_bind_eq_some, bind_eq_some, pure_eq_some] at rest
  rcases rest with ⟨wildcard, ⟨k, q⟩, t₁, taken, rfl, rfl⟩ | ⟨-, n, t₁, run, rfl, rfl⟩
  · obtain rfl : k = .name ['_'] := taken.kind_eq.symm.trans (eq_of_isWildcard wildcard)
    refine ⟨_, star.cons taken, ?_⟩
    rw [(star.cons taken).span_eq (solid_cons rfl)]
    exact .starWildcard p q
  · obtain ⟨_, taken, w, q, rfl, notWildcard, rfl⟩ := captureName_reads run
    refine ⟨_, star.cons taken, ?_⟩
    rw [(star.cons taken).span_eq (solid_cons rfl)]
    exact .star w p q notWildcard

section Sequences

include whole

theorem sequenceItem_reads : Reads (sequenceItem self) (PatternPhrase (.item .element)) := by
  intro s x s' run
  unfold sequenceItem at run
  rw [atPunct_bind_run, ite_eq_some] at run
  rcases run with ⟨-, run⟩ | ⟨-, run⟩
  · exact starPattern_reads run
  · obtain ⟨ts, taken, pattern⟩ := whole run
    exact ⟨ts, taken, .plain pattern⟩

/-- The elements behind a first one. -/
theorem sequenceTail_reads {s s' : Input} {r : List Pattern × Bool} (run : commaTail (sequenceItem self) s = some (r, s')) :
    ∃ us cs, Takes s (us ++ cs) s' ∧ PatternPhrase (.further .element) us r.1 ∧ Trailing cs ∧
      (s.kind = .punct .comma → us ++ cs ≠ []) :=
  commaTail_reads (L := PatternPhrase (.further .element)) (sequenceItem_reads whole) .noFurther
    (fun first rest => .furtherItem _ first rest) run

omit whole in
theorem PatternPhrase.whole_of_element {ts : List Token} {x : Pattern} (h : PatternPhrase (.item .element) ts x)
    (notStar : isStarPattern x ≠ true) : PatternPhrase .whole ts x := by
  cases h with
  | plain inner => exact inner
  | starWildcard => exact absurd rfl notStar
  | star => exact absurd rfl notStar

theorem parenPattern_reads : Reads (parenPattern self) (PatternPhrase .closed) := by
  intro s x s' run
  unfold parenPattern at run
  simp only [↓here_bind_run, ↓punct_bind_eq_some, ↓acceptPunct_ite_eq_some, ↓atPunct_bind_run, bind_eq_some, ↓fail_bind_eq_some,
    ite_eq_some, ↓since_bind_run, pure_eq_some, beq_iff_eq, and_false, false_or] at run
  obtain ⟨p, t, opened, ⟨q, t', closed, rfl, rfl⟩ | ⟨-, first, t₁, run, rest⟩⟩ := run
  · refine ⟨_, opened.cons closed, ?_⟩
    rw [(opened.cons closed).span_eq (solid_cons rfl)]
    exact .emptyParens p q
  obtain ⟨ts, taken, element⟩ := sequenceItem_reads whole run
  rcases rest with ⟨at_comma, r, t₂, tail, q, t₃, closed, rfl, rfl⟩ | ⟨-, notStar, q, t₂, closed, rfl, rfl⟩
  · obtain ⟨us, cs, taken', further, comma, some_comma⟩ := sequenceTail_reads whole tail
    have all := opened.cons (taken.trans (taken'.trans closed))
    refine ⟨_, all, ?_⟩
    rw [all.span_eq (solid_cons rfl)]
    exact .parens p q element further comma (some_comma at_comma)
  · exact ⟨_, opened.cons (taken.trans closed), .group p q (element.whole_of_element notStar)⟩

theorem bracketPattern_reads : Reads (bracketPattern self) (PatternPhrase .closed) := by
  intro s x s' run
  rw [bracketPattern, spanned_eq_some] at run
  simp only [↓punct_bind_eq_some, ↓acceptPunct_ite_eq_some, bind_eq_some, pure_eq_some] at run
  obtain ⟨f, ⟨p, t, opened, ⟨q, t', closed, rfl, rfl⟩ | ⟨-, first, t₁, run, r, t₂, tail, q, t₃, closed, rfl, rfl⟩⟩, rfl⟩ := run
  · refine ⟨_, opened.cons closed, ?_⟩
    rw [(opened.cons closed).span_eq (solid_cons rfl)]
    exact .emptyBrackets p q
  · obtain ⟨ts, taken, element⟩ := sequenceItem_reads whole run
    obtain ⟨us, cs, taken', further, comma, -⟩ := sequenceTail_reads whole tail
    have all := opened.cons (taken.trans (taken'.trans closed))
    refine ⟨_, all, ?_⟩
    rw [all.span_eq (solid_cons rfl)]
    exact .brackets p q element further comma

theorem keywordPattern_reads : Reads (keywordPattern self) (PatternPhrase (.item .keyword)) := by
  intro s i s' run
  unfold keywordPattern at run
  simp only [↓name_bind_eq_some, ↓punct_bind_eq_some, bind_eq_some, pure_eq_some] at run
  obtain ⟨w, p, t, taken, q, t₁, equal, x, t₂, run, rfl, rfl⟩ := run
  obtain ⟨ts, taken', pattern⟩ := whole run
  exact ⟨_, taken.cons (equal.cons taken'), .keyword w p q pattern⟩

theorem keywordPatterns_reads {s s' : Input} {ys : List (Text × Pattern)} (run : keywordPatterns self s = some (ys, s')) :
    ∃ y zs ts us cs q, ys = y :: zs ∧ Takes s (ts ++ (us ++ (cs ++ [⟨.punct .rightParen, q⟩]))) s' ∧
      PatternPhrase (.item .keyword) ts y ∧ PatternPhrase (.further .keyword) us zs ∧ Trailing cs := by
  unfold keywordPatterns at run
  simp only [bind_eq_some, ↓punct_bind_eq_some, pure_eq_some] at run
  obtain ⟨ys, t, run, b, t₁, accepted, q, t₂, closed, rfl, rfl⟩ := run
  obtain ⟨y, zs, ts, us, rfl, taken, first, rest⟩ :=
    commaSeparated_reads (L := PatternPhrase (.further .keyword)) (keywordPattern_reads whole) .noFurther
      (fun first rest => .furtherItem _ first rest) run
  obtain ⟨cs, taken', comma⟩ := trailing_reads accepted
  obtain ⟨t', taken₁, taken₂⟩ := takes_append.1 taken
  exact ⟨y, zs, ts, us, cs, q, rfl, taken₁.trans (taken₂.trans (taken'.trans closed)), first, rest, comma⟩

theorem classArguments_reads : Reads (classArguments self) (PatternPhrase .classArguments) := by
  intro s as s' run
  unfold classArguments at run
  simp only [↓punct_bind_eq_some, ↓acceptPunct_ite_eq_some, ↓peek_bind_run, ↓peekSecond_bind_run, pure_eq_some] at run
  obtain ⟨p, t, opened, ⟨q, t', closed, rfl, rfl⟩ | ⟨-, run⟩⟩ := run
  · exact ⟨_, opened.cons closed, .noArguments p q⟩
  change StateT.run _ t = _ at run
  split at run <;> unfold StateT.run at run
  · simp only [bind_eq_some, pure_eq_some] at run
    obtain ⟨ys, t₁, run, rfl, rfl⟩ := run
    obtain ⟨y, zs, ts, us, cs, q, rfl, taken, first, rest, comma⟩ := keywordPatterns_reads whole run
    exact ⟨_, opened.cons taken, .byKeyword p q first rest comma⟩
  · simp only [bind_eq_some, ↓acceptPunct_ite_eq_some, ↓punct_bind_eq_some, pure_eq_some] at run
    obtain ⟨xs, t₁, run, rest⟩ := run
    obtain ⟨x, xs, ts, us, rfl, taken, first, further⟩ :=
      commaSeparated_reads (P := PatternPhrase (.item .positional)) (L := PatternPhrase (.further .positional))
        (fun _ _ _ run => (whole run).imp fun _ h => ⟨h.1, .positional h.2⟩) .noFurther
        (fun first rest => .furtherItem _ first rest) run
    obtain ⟨t', taken₁, taken₂⟩ := takes_append.1 taken
    rcases rest with ⟨c, t₂, comma, ⟨q, t₃, closed, rfl, rfl⟩ | ⟨-, ys, t₃, run, rfl, rfl⟩⟩ | ⟨-, q, t₂, closed, rfl, rfl⟩
    · exact ⟨_, opened.cons (taken₁.trans (taken₂.trans (comma.trans closed))), .byPosition p q first further ⟨_, .some c⟩⟩
    · obtain ⟨y, zs, vs, ws, cs, q, rfl, taken', keyword, keywords, trailing⟩ := keywordPatterns_reads whole run
      exact ⟨_, opened.cons (taken₁.trans (taken₂.trans (comma.cons taken'))),
        .byBoth p q c first further keyword keywords trailing⟩
    · exact ⟨_, opened.cons (taken₁.trans (taken₂.trans closed)), .byPosition p q first further ⟨_, .none⟩⟩

theorem namedPattern_reads {s s' : Input} {x : Pattern} (second : endsCapture s.second = true)
    (run : Grammar.namedPattern self s = some (x, s')) : ∃ ts, Takes s ts s' ∧ PatternPhrase .closed ts x := by
  unfold Grammar.namedPattern at run
  simp only [↓here_bind_run, bind_eq_some, ↓atPunct_bind_run, ↓fail_bind_eq_some, ite_eq_some, ↓since_bind_run, pure_eq_some,
    beq_iff_eq, and_false, false_or] at run
  obtain ⟨e, t, run, rest⟩ := run
  obtain ⟨ts, taken, dotted⟩ := dottedName_reads run
  rcases rest with ⟨-, as, t₁, run, rfl, rfl⟩ | ⟨notParen, notEqual, rfl, rfl⟩
  · obtain ⟨us, taken', args⟩ := classArguments_reads whole run
    refine ⟨_, taken.trans taken', ?_⟩
    rw [(taken.trans taken').span_eq (dotted.phrase.solid rfl).left]
    exact .ofClass dotted args
  · refine ⟨ts, taken, ?_⟩
    rw [taken.span_eq (dotted.phrase.solid rfl)]
    refine .dotted dotted ?_
    cases dotted with
    | name w p =>
      rw [taken.second_of_single] at second
      unfold endsCapture at second
      split at second
      · next kind => exact absurd kind (dottedName_stops run)
      · next kind => exact absurd kind notParen
      · next kind => exact absurd kind notEqual
      · cases second
    | member w p q value =>
      have := value.length_pos
      simp only [List.length_append, List.length_cons, List.length_nil]
      omega

end Sequences

section Patterns

include inner whole

omit inner in
/-- The pattern behind a key. -/
theorem entryFrom_reads {s t s' : Input} {ts : List Token} {e : Expr} {i : Expr × Pattern} (taken : Takes s ts t)
    (key : KeyPhrase ts e) (run : (do punct .colon; return (e, ← self) : Parse (Expr × Pattern)) t = some (i, s')) :
    ∃ us, Takes s us s' ∧ PatternPhrase (.item .entry) us i := by
  simp only [↓punct_bind_eq_some, bind_eq_some, pure_eq_some] at run
  obtain ⟨p, t₁, colon, x, t₂, run, rfl, rfl⟩ := run
  obtain ⟨us, taken', pattern⟩ := whole run
  exact ⟨_, taken.trans (colon.cons taken'), .entry p key pattern⟩

theorem keyPattern_reads : Reads (keyPattern expr self) (PatternPhrase (.item .entry)) := by
  intro s i s' run
  unfold keyPattern at run
  simp only [↓peek_bind_run] at run
  change StateT.run _ s = _ at run
  split at run <;> unfold StateT.run at run
  · next w kind =>
    simp only [↓peekSecond_bind_run, ite_eq_some, ↓fail_bind_eq_some, beq_iff_eq, and_false, or_false] at run
    obtain ⟨second, run⟩ := run
    rw [bind_eq_some] at run
    obtain ⟨e, t, run, rest⟩ := run
    obtain ⟨ts, taken, dotted⟩ := dottedName_reads run
    refine entryFrom_reads whole taken (.dotted dotted ?_) rest
    cases dotted with
    | name w p => exact absurd (taken.second_of_single.symm.trans second) (dottedName_stops run)
    | member w p q value =>
      have := value.length_pos
      simp only [List.length_append, List.length_cons, List.length_nil]
      omega
  · rw [bind_eq_some] at run
    obtain ⟨e, t, run, rest⟩ := run
    obtain ⟨ts, taken, value | ⟨v, p, some, rfl, rfl⟩⟩ := literalExpr_reads inner run
    · exact entryFrom_reads whole taken (.value value) rest
    · exact entryFrom_reads whole taken (.singleton p some) rest

omit inner whole in
theorem restName_reads : Reads restName fun ts n =>
    ∃ w p q, ts = [⟨.punct .doubleStar, p⟩, ⟨.name w, q⟩] ∧ w ≠ ['_'] ∧ n = Text.ofChars (Text.normalForm w) := by
  intro s n s' run
  unfold restName at run
  rw [punct_bind_eq_some] at run
  obtain ⟨p, t, star, run⟩ := run
  obtain ⟨_, taken, w, q, rfl, h, rfl⟩ := captureName_reads run
  exact ⟨_, star.cons taken, w, p, q, rfl, h, rfl⟩

theorem mappingPattern_reads : Reads (mappingPattern expr self) (PatternPhrase .closed) := by
  intro s x s' run
  rw [mappingPattern, spanned_eq_some] at run
  simp only [↓punct_bind_eq_some, ↓acceptPunct_ite_eq_some, ↓atPunct_bind_run, ite_eq_some, bind_eq_some, pure_eq_some] at run
  obtain ⟨f, ⟨p, t, opened, run⟩, rfl⟩ := run
  rcases run with ⟨q, t', closed, rfl, rfl⟩ |
    ⟨-, ⟨-, n, t₁, run, b, t₂, accepted, q, t₃, closed, rfl, rfl⟩ | ⟨-, is, t₁, run, b, t₂, accepted, rest⟩⟩
  · refine ⟨_, opened.cons closed, ?_⟩
    rw [(opened.cons closed).span_eq (solid_cons rfl)]
    exact .emptyMapping p q
  · obtain ⟨_, taken, w, o, r, rfl, h, rfl⟩ := restName_reads run
    obtain ⟨cs, taken', comma⟩ := trailing_reads accepted
    have all := opened.cons (taken.trans (taken'.trans closed))
    refine ⟨_, all, ?_⟩
    rw [all.span_eq (solid_cons rfl)]
    exact .restMapping w p o r q h comma
  obtain ⟨i, is, ts, us, rfl, taken, first, further⟩ :=
    commaSeparated_reads (L := PatternPhrase (.further .entry)) (keyPattern_reads inner whole) .noFurther
      (fun first rest => .furtherItem _ first rest) run
  obtain ⟨t', taken₁, taken₂⟩ := takes_append.1 taken
  rcases rest with ⟨both, n, t₃, run', b', t₄, accepted', _, _, ⟨rfl, rfl⟩, o, t₅, closed, rfl, rfl⟩ |
    ⟨-, _, _, ⟨rfl, rfl⟩, q, t₃, closed, rfl, rfl⟩
  · rw [Bool.and_eq_true] at both
    rcases acceptPunct_eq_some.1 accepted with ⟨-, c, comma⟩ | ⟨none, -⟩
    · obtain ⟨_, taken₃, w, q, r, rfl, h, rfl⟩ := restName_reads run'
      obtain ⟨cs, taken₄, trailing⟩ := trailing_reads accepted'
      have all := opened.cons (taken₁.trans (taken₂.trans (comma.cons (taken₃.trans (taken₄.trans closed)))))
      refine ⟨_, all, ?_⟩
      rw [all.span_eq (solid_cons rfl)]
      exact .mappingRest w p q r c o first further h trailing
    · rw [none] at both
      cases both.1
  · obtain ⟨cs, taken₃, comma⟩ := trailing_reads accepted
    have all := opened.cons (taken₁.trans (taken₂.trans (taken₃.trans closed)))
    refine ⟨_, all, ?_⟩
    rw [all.span_eq (solid_cons rfl)]
    exact .mapping p q first further comma

theorem closedPattern_reads : Reads (closedPattern expr self) (PatternPhrase .closed) := by
  intro s x s' run
  unfold closedPattern at run
  rw [peek_bind_run] at run
  change StateT.run _ s = _ at run
  split at run <;> unfold StateT.run at run
  · next kind => exact singletonPattern_reads (by rw [kind]; rfl) run
  · next kind => exact singletonPattern_reads (by rw [kind]; rfl) run
  · next kind => exact singletonPattern_reads (by rw [kind]; rfl) run
  · next kind => exact closedLiteral_reads inner (by rw [kind]; rfl) run
  · next kind => exact closedLiteral_reads inner (by rw [kind]; rfl) run
  · next kind => exact closedLiteral_reads inner (by rw [kind]; rfl) run
  · exact parenPattern_reads whole run
  · exact bracketPattern_reads whole run
  · exact mappingPattern_reads inner whole run
  · next w kind =>
    rw [ite_eq_some] at run
    rcases run with ⟨wildcard, run⟩ | ⟨-, run⟩
    · rw [spanned_eq_some] at run
      simp only [↓next_bind_eq_some, pure_eq_some] at run
      obtain ⟨_, ⟨⟨k, p⟩, t, taken, rfl, rfl⟩, rfl⟩ := run
      obtain rfl : k = .name w := taken.kind_eq.symm.trans kind
      obtain rfl := eq_of_beq wildcard
      refine ⟨_, taken, ?_⟩
      rw [taken.span_eq (solid_cons rfl)]
      exact .wildcard p
    · rw [peekSecond_bind_run, ite_eq_some] at run
      rcases run with ⟨second, run⟩ | ⟨-, run⟩
      · exact namedPattern_reads whole second run
      · rw [spanned_eq_some] at run
        simp only [bind_eq_some, pure_eq_some] at run
        obtain ⟨_, ⟨n, t, run, rfl, rfl⟩, rfl⟩ := run
        obtain ⟨_, taken, w, p, rfl, h, rfl⟩ := captureName_reads run
        refine ⟨_, taken, ?_⟩
        rw [taken.span_eq (solid_cons rfl)]
        exact .capture w p h
  · cases run

theorem alternatives_reads :
    Reads (many (do if ← acceptPunct .bar then return some (← closedPattern expr self) else return none))
      (PatternPhrase .alternatives) := by
  refine many_reads (P := fun ts x => ∃ p us, ts = ⟨.punct .bar, p⟩ :: us ∧ PatternPhrase .closed us x) ?_ .noAlternative ?_
  · intro s o s' run
    simp only [↓acceptPunct_ite_eq_some, bind_eq_some, pure_eq_some] at run
    rcases run with ⟨p, t, taken, x, t', run, rfl, rfl⟩ | ⟨-, rfl, rfl⟩
    · obtain ⟨ts, taken', closed⟩ := closedPattern_reads inner whole run
      exact ⟨_, taken.cons taken', p, ts, rfl, closed⟩
    · exact ⟨[], .refl _, rfl⟩
  · rintro _ us x xs ⟨p, ts, rfl, closed⟩ rest
    exact .alternative p closed rest

theorem patternOver_reads : Reads (patternOver expr self) (PatternPhrase .whole) := by
  intro s x s' run
  unfold patternOver at run
  simp only [↓here_bind_run, bind_eq_some, ↓acceptWord_ite_eq_some, ite_eq_some, ↓pure_bind_run, ↓since_bind_run, pure_eq_some,
    List.isEmpty_iff] at run
  obtain ⟨first, t, run₁, rest, t₁, run₂, run⟩ := run
  obtain ⟨ts, taken₁, closed⟩ := closedPattern_reads inner whole run₁
  obtain ⟨us, taken₂, alternatives⟩ := alternatives_reads inner whole run₂
  have taken := taken₁.trans taken₂
  have named {body : Pattern} (union : PatternPhrase .union (ts ++ us) body) {w : List Char} {p q : Span} {t₂ t₃ : Input}
      (as_ : Takes t₁ [⟨.word .kAs, p⟩] t₂) (capture : Takes t₂ [⟨.name w, q⟩] t₃) (h : w ≠ ['_']) :
      ∃ vs, Takes s vs t₃ ∧ PatternPhrase .whole vs
        (.alias ⟨s.start, t₃.last⟩ (some body) (some (Text.ofChars (Text.normalForm w)))) := by
    have all := taken.trans (as_.cons capture)
    refine ⟨_, all, ?_⟩
    rw [all.span_eq (solid_cons rfl).right]
    exact .named w p q union h
  rcases run with ⟨rfl, run⟩ | ⟨some_alternative, run⟩
  · cases alternatives
    have union : PatternPhrase .union (ts ++ []) first := by
      rw [List.append_nil]
      exact .alone closed
    rcases run with ⟨p, t₂, as_, n, t₃, run, rfl, rfl⟩ | ⟨-, rfl, rfl⟩
    · obtain ⟨_, capture, w, q, rfl, h, rfl⟩ := captureName_reads run
      exact named union as_ capture h
    · exact ⟨_, taken, .unnamed union⟩
  · have union := PatternPhrase.either closed alternatives some_alternative
    rw [taken.span_eq (closed.solid rfl).left] at run
    rcases run with ⟨p, t₂, as_, n, t₃, run, rfl, rfl⟩ | ⟨-, rfl, rfl⟩
    · obtain ⟨_, capture, w, q, rfl, h, rfl⟩ := captureName_reads run
      exact named union as_ capture h
    · exact ⟨_, taken, .unnamed union⟩

end Patterns

end Rules

/-- Patterns are read as phrases, however deep they may go. -/
theorem patternRule_reads {expr : Rule → Parse Expr} (inner : ∀ r, Reads (expr r) r.Phrases) (fuel : Nat) :
    Reads (patternRule expr fuel) (PatternPhrase .whole) := by
  induction fuel with
  | zero =>
    intro s x s' run
    cases run
  | succ fuel ih => exact patternOver_reads inner ih

theorem casePattern_reads {pattern : Parse Pattern} (whole : Reads pattern (PatternPhrase .whole)) :
    Reads (casePattern pattern) (PatternPhrase .case) := by
  intro s x s' run
  unfold casePattern at run
  simp only [↓here_bind_run, bind_eq_some, ↓atPunct_bind_run, ↓fail_bind_eq_some, ite_eq_some, ↓since_bind_run, pure_eq_some,
    beq_iff_eq, and_false, false_or] at run
  obtain ⟨first, t, run, ⟨at_comma, r, t₁, tail, rfl, rfl⟩ | ⟨-, notStar, rfl, rfl⟩⟩ := run
  · obtain ⟨ts, taken, element⟩ := sequenceItem_reads whole run
    obtain ⟨us, cs, taken', further, comma, some_comma⟩ := sequenceTail_reads whole tail
    refine ⟨_, taken.trans taken', ?_⟩
    rw [(taken.trans taken').span_eq (element.solid rfl).left]
    exact .several element further comma (some_comma at_comma)
  · obtain ⟨ts, taken, element⟩ := sequenceItem_reads whole run
    exact ⟨ts, taken, .one (element.whole_of_element notStar)⟩

end CallLint.Source

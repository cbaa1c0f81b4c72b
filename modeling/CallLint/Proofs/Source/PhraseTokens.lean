import CallLint.Proofs.Source.Phrase

/-!
# The tokens of phrases

How phrases begin and what they hold. A reader decides by the next token, or the next two, which rule to follow; these lemmas
are what such a decision rests on.
-/

namespace CallLint.Source

open Parse Grammar

/-! ### First tokens -/

/-- Whether a token starts an operand without a sign. -/
def startsAtom : TokenKind → Bool
  | .name _ | .number _ | .string _ | .word .kTrue | .word .kFalse | .word .kNone | .punct .ellipsis | .punct .leftParen
  | .punct .leftBracket | .punct .leftBrace => true
  | _ => false

namespace Level

/-- Whether a token starts an expression of a level. -/
def starts : Level → TokenKind → Bool
  | atom, k | primary, k => startsAtom k
  | awaited, k | power, k => startsAtom k || k == .word .kAwait
  | inversion, k | conjunction, k | disjunction, k =>
    startsAtom k || k == .word .kAwait || (signOp? k).isSome || k == .word .kNot
  | expression, k | named, k =>
    startsAtom k || k == .word .kAwait || (signOp? k).isSome || k == .word .kNot || k == .word .kLambda
  | _, k => startsAtom k || k == .word .kAwait || (signOp? k).isSome

theorem starts_of_below {l m : Level} {k : TokenKind} (below : l.below = some m) (h : m.starts k = true) :
    l.starts k = true := by
  cases l <;> cases below <;> simp_all [starts]

theorem startsAtom_of_constant {k : TokenKind} {v : Literal} (h : constantOf? k = some v) : startsAtom k = true := by
  unfold constantOf? at h
  split at h <;> first | rfl | cases h

theorem isMark_of_starts {l : Level} {k : TokenKind} (h : l.starts k = true) : isMark k = false := by
  cases k <;> first | rfl | (cases l <;> simp [starts, startsAtom, signOp?] at h)

end Level

/-- Whether a token starts an element of a list. -/
def Element.starts (k : Element) (t : TokenKind) : Bool :=
  k.level.starts t || (k.starLevel.isSome && t == .punct .star) || (k == .index && t == .punct .colon)

theorem Element.starts_of_level {k : Element} {t : TokenKind} (h : k.level.starts t = true) : k.starts t = true := by
  simp [Element.starts, h]

/-- Whether a token starts an argument. -/
def startsArgument (t : TokenKind) : Bool :=
  Level.named.starts t || t == .punct .star || t == .punct .doubleStar

theorem startsArgument_of_named {t : TokenKind} (h : Level.named.starts t = true) : startsArgument t = true := by
  simp [startsArgument, h]

/-- Whether a token starts a parameter. -/
def startsParam : TokenKind → Bool
  | .name _ | .punct .slash | .punct .star | .punct .doubleStar => true
  | _ => false

namespace Form

/-- Whether a token starts a phrase of a form. -/
def starts : Form → TokenKind → Bool
  | expr l, t => l.starts t
  | element k, t | series k, t | tupled k, t => k.starts t
  | elements _, t | pairs, t | furtherArguments, t | paramItems _, t => t == .punct .comma
  | links, t => (compareOp? t).isSome || t == .word .kNot
  | operands w _, t => t == .word w
  | yielding, t => t == .word .kYield
  | clause, t | clauses, t => t == .word .kFor || t == .word .kAsync
  | conditions, t => t == .word .kIf
  | pair, t => Level.expression.starts t || t == .punct .doubleStar
  | bound, t => Level.expression.starts t
  | stride, t | annot _, t => t == .punct .colon
  | subscripts, t => Element.index.starts t
  | argument, t | argumentList, t => startsArgument t
  | callArguments, t => t == .punct .leftParen
  | param .., .name _ => true
  | param .., _ => false
  | paramItem _, t | params _, t => startsParam t

/-- Whether a phrase of a form may have no tokens. -/
def isOptional : Form → Bool
  | elements _ | pairs | furtherArguments | paramItems _ | links | operands .. | clauses | conditions | bound | stride | annot _
  | params _ => true
  | _ => false

/-- Tokens that begin as a phrase of a form does. -/
inductive Begins (f : Form) : List Token → Prop where
  | none (h : f.isOptional = true) : Begins f []
  | first {t : Token} {ts : List Token} (h : f.starts t.kind = true) : Begins f (t :: ts)

variable {f g : Form} {ts us : List Token}

theorem startsParam_of_name {typed starred : Bool} {t : TokenKind} (h : (param typed starred).starts t = true) :
    startsParam t = true := by
  cases t with
  | name => rfl
  | _ => cases h

theorem pair_starts_of_key {t : TokenKind} (h : Level.expression.starts t = true) : pair.starts t = true := by
  simp [starts, h]

theorem Begins.append (h : f.Begins ts) (required : f.isOptional = false) (imp : ∀ k, f.starts k = true → g.starts k = true) :
    g.Begins (ts ++ us) := by
  cases h with
  | none h => cases required.symm.trans h
  | first h => exact .first (imp _ h)

theorem Begins.mono (h : f.Begins ts) (opt : f.isOptional = true → g.isOptional = true)
    (imp : ∀ k, f.starts k = true → g.starts k = true) : g.Begins ts := by
  cases h with
  | none h => exact .none (opt h)
  | first h => exact .first (imp _ h)

end Form

theorem Phrase.begins {f : Form} {ts : List Token} {v : f.Value} (h : Phrase f ts v) : f.Begins ts := by
  induction h with
  | constant p h => exact .first (Level.startsAtom_of_constant h)
  | @strings ss _ _ _ some_string =>
    cases ss with
    | nil => exact absurd rfl some_string
    | cons s ss => exact .first rfl
  | lift below _ ih => exact ih.mono nofun fun _ => Level.starts_of_below below
  | member _ _ _ _ ih => exact ih.append rfl fun _ => id
  | call _ _ ih => exact ih.append rfl fun _ => id
  | subscript _ _ _ _ ih => exact ih.append rfl fun _ => id
  | power _ _ _ ih => exact ih.append rfl fun _ => id
  | sign _ h => exact .first (by simp [Form.starts, Level.starts, h])
  | binary _ _ _ _ _ ih => exact ih.append rfl fun _ => id
  | compare _ _ _ ih => exact ih.append rfl fun _ => id
  | connected _ below _ _ _ ih => exact ih.append rfl fun _ => Level.starts_of_below below
  | conditional _ _ _ _ _ ih => exact ih.append rfl fun k => Level.starts_of_below (l := .expression) (k := k) rfl
  | noLink | noOperand | noElement | noBound | noStride | noClause | noCondition | noPair | noArgument | noAnnot | noItem
  | noParams => exact .none rfl
  | link operator =>
    cases operator with
    | single _ h => exact .first (by simp [Form.starts, h])
    | isNot => exact .first rfl
    | notIn => exact .first rfl
  | operand => exact .first (by simp [Form.starts])
  | plain _ ih => exact ih.mono nofun fun _ => Element.starts_of_level
  | starred _ h => exact .first (by simp [Form.starts, Element.starts, h])
  | slice _ _ _ _ ih =>
    cases ih with
    | none => exact .first rfl
    | first h => exact .first (Element.starts_of_level (k := .index) (Level.starts_of_below rfl h))
  | series _ _ _ ih => exact ih.append rfl fun _ => id
  | alone _ ih => exact ih.mono nofun fun _ => id
  | together _ ih => exact ih.mono nofun fun _ => id
  | bound _ ih => exact ih.mono nofun fun _ => id
  | index _ _ ih => exact ih.mono nofun fun _ => id
  | indices _ _ ih => exact ih.mono nofun fun _ => id
  | clause _ _ mark =>
    cases mark with
    | none => exact .first rfl
    | some => exact .first rfl
  | furtherClause _ _ ih => exact ih.append rfl fun _ => id
  | entry _ _ _ ih => exact ih.append rfl fun _ => Form.pair_starts_of_key
  | positional _ ih => exact ih.mono nofun fun _ => startsArgument_of_named
  | argumentList _ _ _ _ ih => exact ih.append rfl fun _ => id
  | plainItem _ ih => exact ih.mono nofun fun _ => Form.startsParam_of_name
  | defaultItem _ _ _ ih => exact ih.append rfl fun _ => Form.startsParam_of_name
  | params _ _ _ _ ih => exact ih.append rfl fun _ => id
  | _ => exact .first rfl

/-- No phrase starts with a mark. -/
theorem Form.isMark_of_starts {f : Form} {k : TokenKind} (h : f.starts k = true) : isMark k = false := by
  have unmarked : ∀ l : Level, l.starts k = true → isMark k = false := fun l => Level.isMark_of_starts
  cases k with
  | newline | indent | dedent | stop =>
    exfalso
    cases f with
    | expr l => cases unmarked l h
    | element k | series k | tupled k => cases k <;> exact absurd h (by decide)
    | _ => cases h
  | _ => rfl

section Required

variable {f : Form} {ts : List Token} {v : f.Value}

theorem Phrase.exists_first (h : Phrase f ts v) (required : f.isOptional = false) :
    ∃ t us, ts = t :: us ∧ f.starts t.kind = true := by
  cases h.begins with
  | none optional => cases required.symm.trans optional
  | first starts => exact ⟨_, _, rfl, starts⟩

theorem Phrase.solid (h : Phrase f ts v) (required : f.isOptional = false) : Solid ts := by
  obtain ⟨t, us, rfl, starts⟩ := h.exists_first required
  exact solid_cons (Form.isMark_of_starts starts)

end Required

end CallLint.Source

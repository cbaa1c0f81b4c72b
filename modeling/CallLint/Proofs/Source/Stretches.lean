import CallLint.Proofs.Source.Layout
import CallLint.Proofs.Source.LexerSteps

/-!
# Where calls stand

A phrase closes the brackets it opens and holds no marks (`Phrase.shuts`). A call in the tree of a module is a phrase on a stretch of the
module's tokens, or of those of a field in a format string (`readTree_calls`).
-/

namespace CallLint.Source

open Parse Grammar CallLint.Tree

/-- Whether a token is neither a mark nor a bracket. -/
def isPlain : TokenKind → Bool
  | .punct .leftParen | .punct .rightParen | .punct .leftBracket | .punct .rightBracket | .punct .leftBrace | .punct .rightBrace => false
  | k => !isMark k

theorem isMark_of_isPlain {k : TokenKind} (h : isPlain k = true) : isMark k = false := by
  cases k <;> first | rfl | cases h

theorem nestBrackets_of_isPlain {k : TokenKind} (h : isPlain k = true) (b : List Char) : nestBrackets b k = some b := by
  cases k with
  | punct k => cases k <;> first | rfl | cases h
  | _ => rfl

/-- Tokens without marks that close the brackets `cs` and those they open. -/
inductive Shuts : List Char → List Token → Prop where
  | nil : Shuts [] []
  | openParen {cs ts p} (h : Shuts ('(' :: cs) ts) : Shuts cs (⟨.punct .leftParen, p⟩ :: ts)
  | closeParen {cs ts p} (h : Shuts cs ts) : Shuts ('(' :: cs) (⟨.punct .rightParen, p⟩ :: ts)
  | openBracket {cs ts p} (h : Shuts ('[' :: cs) ts) : Shuts cs (⟨.punct .leftBracket, p⟩ :: ts)
  | closeBracket {cs ts p} (h : Shuts cs ts) : Shuts ('[' :: cs) (⟨.punct .rightBracket, p⟩ :: ts)
  | openBrace {cs ts p} (h : Shuts ('\x7b' :: cs) ts) : Shuts cs (⟨.punct .leftBrace, p⟩ :: ts)
  | closeBrace {cs ts p} (h : Shuts cs ts) : Shuts ('\x7b' :: cs) (⟨.punct .rightBrace, p⟩ :: ts)
  | plain {cs k ts p} (plain : isPlain k = true) (h : Shuts cs ts) : Shuts cs (⟨k, p⟩ :: ts)

namespace Shuts

variable {cs ds : List Char} {ts us : List Token}

theorem append (h : Shuts cs ts) (later : Shuts ds us) : Shuts (cs ++ ds) (ts ++ us) := by
  induction h with
  | nil => exact later
  | plain flat _ ih => exact .plain flat ih
  | _ => constructor; assumption

theorem real (h : Shuts cs ts) : ∀ t ∈ ts, isMark t.kind = false := by
  induction h with
  | nil => nofun
  | plain flat _ ih => exact List.forall_mem_cons.2 ⟨isMark_of_isPlain flat, ih⟩
  | _ => exact List.forall_mem_cons.2 ⟨rfl, by assumption⟩

theorem nest {b b' : List Char} (h : Shuts cs ts) (nests : nestAll (cs ++ b) (ts.map (·.kind)) = some b') : b' = b := by
  induction h with
  | nil => exact (Option.some.inj nests).symm
  | plain flat _ ih => exact ih (by simpa [nestAll, nestBrackets_of_isPlain flat] using nests)
  | openParen _ ih | openBracket _ ih | openBrace _ ih =>
    obtain ⟨b₁, first, later⟩ := Option.bind_eq_some_iff.1 nests
    simp only [nestBrackets, nestBrackets.opened, Option.ite_none_left_eq_some, Option.some.injEq] at first
    obtain ⟨-, rfl⟩ := first
    exact ih later
  | closeParen _ ih | closeBracket _ ih | closeBrace _ ih => exact ih nests

theorem join (h : Shuts [] ts) (later : Shuts cs us) : Shuts cs (ts ++ us) := h.append later

end Shuts

theorem isPlain_of_compareOp? {k : TokenKind} {op : CompareOp} (h : compareOp? k = some op) : isPlain k = true := by
  unfold compareOp? at h
  split at h <;> first | rfl | cases h

theorem isPlain_of_constantOf? {k : TokenKind} {v : Literal} (h : constantOf? k = some v) : isPlain k = true := by
  unfold constantOf? at h
  split at h <;> first | rfl | cases h

theorem isPlain_of_signOp? {k : TokenKind} {op : UnaryOp} (h : signOp? k = some op) : isPlain k = true := by
  unfold signOp? at h
  split at h <;> first | rfl | cases h

theorem isPlain_of_op? {l : Level} {k : TokenKind} {op : BinOp} (h : l.op? k = some op) : isPlain k = true := by
  cases k with
  | punct k => cases l <;> cases k <;> first | rfl | cases h
  | _ => cases l <;> cases h

theorem Comparator.shuts {ts : List Token} {op : CompareOp} (h : Comparator ts op) : Shuts [] ts := by
  cases h with
  | single p h => exact .plain (isPlain_of_compareOp? h) .nil
  | _ => exact .plain rfl (.plain rfl .nil)

theorem Mark.shuts {k : TokenKind} {ts : List Token} {b : Bool} (h : Mark k ts b) (flat : isPlain k = true) : Shuts [] ts := by
  cases h with
  | none => exact .nil
  | some => exact .plain flat .nil

theorem Trailing.shuts {ts : List Token} (h : Trailing ts) : Shuts [] ts := h.elim fun _ mark => mark.shuts rfl

theorem stringTokens_shuts (ss : List (StringToken × Span)) : Shuts [] (stringTokens ss) := by
  induction ss with
  | nil => exact .nil
  | cons s ss ih => exact .plain rfl ih

/-- The brackets of a phrase are closed in it. -/
theorem Phrase.shuts {f : Form} {ts : List Token} {v : f.Value} (h : Phrase f ts v) : Shuts [] ts := by
  induction h with
  | strings => exact stringTokens_shuts _
  | constant p h => exact .plain (isPlain_of_constantOf? h) .nil
  | sign p h _ ih => exact .plain (isPlain_of_signOp? h) ih
  | binary p h _ _ _ left right => exact left.join (.plain (isPlain_of_op? h) right)
  | link operator _ _ operand rest => exact operator.shuts.join (operand.join rest)
  | clause p q mark _ _ _ _ targets iter tests =>
    exact (mark.shuts rfl).join (.plain rfl (targets.join (.plain rfl (iter.join tests))))
  | series _ _ comma first rest | argumentList _ _ comma _ first rest | params _ _ comma _ first rest =>
    exact first.join (rest.join comma.shuts)
  | dict p q _ _ comma first rest => exact .openBrace (first.join (rest.join (comma.shuts.join (.closeBrace .nil))))
  | _ =>
    repeat first
      | assumption
      | exact .nil
      | refine .openParen ?_ | refine .closeParen ?_ | refine .openBracket ?_ | refine .closeBracket ?_
      | refine .openBrace ?_ | refine .closeBrace ?_ | refine .plain rfl ?_ | refine Shuts.join (by assumption) ?_

/-! ### Stretches of tokens -/

/-- The tokens of a field of a string. -/
def FieldOf (us ts : List Token) : Prop :=
  ∃ s p parts f, ⟨.string s, p⟩ ∈ us ∧ s.parts p.start = some parts ∧ f ∈ FormatPart.fieldsOfAll parts ∧ fieldTokens f.1 f.2 = some ts

/-- The tokens of the fields of strings, and of strings in these. -/
inductive InField (all : List Token) : List Token → Prop where
  | here {ts} (h : FieldOf all ts) : InField all ts
  | deeper {us ts} (outer : InField all us) (h : FieldOf us ts) : InField all ts

/-- A stretch of tokens, or of those of a field. -/
def Stretch (all ts : List Token) : Prop := ts <:+: all ∨ ∃ us, InField all us ∧ ts <:+: us

section Stretch

variable {all ts us : List Token}

theorem Stretch.mono (h : Stretch all us) (inner : ts <:+: us) : Stretch all ts :=
  h.imp inner.trans fun ⟨vs, field, sub⟩ => ⟨vs, field, inner.trans sub⟩

theorem Stretch.field {t : Token} (h : Stretch all [t]) {s : StringToken} {p : Span} (string : t = ⟨.string s, p⟩)
    {parts : List FormatPart} {f : List Char × Pos} (parts_eq : s.parts p.start = some parts) (mem : f ∈ FormatPart.fieldsOfAll parts)
    (tokens : fieldTokens f.1 f.2 = some ts) : Stretch all ts := by
  subst string
  rcases h with inside | ⟨us, field, inside⟩
  · exact .inr ⟨ts, .here ⟨s, p, parts, f, inside.subset List.mem_cons_self, parts_eq, mem, tokens⟩, List.infix_rfl⟩
  · exact .inr ⟨ts, .deeper field ⟨s, p, parts, f, inside.subset List.mem_cons_self, parts_eq, mem, tokens⟩, List.infix_rfl⟩

/-- The tokens of a call: those of what is called, and its arguments. -/
inductive CallPhrase : List Token → Expr → Prop where
  | mk {ts us f as} (func : Phrase (.expr .primary) ts f) (args : Phrase .callArguments us as) :
      CallPhrase (ts ++ us) (.call (spanOf (ts ++ us)) f as.1 as.2)

/-- A call is a phrase on a stretch of tokens. -/
def CallOn (all : List Token) (e : Expr) : Prop := ∀ s f as ks, e = .call s f as ks → ∃ ts, CallPhrase ts e ∧ Stretch all ts

/-- The stretches of tokens with the calls on them. -/
def stretches (all : List Token) : Region where
  Has := Stretch all
  At := CallOn all
  inFront h := h.mono (List.prefix_append ..).isInfix
  behind h := h.mono (List.suffix_append ..).isInfix
  field h := h.field rfl
  name _ := nofun
  call {ts us f as} func args on := by
    rintro _ _ _ _ ⟨⟩
    exact ⟨ts ++ us, .mk func args, on⟩
  other _ _ _ other := by
    rintro _ _ _ _ rfl
    cases other
  context _ := nofun
  similar _ _ _ other := by
    rintro _ _ _ _ rfl
    cases other

end Stretch

/-- A call in a tree is a phrase on a stretch of tokens. -/
def IsPhraseOf (all : List Token) (u : Tree) : Prop :=
  u.isA .call = true → ∃ ts e, u = e.toTree ∧ CallPhrase ts e ∧ Stretch all ts

theorem respects_isPhraseOf (all : List Token) : Respects (stretches all) (IsPhraseOf all) where
  other call _ isCall := absurd (isA_iff.1 isCall) (by simpa [cls?] using call)
  name _ isCall := by cases isCall
  call here _ := by
    obtain ⟨ts, phrase, on⟩ := here _ _ _ _ rfl
    exact ⟨ts, _, rfl, phrase, on⟩

/-- Calls of a module that is read are phrases on stretches of its tokens. -/
theorem readTree_calls {source : List Char} {tree : Tree} (h : readTree .module source = .ok tree) :
    ∃ all, lex ⟨1, 0⟩ (Mode.prepare .module source) = some all ∧ tree.Everywhere (IsPhraseOf all) := by
  obtain ⟨ts, ss, rest, lexed, stmts, rfl⟩ := readTree_module h
  refine ⟨ts ++ rest, lexed, everywhere_of_children (by nofun) fun u hu => ?_⟩
  obtain ⟨s, hs, rfl⟩ := List.mem_map.1 (module_children.1 hu)
  refine Stmt.everywhere_of_below (StmtPhrase.trees_below (respects_isPhraseOf _) stmts (.inl (List.prefix_append ..).isInfix) nofun _ ?_)
  exact List.mem_map_of_mem hs

theorem CallPhrase.shuts {ts : List Token} {e : Expr} (h : CallPhrase ts e) : Shuts [] ts := by
  obtain ⟨func, args⟩ := h
  exact func.shuts.join args.shuts

theorem CallPhrase.hasExtent {ts : List Token} {e : Expr} (h : CallPhrase ts e) : e.toTree.HasExtent (spanOf ts).extent := by
  obtain ⟨func, args⟩ := h
  exact ⟨rfl, rfl, rfl, rfl⟩

/-- A call ends with a parenthesis. -/
theorem CallPhrase.last {ts : List Token} {e : Expr} (h : CallPhrase ts e) : ∃ us q, ts = us ++ [⟨.punct .rightParen, q⟩] := by
  obtain @⟨ts, us, f, as, func, args⟩ := h
  cases args with
  | noArguments p q => exact ⟨ts ++ [⟨.punct .leftParen, p⟩], q, by simp⟩
  | @arguments vs _ p q => exact ⟨ts ++ ⟨.punct .leftParen, p⟩ :: vs, q, by simp⟩
  | @generatorArgument vs ws _ _ p q => exact ⟨ts ++ ⟨.punct .leftParen, p⟩ :: (vs ++ ws), q, by simp⟩

end CallLint.Source

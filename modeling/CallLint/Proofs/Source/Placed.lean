import CallLint.Proofs.Source.FormatFields
import CallLint.Proofs.Source.PhraseTokens

/-!
# Where expressions stand

A region says which stretches of tokens it has, and what holds of the constructs that are made of such a stretch. An expression is
placed in it if that holds of it and of everything in it. What phrases stand for is placed where their tokens are (`Phrase.placed`).
The steps of the grammar that read no tokens keep this: turning expressions into targets, parameter lists, and the parts of format
strings. The lines from some line on are a region, in which names are in normal form (`Region.lines`).
-/

namespace CallLint.Source

def Keyword.value : Keyword → Expr
  | .mk _ _ v => v

def Comprehension.exprs : Comprehension → List Expr
  | .mk target iter ifs _ => target :: iter :: ifs

def Param.annot? : Param → Option Expr
  | .mk _ _ a => a

/-- The annotations and defaults of a parameter list. -/
def Params.exprs : Params → List Expr
  | .mk posonly args vararg kwonly kwDefaults kwarg defaults =>
    (posonly ++ args ++ vararg.toList ++ kwonly ++ kwarg.toList).filterMap Param.annot? ++ kwDefaults.filterMap id ++ defaults

/-- The expressions right below an expression. -/
def Expr.parts : Expr → List Expr
  | .boolOp _ _ es | .set _ es | .joined _ es | .list _ es _ | .tuple _ es _ => es
  | .named _ a b | .binOp _ a _ b | .subscript _ a b _ => [a, b]
  | .unaryOp _ _ e | .await _ e | .yieldFrom _ e | .member _ e _ _ | .starred _ e _ => [e]
  | .lambda _ ps body => body :: ps.exprs
  | .ifExp _ test body orelse => [test, body, orelse]
  | .dict _ keys values => keys.filterMap id ++ values
  | .listComp _ e gs | .setComp _ e gs | .generator _ e gs => e :: gs.flatMap Comprehension.exprs
  | .dictComp _ key value gs => key :: value :: gs.flatMap Comprehension.exprs
  | .yield _ e => e.toList
  | .compare _ left _ es => left :: es
  | .call _ f args keywords => f :: (args ++ keywords.map Keyword.value)
  | .formatted _ e _ spec => e :: spec.toList
  | .constant .. | .name .. => []
  | .slice _ lower upper step => lower.toList ++ upper.toList ++ step.toList

/-- Whether an expression is neither a name nor a call. -/
def Expr.isOther : Expr → Bool
  | .name .. | .call .. => false
  | _ => true

/-- Stretches of tokens, and a property of the constructs that are made of them. -/
structure Region where
  Has : List Token → Prop
  At : Expr → Prop
  inFront : ∀ {ts us}, Has (ts ++ us) → Has ts
  behind : ∀ {ts us}, Has (ts ++ us) → Has us
  field : ∀ {s p parts f ts}, Has [⟨.string s, p⟩] → s.parts p.start = some parts → f ∈ FormatPart.fieldsOfAll parts →
    Grammar.fieldTokens f.1 f.2 = some ts → Has ts
  name : ∀ {w p c}, Has [⟨.name w, p⟩] → At (.name p (Text.ofChars (Text.normalForm w)) c)
  call : ∀ {ts us f as}, Phrase (.expr .primary) ts f → Phrase .callArguments us as → Has (ts ++ us) →
    At (.call (spanOf (ts ++ us)) f as.1 as.2)
  other : ∀ {ts e}, e.span = spanOf ts → ts ≠ [] → Has ts → e.isOther = true → At e
  -- what becomes a target keeps its span
  context : ∀ {s id c c'}, At (.name s id c) → At (.name s id c')
  similar : ∀ {e t}, At e → t.span = e.span → e.isOther = true → t.isOther = true → At t

namespace Region.Has

variable {l : Region} {t : Token} {ts us : List Token}

theorem left (h : l.Has (ts ++ us)) : l.Has ts := l.inFront h

theorem right (h : l.Has (ts ++ us)) : l.Has us := l.behind h

theorem head (h : l.Has (t :: ts)) : l.Has [t] := Has.left (show l.Has ([t] ++ ts) from h)

theorem tail (h : l.Has (t :: ts)) : l.Has ts := Has.right (show l.Has ([t] ++ ts) from h)

end Region.Has

/-- An expression in a region, with all its parts. -/
inductive Expr.Placed (l : Region) : Expr → Prop where
  | mk {e : Expr} (here : l.At e) (parts : ∀ c ∈ e.parts, Expr.Placed l c) : Expr.Placed l e

section Placed

variable {l : Region}

theorem Expr.Placed.here {e : Expr} (h : e.Placed l) : l.At e := by
  cases h with
  | mk here _ => exact here

theorem Expr.Placed.part {e c : Expr} (h : e.Placed l) (hc : c ∈ e.parts) : c.Placed l := by
  cases h with
  | mk _ parts => exact parts c hc

mutual

/-- A target stands where the expression does. -/
theorem Expr.Placed.toTarget {ctx : Context} : (e : Expr) → {t : Expr} → e.Placed l → e.toTarget? ctx = some t → t.Placed l
  | .name s id c, t, h, eq => by
    cases eq
    exact .mk (l.context h.here) nofun
  | .member s value attr c, t, h, eq => by
    cases eq
    exact .mk (l.similar h.here rfl rfl rfl) fun _ mem => h.part mem
  | .subscript s value index c, t, h, eq => by
    cases eq
    exact .mk (l.similar h.here rfl rfl rfl) fun _ mem => h.part mem
  | .starred s value c, t, h, eq => by
    rw [Expr.toTarget?] at eq
    split at eq
    · obtain ⟨v, hv, rfl⟩ := Option.map_eq_some_iff.1 eq
      refine .mk (l.similar h.here rfl rfl rfl) (List.forall_mem_singleton.2 ?_)
      exact Expr.Placed.toTarget value (h.part List.mem_cons_self) hv
    · cases eq
  | .tuple s elts c, t, h, eq => by
    rw [Expr.toTarget?] at eq
    obtain ⟨ts, hts, rfl⟩ := Option.map_eq_some_iff.1 eq
    exact .mk (l.similar h.here rfl rfl rfl) (Expr.Placed.toTargets elts (fun e he => h.part he) hts)
  | .list s elts c, t, h, eq => by
    rw [Expr.toTarget?] at eq
    obtain ⟨ts, hts, rfl⟩ := Option.map_eq_some_iff.1 eq
    exact .mk (l.similar h.here rfl rfl rfl) (Expr.Placed.toTargets elts (fun e he => h.part he) hts)
  | .boolOp .., _, _, eq | .named .., _, _, eq | .binOp .., _, _, eq | .unaryOp .., _, _, eq | .lambda .., _, _, eq
  | .ifExp .., _, _, eq | .dict .., _, _, eq | .set .., _, _, eq | .listComp .., _, _, eq | .setComp .., _, _, eq
  | .dictComp .., _, _, eq | .generator .., _, _, eq | .await .., _, _, eq | .yield .., _, _, eq | .yieldFrom .., _, _, eq
  | .compare .., _, _, eq | .call .., _, _, eq | .formatted .., _, _, eq | .joined .., _, _, eq | .constant .., _, _, eq
  | .slice .., _, _, eq => by cases eq

theorem Expr.Placed.toTargets {ctx : Context} : (es : List Expr) → {ts : List Expr} → (∀ e ∈ es, e.Placed l) →
    Expr.toTargets? ctx es = some ts → ∀ t ∈ ts, t.Placed l
  | [], ts, _, eq => by
    cases eq
    simp
  | e :: es, ts, h, eq => by
    obtain ⟨he, hes⟩ := List.forall_mem_cons.1 h
    rw [Expr.toTargets?] at eq
    split at eq
    · next t us ht hus =>
      cases eq
      exact List.forall_mem_cons.2 ⟨Expr.Placed.toTarget e he ht, Expr.Placed.toTargets es hes hus⟩
    · cases eq

end

theorem Expr.Placed.toSingleTarget {e t : Expr} (h : e.Placed l) (eq : e.toSingleTarget? = some t) : t.Placed l := by
  cases e with
  | name s id c =>
    cases eq
    exact .mk (l.context h.here) nofun
  | member s value attr c =>
    cases eq
    exact .mk (l.similar h.here rfl rfl rfl) fun _ mem => h.part mem
  | subscript s value index c =>
    cases eq
    exact .mk (l.similar h.here rfl rfl rfl) fun _ mem => h.part mem
  | _ => cases eq

end Placed

namespace Grammar

/-! ### Parameter lists -/

/-- The annotation and the default of an item of a parameter list. -/
def ParamItem.exprs : ParamItem → List Expr
  | .plain p d => p.annot?.toList ++ d.toList
  | .starred p | .doubleStarred p => p.annot?.toList
  | .slash | .star => []

/-- A plain parameter and its default among some items. -/
def PlainIn (items : List ParamItem) (q : Param × Option Expr) : Prop := .plain q.1 q.2 ∈ items

theorem takePlain_mem (items : List ParamItem) :
    (∀ q ∈ (takePlain items).1, PlainIn items q) ∧ ∀ i ∈ (takePlain items).2, i ∈ items := by
  induction items with
  | nil => simp [takePlain]
  | cons i items ih =>
    cases i with
    | plain p d =>
      refine ⟨List.forall_mem_cons.2 ⟨List.mem_cons_self, fun q hq => ?_⟩, fun i hi => ?_⟩
      · exact List.mem_cons_of_mem _ (ih.1 q hq)
      · exact List.mem_cons_of_mem _ (ih.2 i hi)
    | _ => simp [takePlain]

theorem mem_of_mapM_eq_some {α β : Type} {f : α → Option β} {as : List α} {bs : List β} (h : as.mapM f = some bs) {b : β}
    (hb : b ∈ bs) : ∃ a ∈ as, f a = some b := by
  induction as generalizing bs with
  | nil =>
    cases h
    cases hb
  | cons a as ih =>
    rw [List.mapM_cons] at h
    obtain ⟨c, hc, h⟩ := Option.bind_eq_some_iff.1 h
    obtain ⟨cs, hcs, h⟩ := Option.bind_eq_some_iff.1 h
    cases h
    rcases List.mem_cons.1 hb with rfl | hb
    · exact ⟨a, List.mem_cons_self, hc⟩
    · obtain ⟨a', ha', eq⟩ := ih hcs hb
      exact ⟨a', List.mem_cons_of_mem a ha', eq⟩

/-- The default of a parameter is a part of its item. -/
theorem PlainIn.default_mem {items : List ParamItem} {q : Param × Option Expr} (h : PlainIn items q) {e : Expr}
    (he : q.2 = some e) : ∃ i ∈ items, e ∈ i.exprs :=
  ⟨_, h, by simp [ParamItem.exprs, he]⟩

theorem PlainIn.annot_mem {items : List ParamItem} {q : Param × Option Expr} (h : PlainIn items q) {e : Expr}
    (he : q.1.annot? = some e) : ∃ i ∈ items, e ∈ i.exprs :=
  ⟨_, h, by simp [ParamItem.exprs, he]⟩

theorem splitSlash_mem {items : List ParamItem} {r : List (Param × Option Expr) × List (Param × Option Expr) × List ParamItem}
    (h : splitSlash items = some r) : (∀ q ∈ r.1 ++ r.2.1, PlainIn items q) ∧ ∀ i ∈ r.2.2, i ∈ items := by
  obtain ⟨plain, later⟩ := takePlain_mem items
  unfold splitSlash at h
  simp only at h
  split at h
  · next behind eq =>
    split at h
    · cases h
    · cases h
      have inside : ∀ i ∈ behind, i ∈ items := fun i hi => later i (eq ▸ List.mem_cons_of_mem _ hi)
      obtain ⟨plain', later'⟩ := takePlain_mem behind
      refine ⟨fun q hq => ?_, fun i hi => inside i (later' i hi)⟩
      rcases List.mem_append.1 hq with hq | hq
      · exact plain q hq
      · exact inside _ (plain' q hq)
  · cases h
    exact ⟨by simpa using plain, later⟩

theorem splitStar_mem {items : List ParamItem} {r : Option Param × List (Param × Option Expr) × List ParamItem}
    (h : splitStar items = some r) :
    (∀ p ∈ r.1, .starred p ∈ items) ∧ (∀ q ∈ r.2.1, PlainIn items q) ∧ ∀ i ∈ r.2.2, i ∈ items := by
  have behind : ∀ (first : ParamItem) (others : List ParamItem),
      (∀ q ∈ (takePlain others).1, PlainIn (first :: others) q) ∧ ∀ i ∈ (takePlain others).2, i ∈ first :: others := by
    intro first others
    obtain ⟨plain, later⟩ := takePlain_mem others
    exact ⟨fun q hq => List.mem_cons_of_mem _ (plain q hq), fun i hi => List.mem_cons_of_mem _ (later i hi)⟩
  unfold splitStar at h
  split at h
  · next others =>
    split at h
    · cases h
    · cases h
      exact ⟨by simp, behind _ others⟩
  · next p others =>
    cases h
    exact ⟨by simp, behind _ others⟩
  · cases h
    simp

theorem closingParam_mem {items : List ParamItem} {kwarg : Option Param} (h : closingParam items = some kwarg) :
    ∀ p ∈ kwarg, .doubleStarred p ∈ items := by
  unfold closingParam at h
  split at h
  · cases h
    simp
  · cases h
    simp
  · cases h

/-- The expressions of a parameter list are those of its items. -/
theorem assembleParams_exprs {items : List ParamItem} {ps : Params} (h : assembleParams items = some ps) {e : Expr}
    (he : e ∈ ps.exprs) : ∃ i ∈ items, e ∈ i.exprs := by
  unfold assembleParams at h
  split at h
  · cases h
  next posonly args rest slash =>
  split at h
  · next defaults vararg kwonly closing trailing star =>
    obtain ⟨kwarg, closed, rfl⟩ := Option.map_eq_some_iff.1 h
    obtain ⟨positional, later⟩ := splitSlash_mem slash
    obtain ⟨starred, keyword, last⟩ := splitStar_mem star
    have doubled := closingParam_mem closed
    have keyword' : ∀ q ∈ kwonly, PlainIn items q := fun q hq => later _ (keyword q hq)
    simp only [Params.exprs, List.mem_append, List.mem_filterMap, List.mem_map, Option.mem_toList, id] at he
    rcases he with (⟨p, ((((⟨q, hq, rfl⟩ | ⟨q, hq, rfl⟩) | hp) | ⟨q, hq, rfl⟩) | hp), annot⟩ | ⟨d, ⟨q, hq, rfl⟩, default⟩) | he
    · exact (positional q (List.mem_append_left _ hq)).annot_mem annot
    · exact (positional q (List.mem_append_right _ hq)).annot_mem annot
    · exact ⟨_, later _ (starred p hp), by simp [ParamItem.exprs, annot]⟩
    · exact (keyword' q hq).annot_mem annot
    · exact ⟨_, later _ (last _ (doubled p hp)), by simp [ParamItem.exprs, annot]⟩
    · exact (keyword' q hq).default_mem default
    · obtain ⟨q, hq, default⟩ := mem_of_mapM_eq_some trailing he
      exact (positional q ((List.dropWhile_sublist _).subset hq)).default_mem default
  · cases h

/-! ### Format strings -/

section Strings

variable {l : Region} {read : List Char → Pos → Option Expr} {whole token : Origin}

/-- Whether the parts of a string that have the span of `o` are in a region. -/
def Origin.In (o : Origin) (l : Region) : Prop := ∀ {e : Expr}, e.span = o.span → e.isOther = true → l.At e

theorem Joining.flushed_placed {o : Origin} {j : Joining} (at_ : o.In l) (h : ∀ e ∈ j.parts, e.Placed l) :
    ∀ e ∈ j.flushed o, e.Placed l := by
  unfold Joining.flushed
  split
  · exact h
  · exact List.forall_mem_cons.2 ⟨.mk (at_ rfl rfl) nofun, h⟩

theorem Joining.finish_placed {o : Origin} {j : Joining} (at_ : o.In l) (h : ∀ e ∈ j.parts, e.Placed l) : (j.finish o).Placed l :=
  .mk (at_ rfl rfl) fun e he => flushed_placed at_ h e (List.mem_reverse.1 he)

/-- What is read in some fields is in a region. -/
def PlacesFields (l : Region) (read : List Char → Pos → Option Expr) (fs : List (List Char × Pos)) : Prop :=
  ∀ f ∈ fs, ∀ {v}, read f.1 f.2 = some v → v.Placed l

mutual

theorem joinPart_placed (atWhole : whole.In l) (atToken : token.In l) : (p : FormatPart) → {j k : Joining} →
    joinPart read whole token p j = some k → PlacesFields l read p.fields → (∀ e ∈ j.parts, e.Placed l) →
    ∀ e ∈ k.parts, e.Placed l
  | .literal t, j, k, run, _, before => by
    cases run
    exact before
  | .field source pos echo conversion spec, j, k, run, fields, before => by
    rw [FormatPart.fields] at fields
    obtain ⟨here, inSpec⟩ := List.forall_mem_cons.1 fields
    unfold joinPart at run
    split at run
    · next value spec' hvalue hspec =>
      cases run
      have specPlaced := joinSpec_placed atWhole atToken spec hspec inSpec
      refine List.forall_mem_cons.2 ⟨.mk (atWhole rfl rfl) ?_, Joining.flushed_placed atWhole before⟩
      exact List.forall_mem_cons.2 ⟨here hvalue, fun e he => specPlaced e (Option.mem_toList.1 he)⟩
    · cases run

theorem joinSpec_placed (atWhole : whole.In l) (atToken : token.In l) : (spec : Option (List FormatPart)) → {e : Option Expr} →
    joinSpec read whole token spec = some e → PlacesFields l read (FormatPart.fieldsOfSpec spec) → ∀ x ∈ e, x.Placed l
  | none, e, run, _ => by
    cases run
    nofun
  | some parts, e, run, fields => by
    unfold joinSpec at run
    obtain ⟨j, joined, rfl⟩ := Option.map_eq_some_iff.1 run
    rintro x ⟨⟩
    exact Joining.finish_placed atToken (joinParts_placed atWhole atToken parts joined fields nofun)

theorem joinParts_placed (atWhole : whole.In l) (atToken : token.In l) : (ps : List FormatPart) → {j k : Joining} →
    joinParts read whole token ps j = some k → PlacesFields l read (FormatPart.fieldsOfAll ps) →
    (∀ e ∈ j.parts, e.Placed l) → ∀ e ∈ k.parts, e.Placed l
  | [], j, k, run, _, before => by
    cases run
    exact before
  | p :: ps, j, k, run, fields, before => by
    rw [FormatPart.fieldsOfAll] at fields
    obtain ⟨first, rest⟩ := List.forall_mem_append.1 fields
    unfold joinParts at run
    split at run
    · cases run
    · next joined =>
      exact joinParts_placed atWhole atToken ps run rest (joinPart_placed atWhole atToken p joined first before)

end

theorem joinToken_placed {t : StringToken} {s : Span} {j k : Joining} (atWhole : whole.In l) (on : l.Has [⟨.string t, s⟩])
    (run : joinToken read whole j t s = some k)
    (fields : ∀ {parts}, t.parts s.start = some parts → PlacesFields l read (FormatPart.fieldsOfAll parts))
    (before : ∀ e ∈ j.parts, e.Placed l) : ∀ e ∈ k.parts, e.Placed l := by
  unfold joinToken at run
  split at run
  · split at run
    · cases run
    · next parts =>
      have atToken : Origin.In ⟨s, t.isUnicode⟩ l := by
        intro e span other
        have here : e.span = spanOf [⟨.string t, s⟩] := span
        exact l.other here (List.cons_ne_nil _ _) on other
      exact joinParts_placed atWhole atToken _ run (fields parts) before
  · obtain ⟨_, -, rfl⟩ := Option.map_eq_some_iff.1 run
    exact before

theorem joinTokens_placed {ss : List (StringToken × Span)} {j k : Joining} (atWhole : whole.In l) (on : l.Has (stringTokens ss))
    (run : ss.foldlM (fun j t => joinToken read whole j t.1 t.2) j = some k)
    (fields : ∀ s ∈ ss, ∀ {parts}, s.1.parts s.2.start = some parts → PlacesFields l read (FormatPart.fieldsOfAll parts))
    (before : ∀ e ∈ j.parts, e.Placed l) : ∀ e ∈ k.parts, e.Placed l := by
  induction ss generalizing j with
  | nil =>
    cases run
    exact before
  | cons s ss ih =>
    obtain ⟨first, rest⟩ := List.forall_mem_cons.1 fields
    rw [List.foldlM_cons] at run
    obtain ⟨j', joined, run⟩ := Option.bind_eq_some_iff.1 run
    exact ih on.tail run rest (joinToken_placed atWhole on.head joined first before)

end Strings

/-- Strings stand where their tokens do, if what is read in their fields stands in the region. -/
theorem stringsExpr_placed {l : Region} {read : List Char → Pos → Option Expr} {ss : List (StringToken × Span)} {e : Expr}
    (run : stringsExpr read (spanOf (stringTokens ss)) ss = some e) (some_string : stringTokens ss ≠ []) (on : l.Has (stringTokens ss))
    (fields : ∀ s ∈ ss, ∀ {parts}, s.1.parts s.2.start = some parts → PlacesFields l read (FormatPart.fieldsOfAll parts)) :
    e.Placed l := by
  have atWhole : ∀ {e : Expr}, e.span = spanOf (stringTokens ss) → e.isOther = true → l.At e :=
    fun span other => l.other span some_string on other
  unfold stringsExpr at run
  simp only at run
  split at run
  · obtain ⟨bs, -, rfl⟩ := Option.map_eq_some_iff.1 run
    exact .mk (atWhole rfl rfl) nofun
  split at run
  · cases run
  split at run
  · cases run
  next folded =>
  split at run
  · cases run
    exact Joining.finish_placed atWhole (joinTokens_placed atWhole on folded fields nofun)
  · cases run
    exact .mk (atWhole rfl rfl) nofun

end Grammar

/-! ### Phrases -/

def argumentValue : Expr ⊕ Keyword → Expr
  | .inl e => e
  | .inr k => k.value

/-- The expressions right below what a phrase stands for, or that itself if it is one. -/
def Form.exprs : (f : Form) → f.Value → List Expr
  | expr _, e | element _, e | tupled _, e | yielding, e | subscripts, e => [e]
  | elements _, es | operands .., es | conditions, es => es
  | series _, p => p.1
  | links, ls => ls.map (·.2)
  | clause, g => g.exprs
  | clauses, gs => gs.flatMap Comprehension.exprs
  | pair, p => p.1.toList ++ [p.2]
  | pairs, ps => ps.flatMap fun p => p.1.toList ++ [p.2]
  | bound, o | stride, o | annot _, o => o.toList
  | argument, a => [argumentValue a]
  | furtherArguments, as => as.map argumentValue
  | argumentList, p | callArguments, p => p.1 ++ p.2.map Keyword.value
  | param .., p => p.annot?.toList
  | paramItem _, i => i.exprs
  | paramItems _, is => is.flatMap Grammar.ParamItem.exprs
  | params _, ps => ps.exprs

section Phrases

variable {l : Region} {ts us : List Token}

theorem Phrase.ne_nil {f : Form} {v : f.Value} (h : Phrase f ts v) (required : f.isOptional = false) : ts ≠ [] := by
  obtain ⟨t, us, rfl, -⟩ := h.exists_first required
  exact List.cons_ne_nil t us

/-- A construct that spans its tokens stands where they do. -/
theorem Expr.Placed.over {e : Expr} (span : e.span = spanOf ts) (h : ts ≠ []) (on : l.Has ts) (other : e.isOther = true)
    (parts : ∀ c ∈ e.parts, c.Placed l) : e.Placed l :=
  .mk (l.other span h on other) parts

theorem spanOf_single {k : TokenKind} {p : Span} (h : Parse.isMark k = false) : spanOf [⟨k, p⟩] = p := by
  simp [spanOf, endOf, h]

theorem mem_pairs_of_mem_dict {ps : List (Option Expr × Expr)} {e : Expr}
    (h : e ∈ (ps.map (·.1)).filterMap id ++ ps.map (·.2)) : e ∈ Form.pairs.exprs ps := by
  simp only [Form.exprs, List.mem_append, List.mem_filterMap, List.mem_flatMap, List.mem_map] at h ⊢
  rcases h with ⟨_, ⟨p, hp, rfl⟩, eq⟩ | ⟨p, hp, rfl⟩
  · exact ⟨p, hp, Or.inl (Option.mem_toList.2 eq)⟩
  · exact ⟨p, hp, Or.inr List.mem_cons_self⟩

/-- The values of arguments. -/
def Grammar.Arguments.values (a : Grammar.Arguments) : List Expr := a.args ++ a.keywords.map Keyword.value

section Arguments

variable {P : Expr → Prop} {a b : Grammar.Arguments}

theorem Grammar.Arguments.values_add {x : Expr ⊕ Keyword} (h : a.add? x = some b) (before : ∀ e ∈ a.values, P e)
    (added : P (argumentValue x)) : ∀ e ∈ b.values, P e := by
  obtain ⟨positional, keywords⟩ := List.forall_mem_append.1 before
  unfold Grammar.Arguments.add? at h
  split at h
  · split at h
    · cases h
      exact List.forall_mem_append.2 ⟨List.forall_mem_cons.2 ⟨added, positional⟩, keywords⟩
    · cases h
  · cases h
    exact List.forall_mem_append.2 ⟨positional, List.forall_mem_cons.2 ⟨added, keywords⟩⟩
  · cases h
    exact List.forall_mem_append.2 ⟨positional, List.forall_mem_cons.2 ⟨added, keywords⟩⟩

theorem Grammar.Arguments.values_foldlM {xs : List (Expr ⊕ Keyword)} (h : xs.foldlM Grammar.Arguments.add? a = some b)
    (before : ∀ e ∈ a.values, P e) (added : ∀ x ∈ xs, P (argumentValue x)) : ∀ e ∈ b.values, P e := by
  induction xs generalizing a with
  | nil =>
    cases h
    exact before
  | cons x xs ih =>
    obtain ⟨first, rest⟩ := List.forall_mem_cons.1 added
    rw [List.foldlM_cons] at h
    obtain ⟨c, added, h⟩ := Option.bind_eq_some_iff.1 h
    exact ih h (values_add added before first) rest

end Arguments

/-- What a phrase stands for stands where its tokens do. -/
theorem Phrase.placed {f : Form} {v : f.Value} (h : Phrase f ts v) (on : l.Has ts) : ∀ e ∈ f.exprs v, e.Placed l := by
  induction h with
  | name w p => exact List.forall_mem_singleton.2 (.mk (l.name on) nofun)
  | constant p h =>
    have solid := Level.isMark_of_starts (l := .atom) (Level.startsAtom_of_constant h)
    have span := (spanOf_single (p := p) solid).symm
    exact List.forall_mem_singleton.2 (.over span (List.cons_ne_nil _ _) on rfl nofun)
  | @strings ss e read field some_string _ lexes join ih =>
    have notEmpty : stringTokens ss ≠ [] := by simpa [stringTokens] using some_string
    refine List.forall_mem_singleton.2 (Grammar.stringsExpr_placed join notEmpty on fun s hs parts found f hf v run => ?_)
    obtain ⟨p, rest, lexed⟩ := lexes f.1 f.2 v run
    obtain ⟨before, after, rfl⟩ := List.append_of_mem hs
    rw [stringTokens, List.map_append] at on
    have here : l.Has [⟨.string s.1, s.2⟩] := on.right.head
    exact ih f.1 f.2 v run (l.field here found hf lexed).left v List.mem_cons_self
  | unit | nil | emptyDict => exact List.forall_mem_singleton.2 (.over rfl (List.cons_ne_nil _ _) on rfl nofun)
  | group _ _ _ ih | yielded _ _ _ ih => exact ih on.tail.left
  | tuple _ _ _ ih | list _ _ _ ih | set _ _ _ ih =>
    exact List.forall_mem_singleton.2 (.over rfl (List.cons_ne_nil _ _) on rfl (ih on.tail.left))
  | generator _ _ _ _ _ ih ih' | listComp _ _ _ _ _ ih ih' | setComp _ _ _ _ _ ih ih' =>
    refine List.forall_mem_singleton.2 (.over rfl (List.cons_ne_nil _ _) on rfl ?_)
    exact List.forall_mem_cons.2 ⟨ih on.tail.left _ List.mem_cons_self, ih' on.tail.right.left⟩
  | dict _ _ _ _ _ ih ih' =>
    refine List.forall_mem_singleton.2 (.over rfl (List.cons_ne_nil _ _) on rfl fun e he => ?_)
    exact List.forall_mem_append.2 ⟨ih on.tail.left, ih' on.tail.right.left⟩ e (mem_pairs_of_mem_dict he)
  | dictComp _ _ _ _ _ _ _ ih ih' ih'' =>
    refine List.forall_mem_singleton.2 (.over rfl (List.cons_ne_nil _ _) on rfl ?_)
    exact List.forall_mem_cons.2 ⟨ih on.tail.left _ List.mem_cons_self,
      List.forall_mem_cons.2 ⟨ih' on.tail.right.tail.left _ List.mem_cons_self, ih'' on.tail.right.tail.right.left⟩⟩
  | lift _ _ ih | plain _ ih | alone _ ih | bound _ ih | index _ _ ih | positional _ ih => exact ih on
  | plainItem _ ih => exact List.forall_mem_append.2 ⟨ih on, nofun⟩
  | member _ _ _ value ih =>
    refine List.forall_mem_singleton.2 (.over rfl (List.append_ne_nil_of_left_ne_nil (value.ne_nil rfl) _) on rfl ?_)
    exact ih on.left
  | call func args ih ih' =>
    refine List.forall_mem_singleton.2 (.mk (l.call func args on) ?_)
    exact List.forall_mem_cons.2 ⟨ih on.left _ List.mem_cons_self, ih' on.right⟩
  | subscript _ _ value _ ih ih' =>
    refine List.forall_mem_singleton.2 (.over rfl (List.append_ne_nil_of_left_ne_nil (value.ne_nil rfl) _) on rfl ?_)
    exact List.forall_mem_cons.2 ⟨ih on.left _ List.mem_cons_self, ih' on.right.tail.left⟩
  | await _ _ ih | sign _ _ _ ih | negation _ _ ih | starred _ _ _ ih | starredArgument _ _ ih =>
    exact List.forall_mem_singleton.2 (.over rfl (List.cons_ne_nil _ _) on rfl (ih on.tail))
  | power _ base _ ih ih' | binary _ _ _ base _ ih ih' =>
    refine List.forall_mem_singleton.2 (.over rfl (List.append_ne_nil_of_left_ne_nil (base.ne_nil rfl) _) on rfl ?_)
    exact List.forall_mem_cons.2 ⟨ih on.left _ List.mem_cons_self, ih' on.right.tail⟩
  | compare left _ _ ih ih' | connected _ _ left _ _ ih ih' =>
    refine List.forall_mem_singleton.2 (.over rfl (List.append_ne_nil_of_left_ne_nil (left.ne_nil rfl) _) on rfl ?_)
    exact List.forall_mem_cons.2 ⟨ih on.left _ List.mem_cons_self, ih' on.right⟩
  | lambda _ _ _ _ ih ih' =>
    refine List.forall_mem_singleton.2 (.over rfl (List.cons_ne_nil _ _) on rfl ?_)
    exact List.forall_mem_cons.2 ⟨ih' on.tail.right.tail _ List.mem_cons_self, ih on.tail.left⟩
  | conditional _ _ body _ _ ih ih' ih'' =>
    refine List.forall_mem_singleton.2 (.over rfl (List.append_ne_nil_of_left_ne_nil (body.ne_nil rfl) _) on rfl ?_)
    exact List.forall_mem_cons.2 ⟨ih' on.right.tail.left _ List.mem_cons_self,
      List.forall_mem_cons.2 ⟨ih on.left _ List.mem_cons_self, ih'' on.right.tail.right.tail⟩⟩
  | assigned _ _ _ _ ih =>
    refine List.forall_mem_singleton.2 (.over rfl (List.cons_ne_nil _ _) on rfl ?_)
    exact List.forall_mem_cons.2 ⟨.mk (l.name on.head) nofun, ih on.tail.tail⟩
  | noLink | noOperand | noElement | noBound | noStride | noClause | noCondition | noPair | noArgument | noAnnot | noItem
  | noParams | noArguments | slashItem | starItem => nofun
  | link _ _ _ ih ih' => exact List.forall_mem_cons.2 ⟨ih on.right.left _ List.mem_cons_self, ih' on.right.right⟩
  | operand _ _ _ ih ih' | furtherElement _ _ _ ih ih' | condition _ _ _ ih ih' | furtherArgument _ _ _ ih ih' =>
    exact List.forall_mem_cons.2 ⟨ih on.tail.left _ List.mem_cons_self, ih' on.tail.right⟩
  | furtherPair _ _ _ ih ih' | furtherItem _ _ _ ih ih' => exact List.forall_mem_append.2 ⟨ih on.tail.left, ih' on.tail.right⟩
  | furtherClause _ _ ih ih' => exact List.forall_mem_append.2 ⟨ih on.left, ih' on.right⟩
  | slice _ _ _ _ ih ih' ih'' =>
    refine List.forall_mem_singleton.2 (.over rfl (List.append_ne_nil_of_right_ne_nil _ (List.cons_ne_nil _ _)) on rfl ?_)
    exact List.forall_mem_append.2 ⟨List.forall_mem_append.2 ⟨ih on.left, ih' on.right.tail.left⟩, ih'' on.right.tail.right⟩
  | series _ _ _ ih ih' => exact List.forall_mem_cons.2 ⟨ih on.left _ List.mem_cons_self, ih' on.right.left⟩
  | together inner ih | indices inner _ ih =>
    exact List.forall_mem_singleton.2 (.over rfl (inner.ne_nil rfl) on rfl (ih on))
  | stride _ _ ih | annot _ _ ih | starredAnnot _ _ ih | starredItem _ _ ih | doubleStarredItem _ _ ih | param _ _ _ _ ih
  | unpacked _ _ ih | mapping _ _ ih => exact ih on.tail
  | yieldNone => exact List.forall_mem_singleton.2 (.over rfl (List.cons_ne_nil _ _) on rfl nofun)
  | yieldValue _ _ ih => exact List.forall_mem_singleton.2 (.over rfl (List.cons_ne_nil _ _) on rfl (ih on.tail))
  | yieldFrom _ _ _ ih => exact List.forall_mem_singleton.2 (.over rfl (List.cons_ne_nil _ _) on rfl (ih on.tail.tail))
  | clause _ _ _ _ h _ _ ih ih' ih'' =>
    have target := (ih on.right.tail.left _ List.mem_cons_self).toTarget _ h
    have behind := on.right.tail.right.tail
    exact List.forall_mem_cons.2 ⟨target, List.forall_mem_cons.2 ⟨ih' behind.left _ List.mem_cons_self, ih'' behind.right⟩⟩
  | entry _ _ _ ih ih' => exact List.forall_mem_cons.2 ⟨ih on.left _ List.mem_cons_self, ih' on.right.tail⟩
  | keyword _ _ _ _ ih => exact ih on.tail.tail
  | argumentList _ _ _ h ih ih' =>
    have values := Grammar.Arguments.values_foldlM h (P := (Expr.Placed l ·)) nofun <|
      List.forall_mem_cons.2 ⟨ih on.left _ List.mem_cons_self, List.forall_mem_map.1 (ih' on.right.left)⟩
    obtain ⟨positional, keywords⟩ := List.forall_mem_append.1 values
    refine List.forall_mem_append.2 ⟨fun e he => positional e (List.mem_reverse.1 he), ?_⟩
    rw [List.map_reverse]
    exact fun e he => keywords e (List.mem_reverse.1 he)
  | arguments _ _ _ ih => exact ih on.tail.left
  | generatorArgument _ _ _ _ _ ih ih' =>
    refine List.forall_mem_singleton.2 (.over rfl (List.cons_ne_nil _ _) on rfl ?_)
    exact List.forall_mem_cons.2 ⟨ih on.tail.left _ List.mem_cons_self, ih' on.tail.right.left⟩
  | defaultItem _ _ _ ih ih' => exact List.forall_mem_append.2 ⟨ih on.left, ih' on.right.tail⟩
  | params _ _ _ h ih ih' =>
    intro e he
    obtain ⟨i, hi, he⟩ := Grammar.assembleParams_exprs h he
    rcases List.mem_cons.1 hi with rfl | hi
    · exact ih on.left e he
    · exact ih' on.right.left e (List.mem_flatMap.2 ⟨i, hi, he⟩)

end Phrases

/-! ### Lines -/

section Lines

variable {l : Nat} {ts : List Token}

theorem line_le_spanOf (h : ts ≠ []) (on : ∀ t ∈ ts, t.On l) : l ≤ (spanOf ts).start.line := by
  cases ts with
  | nil => exact absurd rfl h
  | cons t ts => exact (on t List.mem_cons_self).line

theorem unshiftToken_on {pos : Pos} {t : Token} (h : t.On pos.line) : (Grammar.unshiftToken pos t).On pos.line := by
  unfold Grammar.unshiftToken
  split
  · next moved =>
    refine ⟨Nat.le_refl _, ?_, h.name⟩
    have := h.line
    have := h.ordered
    simp only
    omega
  · exact h

theorem fieldTokens_on {source : List Char} {pos : Pos} (h : Grammar.fieldTokens source pos = some ts) :
    ∀ t ∈ ts, t.On pos.line := by
  obtain ⟨us, lexed, rfl⟩ := Option.map_eq_some_iff.1 h
  intro t ht
  obtain ⟨u, hu, rfl⟩ := List.mem_map.1 ht
  exact unshiftToken_on ((lex_ordered lexed).1 u hu)

/-- Line `l` and the lines behind it. Names there are in normal form. -/
def Region.lines (l : Nat) : Region where
  Has ts := ∀ t ∈ ts, t.On l
  At e := l ≤ e.span.start.line ∧ ∀ s id c, e = .name s id c → IsName id
  inFront on := (List.forall_mem_append.1 on).1
  behind on := (List.forall_mem_append.1 on).2
  field on parts mem lexed t ht := by
    have within := Pos.line_le (StringToken.parts_fields parts _ mem).1
    exact (fieldTokens_on lexed t ht).mono (Nat.le_trans (on _ List.mem_cons_self).line within)
  name {w p c} on := by
    have first := on _ List.mem_cons_self
    refine ⟨first.line, ?_⟩
    rintro _ _ _ ⟨⟩
    exact ⟨w, first.name w rfl, rfl⟩
  call func _ on := ⟨line_le_spanOf (List.append_ne_nil_of_left_ne_nil (func.ne_nil rfl) _) on, nofun⟩
  other {ts e} span notEmpty on other := by
    refine ⟨span ▸ line_le_spanOf notEmpty on, ?_⟩
    rintro _ _ _ rfl
    cases other
  context := by
    rintro s id c c' ⟨line, name⟩
    refine ⟨line, ?_⟩
    rintro _ _ _ ⟨⟩
    exact name _ _ _ rfl
  similar := by
    rintro e t ⟨line, -⟩ span - other
    refine ⟨span ▸ line, ?_⟩
    rintro _ _ _ rfl
    cases other

instance : Coe Nat Region := ⟨Region.lines⟩

end Lines

end CallLint.Source

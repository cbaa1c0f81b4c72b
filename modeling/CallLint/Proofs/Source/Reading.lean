import CallLint.Source.Parse

/-!
# What a reader takes

A reader takes tokens from the front of the input and nothing else. `Takes s ts s'` says which ones lie between two inputs. There is
one lemma for each primitive reader and each way to put readers together: readers that only look are replaced by what they see, and
a run that succeeds is taken apart into the tokens and the runs that it is made of (`…_eq_some`). The lemmas are equivalences, so
that they also put a run together from its parts.
-/

namespace CallLint.Source

open Parse

/-- The end of the last token that is no mark, or `last` if there is none. -/
def endOf (last : Pos) (ts : List Token) : Pos :=
  ts.foldl (fun last t => if isMark t.kind then last else t.span.stop) last

/-- Where some tokens stand: from the start of the first to the end of the last one that is no mark. -/
def spanOf (ts : List Token) : Span := ⟨(ts.head?.map (·.span.start)).getD default, endOf default ts⟩

/-- Tokens of which some are no marks. -/
def Solid (ts : List Token) : Prop := ∃ t ∈ ts, isMark t.kind = false

namespace Input

/-- The kind of the next token. -/
def kind (s : Input) : TokenKind := (s.tokens.head?.map (·.kind)).getD .stop

/-- The kind of the token after the next. -/
def second (s : Input) : TokenKind := (s.tokens[1]?.map (·.kind)).getD .stop

/-- Where the next token starts. -/
def start (s : Input) : Pos := (s.tokens.head?.map (·.span.start)).getD s.last

end Input

/-- The tokens between two inputs. -/
structure Takes (s : Input) (ts : List Token) (s' : Input) : Prop where
  tokens : s.tokens = ts ++ s'.tokens
  last : s'.last = endOf s.last ts

section Takes

variable {s s' s'' : Input} {t : Token} {ts us : List Token}

theorem endOf_append (last : Pos) (ts us : List Token) : endOf last (ts ++ us) = endOf (endOf last ts) us :=
  List.foldl_append

theorem endOf_eq_of_solid (h : Solid ts) (last last' : Pos) : endOf last ts = endOf last' ts := by
  induction ts generalizing last last' with
  | nil =>
    obtain ⟨t, ht, -⟩ := h
    cases ht
  | cons t ts ih =>
    cases mark : isMark t.kind with
    | false => simp only [endOf, List.foldl_cons, mark, Bool.false_eq_true, if_false]
    | true =>
      obtain ⟨u, hu, solid⟩ := h
      rcases List.mem_cons.1 hu with rfl | hu
      · rw [mark] at solid
        cases solid
      · simp only [endOf, List.foldl_cons, mark, if_true]
        exact ih ⟨u, hu, solid⟩ last last'

theorem Solid.left (h : Solid ts) : Solid (ts ++ us) := by
  obtain ⟨t, ht, solid⟩ := h
  exact ⟨t, List.mem_append_left us ht, solid⟩

theorem Solid.right (h : Solid us) : Solid (ts ++ us) := by
  obtain ⟨t, ht, solid⟩ := h
  exact ⟨t, List.mem_append_right ts ht, solid⟩

theorem solid_cons (h : isMark t.kind = false) : Solid (t :: ts) := ⟨t, List.mem_cons_self, h⟩

theorem Takes.refl (s : Input) : Takes s [] s := ⟨rfl, rfl⟩

theorem Takes.trans (h : Takes s ts s') (h' : Takes s' us s'') : Takes s (ts ++ us) s'' := by
  constructor
  · rw [h.tokens, h'.tokens, List.append_assoc]
  · rw [h'.last, h.last, endOf_append]

theorem Takes.cons (h : Takes s [t] s') (h' : Takes s' ts s'') : Takes s (t :: ts) s'' := h.trans h'

theorem takes_nil : Takes s [] s' ↔ s = s' := by
  constructor
  · rintro ⟨tokens, last⟩
    cases s
    cases s'
    cases tokens
    cases last
    rfl
  · rintro rfl
    exact .refl s

theorem takes_append : Takes s (ts ++ us) s'' ↔ ∃ s', Takes s ts s' ∧ Takes s' us s'' := by
  constructor
  · rintro ⟨tokens, last⟩
    refine ⟨⟨us ++ s''.tokens, endOf s.last ts⟩, ⟨?_, rfl⟩, rfl, ?_⟩
    · rw [tokens, List.append_assoc]
    · rw [last, endOf_append]
  · rintro ⟨s', h, h'⟩
    exact h.trans h'

theorem Takes.kind_eq (h : Takes s (t :: ts) s') : s.kind = t.kind := by
  rw [Input.kind, h.tokens]
  rfl

theorem Takes.second_eq {u : Token} (h : Takes s (t :: u :: ts) s') : s.second = u.kind := by
  rw [Input.second, h.tokens]
  rfl

theorem Takes.second_of_single (h : Takes s [t] s') : s.second = s'.kind := by
  rw [Input.second, Input.kind, h.tokens]
  cases s'.tokens <;> rfl

theorem Takes.start_eq (h : Takes s (t :: ts) s') : s.start = t.span.start := by
  rw [Input.start, h.tokens]
  rfl

/-- The span of a construct is that of its tokens. -/
theorem Takes.span_eq (h : Takes s ts s') (solid : Solid ts) : (⟨s.start, s'.last⟩ : Span) = spanOf ts := by
  cases ts with
  | nil =>
    obtain ⟨t, ht, -⟩ := solid
    cases ht
  | cons t ts =>
    rw [h.last, endOf_eq_of_solid solid s.last default, Input.start, h.tokens]
    rfl

theorem Takes.length_lt (h : Takes s (t :: ts) s') : s'.tokens.length < s.tokens.length := by
  rw [h.tokens]
  simp only [List.cons_append, List.length_cons, List.length_append]
  omega

end Takes

/-! ### Readers that only look -/

section Looks

variable {α β : Type} {s : Input} {r : Option (β × Input)}

theorem pure_bind_run {a : α} {f : α → Parse β} : (pure a >>= f) s = r ↔ f a s = r := Iff.rfl

theorem peek_bind_run {f : TokenKind → Parse β} : (peek >>= f) s = r ↔ f s.kind s = r := Iff.rfl

theorem peekSecond_bind_run {f : TokenKind → Parse β} : (peekSecond >>= f) s = r ↔ f s.second s = r := Iff.rfl

theorem here_bind_run {f : Pos → Parse β} : (here >>= f) s = r ↔ f s.start s = r := Iff.rfl

theorem since_bind_run {start : Pos} {f : Span → Parse β} : (since start >>= f) s = r ↔ f ⟨start, s.last⟩ s = r := Iff.rfl

theorem atPunct_bind_run {p : Punct} {f : Bool → Parse β} : (atPunct p >>= f) s = r ↔ f (s.kind == .punct p) s = r := Iff.rfl

theorem atWord_bind_run {w : Reserved} {f : Bool → Parse β} : (atWord w >>= f) s = r ↔ f (s.kind == .word w) s = r := Iff.rfl

end Looks

/-! ### Runs that succeed -/

section Runs

variable {α β : Type} {s s' : Input}

theorem bind_eq_some {p : Parse α} {f : α → Parse β} {b : β} :
    (p >>= f) s = some (b, s') ↔ ∃ a t, p s = some (a, t) ∧ f a t = some (b, s') := by
  have eq : (p >>= f) s = (p s).bind fun r => f r.1 r.2 := rfl
  rw [eq, Option.bind_eq_some_iff]
  simp

theorem pure_eq_some {a b : α} : (pure a : Parse α) s = some (b, s') ↔ a = b ∧ s = s' := by
  have eq : (pure a : Parse α) s = some (a, s) := rfl
  simp [eq]

theorem fail_eq_some {a : α} : (fail : Parse α) s = some (a, s') ↔ False := by simp [fail]

theorem ite_eq_some {c : Prop} [Decidable c] {p q : Parse α} {a : α} :
    (if c then p else q) s = some (a, s') ↔ (c ∧ p s = some (a, s')) ∨ (¬ c ∧ q s = some (a, s')) := by
  split <;> simp [*]

theorem next_eq_some {t : Token} : next s = some (t, s') ↔ Takes s [t] s' := by
  obtain ⟨tokens, last⟩ := s
  cases tokens with
  | nil => exact ⟨nofun, fun h => nomatch h.tokens⟩
  | cons u us =>
    constructor
    · intro h
      cases h
      exact ⟨rfl, rfl⟩
    · intro h
      obtain ⟨tokens', last'⟩ := s'
      have tokens : u :: us = t :: tokens' := h.tokens
      have last : last' = if isMark t.kind then last else t.span.stop := h.last
      cases tokens
      cases last
      rfl

theorem accept_eq_some {k : TokenKind} {b : Bool} :
    accept k s = some (b, s') ↔ (b = true ∧ ∃ p, Takes s [⟨k, p⟩] s') ∨ (b = false ∧ s.kind ≠ k ∧ s' = s) := by
  unfold accept
  simp only [↓peek_bind_run, ite_eq_some, bind_eq_some, next_eq_some, pure_eq_some, beq_iff_eq]
  constructor
  · rintro (⟨kind, t, r, taken, rfl, rfl⟩ | ⟨kind, rfl, rfl⟩)
    · refine Or.inl ⟨rfl, t.span, ?_⟩
      have : (⟨k, t.span⟩ : Token) = t := by rw [← kind, taken.kind_eq]
      rwa [this]
    · exact Or.inr ⟨rfl, kind, rfl⟩
  · rintro (⟨rfl, p, taken⟩ | ⟨rfl, kind, rfl⟩)
    · exact Or.inl ⟨taken.kind_eq, _, _, taken, rfl, rfl⟩
    · exact Or.inr ⟨kind, rfl, rfl⟩

theorem expect_eq_some {k : TokenKind} {u : Unit} : expect k s = some (u, s') ↔ ∃ p, Takes s [⟨k, p⟩] s' := by
  simp only [expect, bind_eq_some, accept_eq_some, ite_eq_some, fail_eq_some, pure_eq_some]
  constructor
  · rintro ⟨b, t, ⟨rfl, taken⟩ | ⟨rfl, -, rfl⟩, ⟨-, h⟩ | ⟨h, -, rfl⟩⟩
    · exact h.elim
    · exact taken
    · exact h.elim
    · exact absurd rfl h
  · rintro ⟨p, taken⟩
    exact ⟨true, s', Or.inl ⟨rfl, p, taken⟩, Or.inr ⟨nofun, trivial, rfl⟩⟩

theorem punct_eq_some {p : Punct} {u : Unit} : punct p s = some (u, s') ↔ ∃ q, Takes s [⟨.punct p, q⟩] s' :=
  expect_eq_some

theorem acceptPunct_eq_some {p : Punct} {b : Bool} :
    acceptPunct p s = some (b, s') ↔
      (b = true ∧ ∃ q, Takes s [⟨.punct p, q⟩] s') ∨ (b = false ∧ s.kind ≠ .punct p ∧ s' = s) :=
  accept_eq_some

theorem acceptWord_eq_some {w : Reserved} {b : Bool} :
    acceptWord w s = some (b, s') ↔
      (b = true ∧ ∃ q, Takes s [⟨.word w, q⟩] s') ∨ (b = false ∧ s.kind ≠ .word w ∧ s' = s) :=
  accept_eq_some

/-- A choice by whether a token can be taken. -/
theorem accept_ite_eq_some {k : TokenKind} {p q : Parse α} {a : α} :
    (accept k >>= fun b => if b = true then p else q) s = some (a, s') ↔
      (∃ r t, Takes s [⟨k, r⟩] t ∧ p t = some (a, s')) ∨ (s.kind ≠ k ∧ q s = some (a, s')) := by
  simp only [bind_eq_some, accept_eq_some, ite_eq_some]
  constructor
  · rintro ⟨b, t, ⟨rfl, r, taken⟩ | ⟨rfl, kind, rfl⟩, ⟨h, run⟩ | ⟨h, run⟩⟩
    · exact Or.inl ⟨r, t, taken, run⟩
    · exact absurd rfl h
    · cases h
    · exact Or.inr ⟨kind, run⟩
  · rintro (⟨r, t, taken, run⟩ | ⟨kind, run⟩)
    · exact ⟨true, t, Or.inl ⟨rfl, r, taken⟩, Or.inl ⟨rfl, run⟩⟩
    · exact ⟨false, s, Or.inr ⟨rfl, kind, rfl⟩, Or.inr ⟨nofun, run⟩⟩

theorem acceptPunct_ite_eq_some {c : Punct} {p q : Parse α} {a : α} :
    (acceptPunct c >>= fun b => if b = true then p else q) s = some (a, s') ↔
      (∃ r t, Takes s [⟨.punct c, r⟩] t ∧ p t = some (a, s')) ∨ (s.kind ≠ .punct c ∧ q s = some (a, s')) :=
  accept_ite_eq_some

theorem acceptWord_ite_eq_some {w : Reserved} {p q : Parse α} {a : α} :
    (acceptWord w >>= fun b => if b = true then p else q) s = some (a, s') ↔
      (∃ r t, Takes s [⟨.word w, r⟩] t ∧ p t = some (a, s')) ∨ (s.kind ≠ .word w ∧ q s = some (a, s')) :=
  accept_ite_eq_some

theorem name_eq_some {n : Text} :
    name s = some (n, s') ↔ ∃ w p, Takes s [⟨.name w, p⟩] s' ∧ Text.ofChars (Text.normalForm w) = n := by
  simp only [name, bind_eq_some, next_eq_some]
  constructor
  · rintro ⟨⟨k, p⟩, t, taken, h⟩
    cases k with
    | name w =>
      obtain ⟨rfl, rfl⟩ := pure_eq_some.1 h
      exact ⟨w, p, taken, rfl⟩
    | _ => cases h
  · rintro ⟨w, p, taken, rfl⟩
    exact ⟨_, s', taken, rfl⟩

theorem attempt_eq_some {p : Parse α} {o : Option α} :
    attempt p s = some (o, s') ↔ (∃ a, o = some a ∧ p s = some (a, s')) ∨ (o = none ∧ p s = none ∧ s' = s) := by
  unfold attempt
  split
  · next a t run =>
    simp only [run, Option.some.injEq, Prod.mk.injEq, reduceCtorEq, false_and, and_false, or_false]
    constructor
    · rintro ⟨rfl, rfl⟩
      exact ⟨a, rfl, rfl, rfl⟩
    · rintro ⟨b, rfl, rfl, rfl⟩
      exact ⟨rfl, rfl⟩
  · next run =>
    simp only [run, Option.some.injEq, Prod.mk.injEq, reduceCtorEq, and_false, exists_false, false_or, true_and]
    constructor
    · rintro ⟨rfl, rfl⟩
      exact ⟨rfl, rfl⟩
    · rintro ⟨rfl, rfl⟩
      exact ⟨rfl, rfl⟩

theorem either_eq_some {p q : Parse α} {a : α} :
    either p q s = some (a, s') ↔ p s = some (a, s') ∨ (p s = none ∧ q s = some (a, s')) := by
  unfold either
  split
  · next r run => simp [run]
  · next run => simp [run]

theorem spanned_eq_some {p : Parse (Span → α)} {a : α} :
    spanned p s = some (a, s') ↔ ∃ f, p s = some (f, s') ∧ f ⟨s.start, s'.last⟩ = a := by
  unfold spanned
  simp only [↓here_bind_run, bind_eq_some, ↓since_bind_run, pure_eq_some]
  constructor
  · rintro ⟨f, t, run, rfl, rfl⟩
    exact ⟨f, run, rfl⟩
  · rintro ⟨f, run, rfl⟩
    exact ⟨f, s', run, rfl, rfl⟩

end Runs

/-! ### A first token and the rest of a run -/

section Firsts

variable {α β : Type} {s s' : Input} {b : β}

theorem fail_bind_eq_some {f : α → Parse β} : (fail >>= f) s = some (b, s') ↔ False := by simp [bind_eq_some, fail]

theorem expect_bind_eq_some {k : TokenKind} {f : Unit → Parse β} :
    (expect k >>= f) s = some (b, s') ↔ ∃ q t, Takes s [⟨k, q⟩] t ∧ f () t = some (b, s') := by
  simp only [bind_eq_some, expect_eq_some]
  constructor
  · rintro ⟨⟨⟩, t, ⟨q, taken⟩, run⟩
    exact ⟨q, t, taken, run⟩
  · rintro ⟨q, t, taken, run⟩
    exact ⟨(), t, ⟨q, taken⟩, run⟩

theorem punct_bind_eq_some {p : Punct} {f : Unit → Parse β} :
    (punct p >>= f) s = some (b, s') ↔ ∃ q t, Takes s [⟨.punct p, q⟩] t ∧ f () t = some (b, s') :=
  expect_bind_eq_some

theorem word_bind_eq_some {w : Reserved} {f : Unit → Parse β} :
    (word w >>= f) s = some (b, s') ↔ ∃ q t, Takes s [⟨.word w, q⟩] t ∧ f () t = some (b, s') :=
  expect_bind_eq_some

theorem name_bind_eq_some {f : Text → Parse β} :
    (name >>= f) s = some (b, s') ↔
      ∃ w q t, Takes s [⟨.name w, q⟩] t ∧ f (Text.ofChars (Text.normalForm w)) t = some (b, s') := by
  simp only [bind_eq_some, name_eq_some]
  constructor
  · rintro ⟨_, t, ⟨w, q, taken, rfl⟩, run⟩
    exact ⟨w, q, t, taken, run⟩
  · rintro ⟨w, q, t, taken, run⟩
    exact ⟨_, t, ⟨w, q, taken, rfl⟩, run⟩

theorem next_bind_eq_some {f : Token → Parse β} :
    (next >>= f) s = some (b, s') ↔ ∃ u t, Takes s [u] t ∧ f u t = some (b, s') := by
  simp only [bind_eq_some, next_eq_some]

end Firsts

/-! ### Repetition -/

section Repetition

variable {α : Type} {step : α → Parse (Option α)}

/-- The runs of a loop: steps that give a new value, up to one that gives none. -/
inductive Loops (step : α → Parse (Option α)) : α → Input → α → Input → Prop where
  | done {a : α} {s s' : Input} (run : step a s = some (none, s')) : Loops step a s a s'
  | more {a b c : α} {s s' s'' : Input} (run : step a s = some (some b, s')) (rest : Loops step b s' c s'') :
      Loops step a s c s''

theorem loops_of_iterateFor {n : Nat} {a b : α} {s s' : Input} (h : iterateFor n step a s = some (b, s')) :
    Loops step a s b s' := by
  induction n generalizing a s with
  | zero => cases h
  | succ n ih =>
    rw [iterateFor, bind_eq_some] at h
    obtain ⟨o, t, run, h⟩ := h
    cases o with
    | none =>
      obtain ⟨rfl, rfl⟩ := pure_eq_some.1 h
      exact .done run
    | some b => exact .more run (ih h)

theorem loops_of_iterate {a b : α} {s s' : Input} (h : iterate step a s = some (b, s')) : Loops step a s b s' :=
  loops_of_iterateFor h

/-- Items one after the other, up to where there is no further one. -/
inductive Repeats (more : Parse (Option α)) : Input → List α → Input → Prop where
  | done {s s' : Input} (run : more s = some (none, s')) : Repeats more s [] s'
  | item {a : α} {as : List α} {s s' s'' : Input} (run : more s = some (some a, s')) (rest : Repeats more s' as s'') :
      Repeats more s (a :: as) s''

variable {more : Parse (Option α)}

/-- The step of the loop behind `manyFrom`, which collects the items in reverse. -/
def collect (more : Parse (Option α)) (acc : List α) : Parse (Option (List α)) := do
  match ← more with
  | none => return none
  | some a => return some (a :: acc)

theorem collect_eq_some {acc : List α} {o : Option (List α)} {s s' : Input} :
    collect more acc s = some (o, s') ↔ ∃ a?, more s = some (a?, s') ∧ o = a?.map (· :: acc) := by
  simp only [collect, bind_eq_some]
  constructor
  · rintro ⟨a?, t, run, h⟩
    cases a? with
    | none =>
      obtain ⟨rfl, rfl⟩ := pure_eq_some.1 h
      exact ⟨none, run, rfl⟩
    | some a =>
      obtain ⟨rfl, rfl⟩ := pure_eq_some.1 h
      exact ⟨some a, run, rfl⟩
  · rintro ⟨a?, run, rfl⟩
    refine ⟨a?, s', run, ?_⟩
    cases a? <;> rfl

theorem repeats_of_loops {acc as : List α} {s s' : Input} (h : Loops (collect more) acc s as s') :
    ∃ bs, as = bs.reverse ++ acc ∧ Repeats more s bs s' := by
  induction h with
  | done run =>
    obtain ⟨a?, found, eq⟩ := collect_eq_some.1 run
    cases a? with
    | none => exact ⟨[], rfl, .done found⟩
    | some a => cases eq
  | more run _ ih =>
    obtain ⟨a?, found, eq⟩ := collect_eq_some.1 run
    cases a? with
    | none => cases eq
    | some a =>
      cases eq
      obtain ⟨bs, rfl, rest⟩ := ih
      exact ⟨a :: bs, by simp, .item found rest⟩

theorem repeats_of_manyFrom {first : α} {as : List α} {s s' : Input} (h : manyFrom first more s = some (as, s')) :
    ∃ bs, as = first :: bs ∧ Repeats more s bs s' := by
  obtain ⟨r, t, run, h⟩ := bind_eq_some.1 h
  obtain ⟨rfl, rfl⟩ := pure_eq_some.1 h
  obtain ⟨bs, rfl, rest⟩ := repeats_of_loops (loops_of_iterate  run)
  exact ⟨bs, by simp, rest⟩

theorem repeats_of_many {as : List α} {s s' : Input} (h : many more s = some (as, s')) : Repeats more s as s' := by
  obtain ⟨a?, t, run, h⟩ := bind_eq_some.1 h
  cases a? with
  | none =>
    obtain ⟨rfl, rfl⟩ := pure_eq_some.1 h
    exact .done run
  | some a =>
    obtain ⟨bs, rfl, rest⟩ := repeats_of_manyFrom h
    exact .item run rest

end Repetition

end CallLint.Source

import CallLint.Printer.Expr
import CallLint.Proofs.Tree.Kinds

/-!
# Steps of writing

A step of writing gives pieces that are all texts, or it finds that something cannot be written and there is a reason for
that (`Writes`). The rules here carry that through the sequences, lists and separators of which the writers are made.
-/

namespace CallLint.Printer

open CallLint.Tree (Fault NodeClass Category HasCategory)

section Writes

variable {α β : Type} {reason reason' : Prop} {x : Except Fault α} {P Q : α → Prop}

/-- A step that gives a result of which `P` holds, unless something cannot be written and there is a reason for that. -/
def Writes (reason : Prop) (x : Except Fault α) (P : α → Prop) : Prop :=
  (∃ a, x = .ok a ∧ P a) ∨ x = .error .unwritable ∧ reason

theorem Writes.ok {a : α} (h : P a) : Writes reason (.ok a) P := Or.inl ⟨a, rfl, h⟩

theorem Writes.unwritable (h : reason) : Writes reason (.error .unwritable) P := Or.inr ⟨rfl, h⟩

theorem Writes.bind (h : Writes reason x P) {f : α → Except Fault β} {R : β → Prop}
    (next : ∀ a, P a → Writes reason (f a) R) : Writes reason (x >>= f) R := by
  rcases h with ⟨a, rfl, ha⟩ | ⟨rfl, why⟩
  · exact next a ha
  · exact .unwritable why

theorem Writes.because (h : Writes reason x P) (le : reason → reason') : Writes reason' x P := by
  rcases h with ⟨a, rfl, ha⟩ | ⟨rfl, why⟩
  · exact .ok ha
  · exact .unwritable (le why)

theorem Writes.mapM {f : β → Except Fault α} {bs : List β} (each : ∀ b ∈ bs, Writes reason (f b) P) :
    Writes reason (bs.mapM f) fun as => ∀ a ∈ as, P a := by
  induction bs with
  | nil => exact .ok (by simp)
  | cons b bs ih =>
    rw [List.mapM_cons]
    refine (each b List.mem_cons_self).bind fun a ha => ?_
    refine (ih fun c hc => each c (List.mem_cons_of_mem b hc)).bind fun as has => ?_
    exact .ok (List.forall_mem_cons.2 ⟨ha, has⟩)

end Writes

/-! ### Pieces -/

/-- Pieces that are all texts. -/
def Full (ps : Pieces) : Prop := ∀ p ∈ ps, p ≠ none

@[simp] theorem full_nil : Full [] := by simp [Full]

@[simp] theorem full_cons {p : Option Text} {ps : Pieces} : Full (p :: ps) ↔ p ≠ none ∧ Full ps := by simp [Full]

@[simp] theorem full_append {ps qs : Pieces} : Full (ps ++ qs) ↔ Full ps ∧ Full qs := by
  simp only [Full, List.mem_append, or_imp, forall_and]

@[simp] theorem full_ofString (s : String) : Full (Pieces.ofString s) := by simp [Pieces.ofString]

@[simp] theorem full_ofChars (cs : List Char) : Full (Pieces.ofChars cs) := by simp [Pieces.ofChars]

@[simp] theorem full_ofText (s : Text) : Full (Pieces.ofTree (.text s)) := by simp [Pieces.ofTree, Tree.text?]

@[simp] theorem full_delimited {left right : String} {ps : Pieces} : Full (delimited left right ps) ↔ Full ps := by
  simp [delimited]

@[simp] theorem full_parenthesizedIf {b : Bool} {ps : Pieces} : Full (parenthesizedIf b ps) ↔ Full ps := by
  cases b <;> simp [parenthesizedIf]

theorem full_ite {c : Prop} [Decidable c] {ps qs : Pieces} (hp : Full ps) (hq : Full qs) : Full (if c then ps else qs) := by
  split
  · exact hp
  · exact hq

theorem full_flatten {pss : List Pieces} (h : ∀ ps ∈ pss, Full ps) : Full pss.flatten := by
  intro p hp
  obtain ⟨ps, hps, hp⟩ := List.mem_flatten.1 hp
  exact h ps hps p hp

/-- Pieces with separators between them. -/
theorem full_intersperse {separator : Pieces} {pss : List Pieces} (hs : Full separator) (h : ∀ ps ∈ pss, Full ps) :
    Full (pss.intersperse separator).flatten := by
  fun_induction List.intersperse separator pss with
  | case1 => simp
  | case2 ps => simpa using h ps List.mem_cons_self
  | case3 ps qs pss ih =>
    simp only [List.flatten_cons, full_append]
    exact ⟨h ps List.mem_cons_self, hs, ih fun rs hrs => h rs (List.mem_cons_of_mem ps hrs)⟩

/-- Pieces that are all texts can be joined. -/
theorem join_eq_ok {ps : Pieces} (h : Full ps) : ∃ t, ps.join = .ok t := by
  have texts : ∃ ts, ps.mapM id = some ts := by
    induction ps with
    | nil => exact ⟨[], rfl⟩
    | cons p ps ih =>
      rw [full_cons] at h
      obtain ⟨t, rfl⟩ := Option.ne_none_iff_exists'.1 h.1
      obtain ⟨ts, hts⟩ := ih h.2
      exact ⟨t :: ts, by simp [List.mapM_cons, hts]⟩
  obtain ⟨ts, hts⟩ := texts
  exact ⟨ts.flatten, by simp [Pieces.join, hts]⟩

section Lists

variable {reason : Prop} {write : Tree → Except Fault Pieces} {ts : List Tree}

theorem separated_writes (separator : String) (each : ∀ t ∈ ts, Writes reason (write t) Full) :
    Writes reason (separated separator write ts) Full := by
  fun_induction separated separator write ts with
  | case1 => exact .ok full_nil
  | case2 t => exact each t List.mem_cons_self
  | case3 t ts _ ih =>
    refine (each t List.mem_cons_self).bind fun first hf => ?_
    refine (ih fun u hu => each u (List.mem_cons_of_mem t hu)).bind fun rest hr => ?_
    exact .ok (by simp [hf, hr])

theorem consecutive_writes (each : ∀ t ∈ ts, Writes reason (write t) Full) :
    Writes reason (consecutive write ts) Full := by
  induction ts with
  | nil => exact .ok full_nil
  | cons t ts ih =>
    rw [consecutive]
    refine (each t List.mem_cons_self).bind fun first hf => ?_
    refine (ih fun u hu => each u (List.mem_cons_of_mem t hu)).bind fun rest hr => ?_
    exact .ok (by simp [hf, hr])

theorem requirePlace_eq_ok {t : Tree} {c : Category} (h : t.HasCategory c) : requirePlace t = .ok () := by
  simp [requirePlace, h.items?]

theorem forM_requirePlace_eq_ok {c : Category} (h : ∀ t ∈ ts, t.HasCategory c) : ts.forM requirePlace = .ok () := by
  induction ts with
  | nil => rfl
  | cons t ts ih =>
    have first : (t :: ts).forM requirePlace = (requirePlace t >>= fun _ => ts.forM requirePlace) := rfl
    rw [first, requirePlace_eq_ok (h t List.mem_cons_self)]
    exact ih fun u hu => h u (List.mem_cons_of_mem t hu)

end Lists

/-! ### Operators -/

/-- Every operator of a group has a spelling. -/
theorem spelling_eq_ok {α : Type} {table : NodeClass → Option α} {c : Category} {op : Tree} (h : op.HasCategory c)
    (complete : ∀ k : NodeClass, k.category = c → (table k).isSome = true) : ∃ a, spelling table op = .ok a := by
  obtain ⟨k, hk, hc⟩ := h
  obtain ⟨a, ha⟩ := Option.isSome_iff_exists.1 (complete k hc)
  exact ⟨a, by simp [spelling, hk, ha]⟩

theorem spelling_connective {op : Tree} (h : op.HasCategory .boolOp) : ∃ a, spelling connective? op = .ok a :=
  spelling_eq_ok h (by intro k; cases k <;> decide)

theorem spelling_operator {op : Tree} (h : op.HasCategory .operator) : ∃ a, spelling operator? op = .ok a :=
  spelling_eq_ok h (by intro k; cases k <;> decide)

theorem spelling_sign {op : Tree} (h : op.HasCategory .unaryOp) : ∃ a, spelling sign? op = .ok a :=
  spelling_eq_ok h (by intro k; cases k <;> decide)

theorem spelling_comparison {op : Tree} (h : op.HasCategory .compareOp) : ∃ a, spelling comparison? op = .ok a :=
  spelling_eq_ok h (by intro k; cases k <;> decide)

end CallLint.Printer

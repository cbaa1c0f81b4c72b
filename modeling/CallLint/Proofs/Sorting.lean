import CallLint.Sorting
import Mathlib.Data.List.Lex
import Mathlib.Data.Prod.Basic

/-!
# Sorting by a strict order

The Boolean comparisons that lists are sorted by say that the second of two elements does not come before the first in a strict order.
Comparing element by element is the lexicographic order of lists (`lexLe_iff`), so that texts and paths are sorted by code points.
-/

namespace CallLint.Sorting

variable {α β : Type}

/-- Characters in the order of their numbers. -/
abbrev CharBefore (c d : Char) : Prop := c.toNat < d.toNat

instance : IsStrictTotalOrder Char CharBefore where
  irrefl c := Nat.lt_irrefl c.toNat
  trans _ _ _ := Nat.lt_trans
  trichotomous _ _ le ge := Char.toNat_inj.1 (Nat.le_antisymm (Nat.not_lt.1 ge) (Nat.not_lt.1 le))

/-- Texts in the order of their code points. -/
abbrev TextBefore : List Char → List Char → Prop := List.Lex CharBefore

instance : IsTrans (List Char) TextBefore where
  trans _ _ c first second := (IsOrderConnected.conn _ c _ first).resolve_right (asymm second)

theorem lexLe_iff {lt : α → α → Bool} {r : α → α → Prop} [Std.Asymm r] [Std.Trichotomous r] (h : ∀ a b, lt a b = true ↔ r a b)
    (as bs : List α) : lexLe lt as bs = true ↔ ¬ List.Lex r bs as := by
  induction as generalizing bs with
  | nil => simp [lexLe]
  | cons a as ih =>
    cases bs with
    | nil => simp [lexLe]
    | cons b bs =>
      rw [lexLe, List.cons_lex_cons_iff, Bool.or_eq_true, Bool.and_eq_true, Bool.not_eq_true', ← Bool.not_eq_true, h, h, ih]
      rcases trichotomous_of r a b with less | rfl | more
      · have ne : b ≠ a := fun eq => asymm less (eq ▸ less)
        simp [less, asymm less, ne]
      · simp [irrefl_of r a]
      · simp [more, asymm more]

theorem lexLe_charLt (a b : List Char) : lexLe charLt a b = true ↔ ¬ TextBefore b a :=
  lexLe_iff (by simp [charLt]) a b

/-- Sorting by a key puts no element behind one whose key comes later. -/
theorem sort_pairwise_key {le : α → α → Bool} {r : β → β → Prop} [Std.Asymm r] [IsOrderConnected β r] {key : α → β}
    (h : ∀ a b, le a b = true ↔ ¬ r (key b) (key a)) (as : List α) : (sort le as).Pairwise fun a b => ¬ r (key b) (key a) := by
  have sorted : (sort le as).Pairwise fun a b => le a b = true := by
    refine sort_pairwise (fun a b => ?_) (fun a b c ab bc => ?_) as
    · rw [h, h]
      by_contra both
      rw [not_or, not_not, not_not] at both
      exact asymm both.1 both.2
    · rw [h] at ab bc ⊢
      exact IsOrderConnected.neg_trans bc ab
  exact sorted.imp (h _ _).1

end CallLint.Sorting

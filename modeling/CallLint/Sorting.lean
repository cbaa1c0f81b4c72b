/-!
# Stable sorting

Insertion sort by a Boolean order. Elements that the order does not tell apart keep their places.
-/

namespace CallLint.Sorting

variable {α : Type}

/-- Puts `a` before the first element that it may precede. -/
def insert (le : α → α → Bool) (a : α) : List α → List α
  | [] => [a]
  | b :: bs => if le a b then a :: b :: bs else b :: insert le a bs

/-- The elements in ascending order; equal ones in the order in which they came. -/
def sort (le : α → α → Bool) : List α → List α
  | [] => []
  | a :: as => insert le a (sort le as)

/-- Compares lists element by element; a proper beginning comes first. -/
def lexLe (lt : α → α → Bool) : List α → List α → Bool
  | [], _ => true
  | _ :: _, [] => false
  | a :: as, b :: bs => lt a b || (!lt b a && lexLe lt as bs)

/-- Compares characters by code point. -/
def charLt (a b : Char) : Bool := decide (a.toNat < b.toNat)

/-- Compares texts by code points. -/
def textLe (a b : String) : Bool := lexLe charLt a.toList b.toList

theorem insert_perm (le : α → α → Bool) (a : α) (bs : List α) : (insert le a bs).Perm (a :: bs) := by
  induction bs with
  | nil => exact .refl _
  | cons b bs ih =>
    rw [insert]
    split
    · exact .refl _
    · exact (ih.cons b).trans (.swap a b bs)

theorem sort_perm (le : α → α → Bool) (as : List α) : (sort le as).Perm as := by
  induction as with
  | nil => exact .refl _
  | cons a as ih => exact (insert_perm le a _).trans (ih.cons a)

/-- Elements that may precede each other keep their places when one more is put before them. -/
theorem filter_insert {le : α → α → Bool} {p : α → Bool} (h : ∀ a b, p a = true → p b = true → le a b = true)
    (a : α) (bs : List α) : (insert le a bs).filter p = (a :: bs).filter p := by
  induction bs with
  | nil => rfl
  | cons b bs ih =>
    rw [insert]
    split
    · rfl
    · next hab =>
      -- `b` comes before `a`, so that not both of them are kept
      by_cases hb : p b = true
      · have ha : p a = false := by
          cases hp : p a with
          | false => rfl
          | true => exact absurd (h a b hp hb) hab
        simp [hb, ih, ha]
      · simp [hb, ih, List.filter_cons]

/-- Sorting is stable. -/
theorem filter_sort {le : α → α → Bool} {p : α → Bool} (h : ∀ a b, p a = true → p b = true → le a b = true)
    (as : List α) : (sort le as).filter p = as.filter p := by
  induction as with
  | nil => rfl
  | cons a as ih => rw [sort, filter_insert h, List.filter_cons, ih, ← List.filter_cons]

theorem insert_pairwise {le : α → α → Bool} (total : ∀ a b, le a b = true ∨ le b a = true)
    (trans : ∀ a b c, le a b = true → le b c = true → le a c = true) (a : α) {bs : List α}
    (h : bs.Pairwise fun x y => le x y = true) : (insert le a bs).Pairwise fun x y => le x y = true := by
  induction h with
  | nil => exact List.pairwise_singleton _ a
  | @cons b bs hb hbs ih =>
    rw [insert]
    split
    · next hab =>
      refine .cons ?_ (.cons hb hbs)
      intro c hc
      rcases List.mem_cons.1 hc with rfl | hc
      · exact hab
      · exact trans a b c hab (hb c hc)
    · next hab =>
      refine .cons ?_ ih
      intro c hc
      rcases List.mem_cons.1 ((insert_perm le a bs).mem_iff.1 hc) with rfl | hc
      · exact (total c b).resolve_left hab
      · exact hb c hc

/-- Sorting by a total order gives an ascending list. -/
theorem sort_pairwise {le : α → α → Bool} (total : ∀ a b, le a b = true ∨ le b a = true)
    (trans : ∀ a b c, le a b = true → le b c = true → le a c = true) (as : List α) :
    (sort le as).Pairwise fun x y => le x y = true := by
  induction as with
  | nil => exact .nil
  | cons a as ih => exact insert_pairwise total trans a ih

/-- What the order does not look at may change before or after sorting. -/
theorem map_sort {β : Type} {le : α → α → Bool} {le' : β → β → Bool} {g : α → β} (h : ∀ a b, le' (g a) (g b) = le a b)
    (as : List α) : (sort le as).map g = sort le' (as.map g) := by
  have map_insert : ∀ a bs, (insert le a bs).map g = insert le' (g a) (bs.map g) := by
    intro a bs
    induction bs with
    | nil => rfl
    | cons b bs ih =>
      simp only [insert, List.map_cons, h]
      split
      · rfl
      · simp [ih]
  induction as with
  | nil => rfl
  | cons a as ih => rw [sort, map_insert, ih, List.map_cons, sort]

end CallLint.Sorting

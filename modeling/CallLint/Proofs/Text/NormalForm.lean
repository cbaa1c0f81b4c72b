import CallLint.Text.Normal

/-!
# Normal forms of spellings

The normal form of a spelling is not empty and holds no dot, unless the spelling is or does. The tables decide it for the
decomposition and the composition of single characters; ordering the marks only moves characters.
-/

namespace CallLint.Text

namespace Normal

theorem ofNat_ne_dot {n : Nat} (h : n ≠ 0x2E) : Char.ofNat n ≠ '.' := by
  intro eq
  have same := congrArg Char.toNat eq
  by_cases valid : n.isValidChar
  · rw [Char.ofNat, dif_pos valid] at same
    exact h same
  · rw [Char.ofNat, dif_neg valid] at same
    exact absurd same (by decide)

/-- No run of characters decomposes into a dot. -/
theorem shiftedRuns_no_dot : (shiftedRuns.all fun r => 0x2E < r.2.2 || r.2.2 + r.2.1 ≤ 0x2E) = true := by
  decide +kernel

/-- No character in a row decomposes into a dot. -/
theorem imageRows_no_dot : (imageRows.all fun rows => rows.all fun r => r.2.all (· != 0x2E)) = true := by
  decide +kernel

/-- No character decomposes into nothing or into a dot and more. -/
theorem multiples_no_dot : (multiples.all fun rows => rows.all fun r => r.2.all fun ms => !ms.isEmpty && ms.all (· != 0x2E)) = true := by
  decide +kernel

/-- No pair has a dot in it or composes to one. -/
theorem pairs_no_dot :
    (pairs.all fun entries => entries.all fun p => p.1 != 0x2E && p.2.1 != 0x2E && p.2.2 != 0x2E) = true := by
  decide +kernel

/-- What is found in tables stands in one of them and has what all their entries have. -/
theorem holds_of_findSome {α β : Type} {tables : List (List α)} {find : List α → Option β} {ok : α → Bool} {b : β}
    (checked : (tables.all fun table => table.all ok) = true) (h : tables.findSome? find = some b) :
    ∃ table : List α, find table = some b ∧ ∀ a ∈ table, ok a = true := by
  obtain ⟨table, mem, found⟩ := List.exists_of_findSome?_eq_some h
  exact ⟨table, found, List.all_eq_true.1 (List.all_eq_true.1 checked table mem)⟩

/-- What is found in rows has what all that stands in them has. -/
theorem row_checked {α : Type} {rows : List (Nat × List α)} {ok : α → Bool} {n : Nat} {a : α}
    (found : rows.findSome? (ofRow n) = some a) (checked : ∀ r ∈ rows, r.2.all ok = true) : ok a = true := by
  obtain ⟨⟨first, images⟩, hr, found⟩ := List.exists_of_findSome?_eq_some found
  have mem := List.mem_of_getElem? (Option.ite_none_right_eq_some.1 found).2
  exact List.all_eq_true.1 (checked _ hr) a mem

theorem hangulParts_spec (n : Nat) : hangulParts n ≠ [] ∧ ∀ m ∈ hangulParts n, m ≠ 0x2E := by
  unfold hangulParts
  simp only
  split <;> simp <;> omega

theorem listedParts_spec {n : Nat} (h : n ≠ 0x2E) : listedParts n ≠ [] ∧ ∀ m ∈ listedParts n, m ≠ 0x2E := by
  unfold listedParts
  split
  · next m found =>
    suffices m ≠ 0x2E by simpa
    rcases Option.or_eq_some_iff.1 found with found | ⟨-, found⟩
    · obtain ⟨⟨first, count, image⟩, hr, found⟩ := List.exists_of_findSome?_eq_some found
      have noDot := List.all_eq_true.1 shiftedRuns_no_dot _ hr
      simp only [ofRun, Bool.or_eq_true, Bool.and_eq_true, decide_eq_true_eq, Option.ite_none_right_eq_some, Option.some.injEq]
        at found noDot
      omega
    · obtain ⟨rows, found, noDot⟩ := holds_of_findSome imageRows_no_dot found
      simpa using row_checked found noDot
  · cases found : multiples.findSome? (·.findSome? (ofRow n)) with
    | none => simpa
    | some ms =>
      obtain ⟨rows, found, noDot⟩ := holds_of_findSome multiples_no_dot found
      simpa using row_checked found noDot

/-- A character composed of pairs has parts, and none is a dot. -/
theorem partsOf_spec {n : Nat} (depth : Nat) (h : n ≠ 0x2E) : partsOf depth n ≠ [] ∧ ∀ m ∈ partsOf depth n, m ≠ 0x2E := by
  induction depth generalizing n with
  | zero => exact listedParts_spec h
  | succ depth ih =>
    unfold partsOf
    split
    · next a b c found =>
      obtain ⟨entries, found, noDot⟩ := holds_of_findSome pairs_no_dot found
      have noDot := noDot _ (List.mem_of_find?_eq_some found)
      simp only [Bool.and_eq_true, bne_iff_ne] at noDot
      refine ⟨by simp, fun m hm => ?_⟩
      rcases List.mem_append.1 hm with hm | hm
      · exact (ih noDot.1.1).2 m hm
      · exact List.mem_singleton.1 hm ▸ noDot.1.2
    · exact listedParts_spec h

theorem decompose_spec (c : Char) : decompose c ≠ [] ∧ ('.' ∈ decompose c → c = '.') := by
  have dotless : ∀ {ms : List Nat}, ms ≠ [] ∧ (∀ m ∈ ms, m ≠ 0x2E) →
      ms.map Char.ofNat ≠ [] ∧ ('.' ∈ ms.map Char.ofNat → c = '.') := by
    rintro ms ⟨some_part, noDot⟩
    refine ⟨by simpa using some_part, fun mem => ?_⟩
    obtain ⟨m, hm, eq⟩ := List.mem_map.1 mem
    exact absurd eq (ofNat_ne_dot (noDot m hm))
  unfold decompose
  simp only
  split
  · simp [eq_comm]
  split
  · exact dotless (hangulParts_spec _)
  · exact dotless (partsOf_spec 3 (by omega))

theorem mem_insertMark {k : Nat} {c : Char} {e : Nat × Char} {r : List (Nat × Char)} :
    e ∈ insertMark k c r ↔ e = (k, c) ∨ e ∈ r := by
  induction r with
  | nil => simp [insertMark]
  | cons d r ih =>
    obtain ⟨k', c'⟩ := d
    unfold insertMark
    split
    · simp only [List.mem_cons, ih]
      exact or_left_comm
    · simp

/-- Ordering the marks keeps the characters. -/
theorem mem_reorder {cs : List Char} {c : Char} : (∃ k, (k, c) ∈ reorder cs) ↔ c ∈ cs := by
  have folded : ∀ acc : List (Nat × Char), (∃ k, (k, c) ∈ cs.foldl (fun acc c =>
      let k := combiningClass c
      if k == 0 then (0, c) :: acc else insertMark k c acc) acc) ↔ c ∈ cs ∨ ∃ k, (k, c) ∈ acc := by
    induction cs with
    | nil => simp
    | cons d cs ih =>
      intro acc
      rw [List.foldl_cons, ih]
      have added : (∃ k, (k, c) ∈ (if combiningClass d == 0 then (0, d) :: acc else insertMark (combiningClass d) d acc)) ↔
          c = d ∨ ∃ k, (k, c) ∈ acc := by
        split
        · simp [exists_or]
        · simp only [mem_insertMark, Prod.mk.injEq, exists_or]
          simp
      simp only [List.mem_cons]
      rw [added, ← or_assoc, or_comm (a := c ∈ cs)]
  unfold reorder
  simp only [List.mem_reverse]
  rw [folded]
  simp

theorem composePair_ne_dot {a b c : Char} (h : composePair a b = some c) : c ≠ '.' := by
  unfold composePair at h
  simp only at h
  split at h
  · obtain rfl := Option.some.inj h
    exact ofNat_ne_dot (by omega)
  split at h
  · next hangul =>
    obtain rfl := Option.some.inj h
    simp only [Bool.and_eq_true, decide_eq_true_eq] at hangul
    exact ofNat_ne_dot (by omega)
  · obtain ⟨p, found, rfl⟩ := Option.map_eq_some_iff.1 h
    obtain ⟨entries, found, noDot⟩ := holds_of_findSome pairs_no_dot found
    have noDot := noDot p (List.mem_of_find?_eq_some found)
    simp only [Bool.and_eq_true, bne_iff_ne] at noDot
    exact ofNat_ne_dot noDot.2

theorem compose_ne_nil (starter : Char) (marks rest : List (Nat × Char)) : compose starter marks rest ≠ [] := by
  induction rest generalizing starter marks with
  | nil => simp [compose]
  | cons e rest ih =>
    obtain ⟨k, c⟩ := e
    unfold compose
    simp only
    split
    · exact ih _ _
    · split
      · simp
      · exact ih _ _

/-- Composing makes no dot. -/
theorem dot_mem_compose {starter : Char} {marks rest : List (Nat × Char)} (h : '.' ∈ compose starter marks rest) :
    starter = '.' ∨ (∃ k, (k, '.') ∈ marks) ∨ ∃ k, (k, '.') ∈ rest := by
  induction rest generalizing starter marks with
  | nil =>
    simp only [compose, List.mem_cons, List.mem_map, List.mem_reverse] at h
    rcases h with rfl | ⟨⟨k, c⟩, mem, rfl⟩
    · exact .inl rfl
    · exact .inr (.inl ⟨k, mem⟩)
  | cons e rest ih =>
    obtain ⟨k, c⟩ := e
    unfold compose at h
    simp only at h
    split at h
    · next whole composed =>
      have made : composePair starter c = some whole := (Option.ite_none_right_eq_some.1 composed).2
      rcases ih h with eq | inMarks | ⟨k, mem⟩
      · exact absurd eq (composePair_ne_dot made)
      · exact .inr (.inl inMarks)
      · exact .inr (.inr ⟨k, List.mem_cons_of_mem _ mem⟩)
    · split at h
      · simp only [List.mem_cons, List.mem_append, List.mem_map, List.mem_reverse] at h
        rcases h with rfl | ⟨⟨k, c⟩, mem, rfl⟩ | h
        · exact .inl rfl
        · exact .inr (.inl ⟨k, mem⟩)
        · rcases ih h with rfl | ⟨k, mem⟩ | ⟨k, mem⟩
          · exact .inr (.inr ⟨_, List.mem_cons_self⟩)
          · cases mem
          · exact .inr (.inr ⟨k, List.mem_cons_of_mem _ mem⟩)
      · rcases ih h with rfl | ⟨k, mem⟩ | ⟨k, mem⟩
        · exact .inl rfl
        · rcases List.mem_cons.1 mem with eq | mem
          · exact .inr (.inr ⟨k, eq ▸ List.mem_cons_self⟩)
          · exact .inr (.inl ⟨k, mem⟩)
        · exact .inr (.inr ⟨k, List.mem_cons_of_mem _ mem⟩)

end Normal

/-- The normal form of a spelling is not empty. -/
theorem normalForm_ne_nil {cs : List Char} (h : cs ≠ []) : normalForm cs ≠ [] := by
  unfold normalForm
  split
  · exact h
  · obtain ⟨c, rest, rfl⟩ := List.exists_cons_of_ne_nil h
    obtain ⟨d, ds, eq⟩ := List.exists_cons_of_ne_nil (Normal.decompose_spec c).1
    have mem : d ∈ (c :: rest).flatMap Normal.decompose := by simp [eq]
    obtain ⟨k, mem⟩ := Normal.mem_reorder.2 mem
    split
    · next empty =>
      rw [empty] at mem
      cases mem
    · exact Normal.compose_ne_nil _ _ _

/-- The normal form of a spelling holds no dot that is not in the spelling. -/
theorem dot_mem_of_normalForm {cs : List Char} (h : '.' ∈ normalForm cs) : '.' ∈ cs := by
  unfold normalForm at h
  split at h
  · exact h
  · split at h
    · cases h
    · next first c rest ordered =>
      have mem : ∃ k, (k, '.') ∈ Normal.reorder (cs.flatMap Normal.decompose) := by
        rw [ordered]
        rcases Normal.dot_mem_compose h with rfl | ⟨k, mem⟩ | ⟨k, mem⟩
        · exact ⟨first, List.mem_cons_self⟩
        · cases mem
        · exact ⟨k, List.mem_cons_of_mem _ mem⟩
      obtain ⟨d, hd, inD⟩ := List.mem_flatMap.1 (Normal.mem_reorder.1 mem)
      rwa [(Normal.decompose_spec d).2 inD] at hd

end CallLint.Text

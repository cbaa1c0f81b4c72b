import CallLint.Proofs.Report.Counts
import CallLint.Proofs.Sorting

/-!
# The worst findings

A report shows the first findings in the order of severity, path, line and column. They are the beginning of all findings in that
order, where findings that it does not tell apart stay as they were added (`top_worst`).
-/

namespace CallLint

theorem Severity.idxOf_lt {v w : Severity} : all.idxOf v < all.idxOf w ↔ w.rank < v.rank := by
  cases v <;> cases w <;> decide

theorem Severity.idxOf_eq {v w : Severity} : all.idxOf v = all.idxOf w ↔ v = w := by
  cases v <;> cases w <;> decide

theorem Severity.rank_inj {v w : Severity} : v.rank = w.rank ↔ v = w := by
  cases v <;> cases w <;> decide

namespace Report

open Sorting

/-- What findings are sorted by: the place of the severity from errors to hidden findings, the path, the line and the column. -/
def sortKey (f : Finding) : Nat × List Char × Int × Int :=
  (Severity.all.idxOf f.severity, f.path.toList, f.location.line.toInt, f.location.column.toInt)

/-- Keys in lexicographic order. -/
abbrev KeyBefore : Nat × List Char × Int × Int → Nat × List Char × Int × Int → Prop :=
  Prod.Lex (· < ·) (Prod.Lex TextBefore (Prod.Lex (· < ·) (· < ·)))

instance : IsStrictTotalOrder (Nat × List Char × Int × Int) KeyBefore where

namespace Result

theorem worseLe_iff (a b : Finding) : worseLe a b = true ↔ ¬ KeyBefore (sortKey b) (sortKey a) := by
  simp only [worseLe, sortKey, Prod.lex_def, Severity.idxOf_lt, Severity.idxOf_eq, String.toList_inj]
  by_cases severity : a.severity = b.severity
  · by_cases path : a.path = b.path
    · simp only [severity, path, bne_self_eq_false, Bool.false_eq_true, if_false, Location.startLe, Nat.lt_irrefl, irrefl_of TextBefore,
        true_and, false_or, Bool.or_eq_true, Bool.and_eq_true, decide_eq_true_eq, beq_iff_eq]
      omega
    · have other : b.path ≠ a.path := Ne.symm path
      simp [severity, path, other, textLe, lexLe_charLt]
  · have other : b.severity ≠ a.severity := Ne.symm severity
    have ranks : a.severity.rank ≠ b.severity.rank := mt Severity.rank_inj.1 severity
    simp only [severity, other, bne_iff_ne, ne_eq, not_false_eq_true, if_true, false_and, or_false, decide_eq_true_eq]
    omega

theorem top_eq_take (r : Result) (n : Nat) : r.top n = (sort worseLe r.findings).take n := by
  have length := (sort_perm worseLe r.findings).length_eq
  rw [top, Text.sliceEnd, if_pos (Int.natCast_nonneg n), Int.toNat_natCast, ← length, ← List.take_eq_take_min]

/-- The worst finding is as serious as any other. -/
theorem rank_le_of_not_keyBefore {f g : Finding} (h : ¬ KeyBefore (sortKey g) (sortKey f)) : g.severity.rank ≤ f.severity.rank := by
  rw [KeyBefore, Prod.lex_def, not_or] at h
  exact Nat.not_lt.1 (mt Severity.idxOf_lt.2 h.1)

/-- The worst findings are as many as asked for, if there are so many, and in the order of their keys. With those left out they make up
all findings, and none of these comes before one of them; of findings with one key the first that were added are taken, in the order in
which they were added. Fewer are the beginning of more; and if the scan failed, the first is serious enough to fail. -/
theorem top_worst (r : Result) (n : Nat) :
    (r.top n).length = min n r.findings.length ∧
    (r.top n).Pairwise (fun f g => ¬ KeyBefore (sortKey g) (sortKey f)) ∧
    (∃ rest, (r.top n ++ rest).Perm r.findings ∧ ∀ f ∈ r.top n, ∀ g ∈ rest, ¬ KeyBefore (sortKey g) (sortKey f)) ∧
    (∀ k, (r.top n).filter (sortKey · = k) <+: r.findings.filter (sortKey · = k)) ∧
    (∀ m : Nat, m ≤ n → r.top m <+: r.top n) ∧
    (r.passed = false → 0 < n → ∃ f, (r.top n).head? = some f ∧ r.failOn.rank ≤ f.severity.rank) := by
  have perm := sort_perm worseLe r.findings
  have sorted := sort_pairwise_key worseLe_iff r.findings
  have parts := List.take_append_drop n (sort worseLe r.findings)
  simp only [top_eq_take]
  refine ⟨by rw [List.length_take, perm.length_eq], sorted.take, ⟨_, parts ▸ perm, ?_⟩, fun k => ?_, fun m le => ?_, ?_⟩
  · rw [← parts, List.pairwise_append] at sorted
    exact sorted.2.2
  · have stable : (sort worseLe r.findings).filter (sortKey · = k) = r.findings.filter (sortKey · = k) := by
      refine filter_sort (fun f g hf hg => ?_) r.findings
      rw [worseLe_iff, of_decide_eq_true hf, of_decide_eq_true hg]
      exact irrefl_of KeyBefore k
    rw [← stable]
    exact (List.take_prefix n _).filter _
  · exact List.take_prefix_take_left le
  · intro failed some_finding
    obtain ⟨f, mem, serious⟩ : ∃ f ∈ r.findings, r.failOn.rank ≤ f.severity.rank := by simpa [passed] using failed
    obtain ⟨m, rfl⟩ : ∃ m, n = m + 1 := ⟨n - 1, by omega⟩
    rw [← perm.mem_iff] at mem
    cases all : sort worseLe r.findings with
    | nil => simp [all] at mem
    | cons g rest =>
      rw [all] at mem sorted
      refine ⟨g, rfl, Nat.le_trans serious ?_⟩
      rcases List.mem_cons.1 mem with rfl | mem
      · exact Nat.le_refl _
      · exact rank_le_of_not_keyBefore (List.rel_of_pairwise_cons sorted mem)

/-- A hint, and two warnings at one place further on. -/
def mixedResult : Result :=
  let finding (id : String) (v : Severity) (path : String) (line : Int) : Finding :=
    ⟨id, "", "", "", v, .ofInts line 1 line 2, path, none⟩
  (empty .warning).addAll [finding "hint" .info "a.py" 1, finding "first" .warning "b.py" 3, finding "second" .warning "b.py" 3]

theorem top_worst_mixed : mixedResult.passed = false ∧ (mixedResult.top 2).map (·.ruleId) = ["first", "second"] ∧
    (∃ f, (mixedResult.top (1 : Nat)).head? = some f ∧ mixedResult.failOn.rank ≤ f.severity.rank) := by
  have failed : mixedResult.passed = false := by decide
  obtain ⟨-, -, -, -, -, first⟩ := top_worst mixedResult 1
  exact ⟨failed, by decide +kernel, first failed (by decide)⟩

end Result

end Report

end CallLint

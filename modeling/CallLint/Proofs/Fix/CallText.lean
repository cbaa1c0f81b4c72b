import CallLint.Fix.Apply
import CallLint.Proofs.Source.Splice
import CallLint.Proofs.Text.Offsets

/-!
# The text of a call

A call that stands among the tokens of a module has a text in the source (`exists_callText`). Whatever line breaks the source has, the
offsets of the call's position are the ends of that text (`CallText.offsets`).
-/

namespace CallLint.Fix

open Source

/-! ### Ends of texts -/

theorem endLine_append {x : List Char} (ends : x.getLast?.any (· != '\n') = true) (r : List Char) : endLine (x ++ r) = x ++ endLine r := by
  unfold endLine
  cases r with
  | nil =>
    have other : (x.getLast? == some '\n') = false := by
      cases last : x.getLast? with
      | none => rfl
      | some c => simpa [last] using ends
    simp [other]
  | cons c r =>
    rw [List.getLast?_append, List.getLast?_cons, Option.some_or]
    split <;> simp

/-- A cut in front of the last line feed. -/
theorem endLine_eq_append {u x r : List Char} (ends : x.getLast?.any (· != '\n') = true) (h : endLine u = x ++ r) :
    ∃ r', u = x ++ r' ∧ r = endLine r' := by
  have front : ∃ r', u = x ++ r' := by
    unfold endLine at h
    split at h
    · exact ⟨r, h⟩
    · obtain ⟨r', rfl, -⟩ | ⟨a, rfl, eq⟩ := List.append_eq_append_iff.1 h.symm
      · exact ⟨r', rfl⟩
      · cases a with
        | nil => exact ⟨[], by simp⟩
        | cons c a =>
          obtain ⟨rfl, none⟩ := List.cons.inj eq
          obtain ⟨rfl, rfl⟩ := List.append_eq_nil_iff.1 none.symm
          simp at ends
  obtain ⟨r', rfl⟩ := front
  rw [endLine_append ends] at h
  exact ⟨r', rfl, (List.append_cancel_left h).symm⟩

/-! ### Calls -/

/-- The characters of a call, with what stands before and behind it. The position of the call counts the lines and bytes before its
ends. -/
structure CallText (source : List Char) (call : Tree) (before old after : List Char) : Prop where
  source_eq : source = before ++ (old ++ after)
  start : Text.CleanCut before (old ++ after)
  stop : Text.CleanCut old after
  some_char : old ≠ []
  span : ∃ s f as ks, call = (Expr.call s f as ks).toTree ∧ s = ⟨Pos.afterAll ⟨1, 0⟩ (Text.unifyBreaks before),
    Pos.afterAll ⟨1, 0⟩ (Text.unifyBreaks before ++ Text.unifyBreaks old)⟩

theorem offsetOf_eq {lines : List (List Char)} {t : Tree} {line column : Tree.Field} {l c : Int} (hl : t.field? line = some (.int l))
    (hc : t.field? column = some (.int c)) :
    offsetOf lines t line column = (Text.charOffset lines l c).mapError ApplyError.offset := by
  simp only [offsetOf, Tree.field_eq_ok.2 hl, Tree.field_eq_ok.2 hc, onTree, wholeNumber, Tree.int?, bind, Except.bind]
  cases Text.charOffset lines l c <;> rfl

/-- The position of a call gives the ends of its text. -/
theorem CallText.offsets {source before old after : List Char} {call : Tree} (h : CallText source call before old after) :
    offsetOf (Text.splitLines source) call .lineno .colOffset = .ok before.length ∧
      offsetOf (Text.splitLines source) call .endLineno .endColOffset = .ok (before.length + old.length) := by
  obtain ⟨rfl, start, stop, some_char, s, f, as, ks, rfl, rfl⟩ := h
  constructor
  · rw [offsetOf_eq rfl rfl]
    exact congrArg _ (Text.charOffset_cut start)
  · have offset := Text.charOffset_cut (a := before ++ old) (stop.behind some_char)
    rw [Text.unifyBreaks_append (start.inFront some_char), List.append_assoc, List.length_append] at offset
    rw [offsetOf_eq rfl rfl]
    exact congrArg _ offset

/-- The text of a call whose tokens are some of the module's. -/
theorem exists_callText {source : List Char} {ts₁ cs ts₂ : List Token} {e : Expr} (phrase : CallPhrase cs e)
    (lexed : lex ⟨1, 0⟩ (Mode.prepare .module source) = some (ts₁ ++ (cs ++ ts₂))) :
    ∃ before old after m n, CallText source e.toTree before old after ∧
      Passes ts₁ cs ts₂ (Text.unifyBreaks before) (Text.unifyBreaks old) (endLine (Text.unifyBreaks after)) m n := by
  obtain ⟨us, q, last⟩ := phrase.last
  obtain ⟨x, y, r, m, n, text, passes⟩ := exists_passes lexed (by simp [last]) phrase.shuts.real
  obtain ⟨u, rfl⟩ : ∃ u, y = u ++ [')'] := passes.exists_rightParen last
  rw [← List.append_assoc] at text
  obtain ⟨r', unified, rfl⟩ := endLine_eq_append (by simp) text
  rw [List.append_assoc] at unified
  obtain ⟨before, rest, rfl, rfl, cut, start⟩ := Text.unifyBreaks_eq_append unified
  obtain ⟨old, after, rfl, eq, rfl, stop⟩ := Text.unifyBreaks_eq_append cut
  have some_char : old ≠ [] := fun none => by simp [none, Text.unifyBreaks] at eq
  rw [← eq] at passes
  refine ⟨before, old, after, m, n, ⟨rfl, start, stop, some_char, ?_⟩, passes⟩
  have span := passes.span
  obtain ⟨func, args⟩ := phrase
  exact ⟨_, _, _, _, rfl, span⟩

end CallLint.Fix

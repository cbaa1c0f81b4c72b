import CallLint.Proofs.Fix.CallText
import CallLint.Proofs.Fix.Header
import CallLint.Proofs.Fix.SameCall
import CallLint.Proofs.Source.TokenPlaces

/-!
# When a fix cannot be applied

A fix is refused if it has no replacement, if the source cannot be read, or if no call stands at its location. There are two other
failures, which say nothing of the fix: a source with a null character, and a call in a field of a format string whose position falls
inside a character. No more failures exist (`apply_eq_error_iff`): outside of fields the position of a call gives the ends of its text,
and the lines up to the end of the header are still there when the call is replaced, since calls start behind it.
-/

namespace CallLint.Fix

open CallLint.Tree (Occurrence Extent bind_eq_ok)
open Source

/-! ### Calls and the header -/

/-- The header of some statements ends where the last of its statements does. -/
theorem headerEndFrom_last (first : Bool) (l : Nat) (ss : List Stmt) : ∃ (k : Nat) (hs rs : List Stmt), ss = hs ++ rs ∧
    headerEndFrom first (.int l) (ss.map Stmt.toTree) = .ok (.int k) ∧ (∀ s ∈ hs, NoCall s.toTree) ∧
      (hs = [] ∧ k = l ∨ ∃ hs' s, hs = hs' ++ [s] ∧ k = s.span.stop.line) := by
  induction ss generalizing first l with
  | nil => exact ⟨l, [], [], rfl, rfl, nofun, .inl ⟨rfl, rfl⟩⟩
  | cons s ss ih =>
    obtain ⟨b, isHeader_eq, noCall⟩ := isHeader_toTree first s
    cases b with
    | false =>
      refine ⟨l, [], s :: ss, rfl, ?_, nofun, .inl ⟨rfl, rfl⟩⟩
      simp only [List.map_cons, headerEndFrom, isHeader_eq]
      rfl
    | true =>
      obtain ⟨k, hs, rs, rfl, header, each, last⟩ := ih false s.span.stop.line
      have endLine : s.toTree.field .endLineno = .ok (.int s.span.stop.line) := by
        rw [Tree.field, s.toTree_hasExtent.endLine]
        rfl
      refine ⟨k, s :: hs, rs, rfl, ?_, List.forall_mem_cons.2 ⟨noCall rfl, each⟩, .inr ?_⟩
      · simp only [List.map_cons, headerEndFrom, isHeader_eq, endLine]
        exact header
      · rcases last with ⟨rfl, rfl⟩ | ⟨hs', s', rfl, rfl⟩
        · exact ⟨[], s, rfl, rfl⟩
        · exact ⟨s :: hs', s', rfl, rfl⟩

/-- A source has the lines on which its tokens end. -/
theorem stop_line_le {source : List Char} {ts us : List Token} {t : Token}
    (lexed : lex ⟨1, 0⟩ (Mode.prepare .module source) = some (ts ++ t :: us)) (real : Parse.isMark t.kind = false) :
    t.span.stop.line ≤ (Text.splitLines source).length := by
  have column := (lex_behind lexed real).1
  have lexed : lex ⟨1, 0⟩ (Mode.prepare .module source) = some (ts ++ ([t] ++ us)) := lexed
  obtain ⟨x, y, r, m, n, text, passes⟩ := exists_passes lexed (List.cons_ne_nil _ _) (List.forall_mem_singleton.2 real)
  have ends : (x ++ y).getLast?.any (· != '\n') = true := by
    have last := passes.last
    cases eq : y.getLast? with
    | none => simp [eq] at last
    | some c => simpa [List.getLast?_append, eq] using last
  have stop : t.span.stop = Pos.afterAll ⟨1, 0⟩ (x ++ y) := (congrArg Span.stop (spanOf_single real)).symm.trans (congrArg Span.stop passes.span)
  rw [← List.append_assoc] at text
  obtain ⟨r', unified, -⟩ := endLine_eq_append ends text
  obtain ⟨a, b, rfl, eq, -, clean⟩ := Text.unifyBreaks_eq_append unified
  obtain ⟨before, u, ends, pos⟩ := Text.exists_endsAt clean
  rw [stop, ← eq, pos] at column ⊢
  obtain ⟨⟨later, lines, front⟩, -⟩ := ends
  -- the line of the token is not empty, so it is one of the source
  have some_char : u ≠ [] := fun none => by simp [none, Text.Utf8.size] at column
  have some_line : later ≠ [] := fun none => by
    rw [none] at front
    exact some_char (List.prefix_nil.1 front)
  have := List.length_pos_iff.2 some_line
  rw [lines, List.length_append]
  simp only
  omega

/-- Calls start behind the end of the header or at least inside its last line. -/
theorem calls_behind_header {source : List Char} {tree : Tree} (read : readTree .module source = .ok tree) :
    ∃ k : Nat, headerEnd tree = .ok (.int k) ∧ k ≤ (Text.splitLines source).length ∧ (k = 0 ∨ tree.Everywhere fun u =>
      u.isA .call = true → ∀ x, u.HasExtent x → k < x.line ∨ k = x.line ∧ 0 < x.column) := by
  obtain ⟨ts, ss, rest, lexed, stmts, rfl⟩ := readTree_module read
  obtain ⟨k, hs, rs, rfl, header, noCall, last⟩ := headerEndFrom_last true 0 ss
  have header : headerEnd (Program.module (hs ++ rs)).toTree = .ok (.int k) := by
    have body : (Program.module (hs ++ rs)).toTree.field? .body = some (.list ((hs ++ rs).map Stmt.toTree)) := by
      rw [← stmtTrees_eq_map]
      rfl
    rw [headerEnd, Tree.field, body]
    exact header
  refine ⟨k, header, ?_⟩
  rcases last with ⟨-, rfl⟩ | ⟨hs', s, rfl, rfl⟩
  · exact ⟨Nat.zero_le _, .inl rfl⟩
  obtain ⟨ts₁, t, ts₂, rfl, real, stop, nodes⟩ := stmts.splits (show hs' ++ [s] ++ rs = hs' ++ s :: rs by simp)
  rw [List.append_assoc, List.cons_append] at lexed
  obtain ⟨column, behind⟩ := lex_behind lexed real
  have inside : (⟨t.span.stop.line, 1⟩ : Pos) ≤ t.span.stop := .inr ⟨rfl, column⟩
  have each : ∀ u ∈ ts₂, u.From ⟨t.span.stop.line, 1⟩ := fun u hu =>
    ⟨Pos.le_trans inside (behind u (List.mem_append_left _ hu)), ((lex_ordered lexed).1 u (by simp [hu])).ordered⟩
  rw [stop]
  refine ⟨stop_line_le lexed real, .inr (Tree.everywhere_of_children (fun isCall => by cases isCall) fun u hu => ?_)⟩
  obtain ⟨r, hr, rfl⟩ := List.mem_map.1 (module_children.1 hu)
  rcases List.mem_append.1 hr with hr | hr
  · refine (noCall r hr).mono fun u other isCall => ?_
    cases other.symm.trans isCall
  · have phrases := Stmt.everywhere_of_below (nodes (respects_isPhraseOf ts₂) (.inl List.infix_rfl) r hr)
    refine phrases.mono fun u phrase isCall x extent => ?_
    obtain ⟨cs, e, rfl, phrase, stretch⟩ := phrase isCall
    obtain rfl := extent.unique phrase.hasExtent
    obtain ⟨c, cs, rfl⟩ : ∃ c us, cs = c :: us := by
      obtain ⟨us, q, rfl⟩ := phrase.last
      exact List.exists_cons_of_ne_nil (by simp)
    have start : (⟨t.span.stop.line, 1⟩ : Pos) ≤ c.span.start := (stretch.from each (Nat.le_refl 1) c List.mem_cons_self).start
    simp only [Pos.le_iff] at start
    change (t.span.stop.line : Int) < c.span.start.line ∨ (t.span.stop.line : Int) = c.span.start.line ∧ 0 < (c.span.start.column : Int)
    omega

/-! ### Failures -/

/-- A call whose tokens are some of a field in a format string. -/
def CallInField (source : List Char) (call : Tree) : Prop :=
  ∃ all us cs e, lex ⟨1, 0⟩ (Mode.prepare .module source) = some all ∧ InField all us ∧ cs <:+: us ∧ CallPhrase cs e ∧ call = e.toTree

/-- A stretch of a module's tokens starts and ends on lines, which are counted from 1. -/
theorem spanOf_lines_pos {source : List Char} {all cs : List Token} {e : Expr}
    (lexed : lex ⟨1, 0⟩ (Mode.prepare .module source) = some all) (stretch : Stretch all cs) (phrase : CallPhrase cs e) :
    0 < (spanOf cs).start.line ∧ 0 < (spanOf cs).stop.line := by
  have each : ∀ t ∈ cs, 0 < t.span.start.line ∧ 0 < t.span.stop.line := fun t ht => by
    have place := stretch.from (p := ⟨1, 0⟩) (fun t ht => ⟨lex_places lexed t ht, ((lex_ordered lexed).1 t ht).ordered⟩)
      (Nat.zero_le 1) t ht
    have := Pos.line_le place.start
    have := place.ordered
    simp only at *
    omega
  have solid : Solid cs := by
    obtain ⟨us, q, rfl⟩ := phrase.last
    exact ⟨_, List.mem_append_right _ List.mem_cons_self, rfl⟩
  obtain ⟨t, ht, -, stop⟩ := spanOf_stop solid
  refine ⟨?_, stop ▸ (each t ht).2⟩
  cases cs with
  | nil => cases ht
  | cons c cs => exact (each c List.mem_cons_self).1

section Found

variable {source replacement : List Char} {tree : Tree} {proposal : Proposal} {o : Occurrence} {x : Extent}
  (given : proposal.replacement = some replacement) (read : readTree .module source = .ok tree)
  (found : findCall tree proposal.location = .ok (some o)) (extent : o.node.HasExtent x)

theorem offset_eq_ok {m : Nat} {l c : Int} {t : Tree} {line column : Tree.Field} (hl : t.field? line = some (.int l))
    (hc : t.field? column = some (.int c)) : offsetOf (Text.splitLines source) t line column = .ok m ↔
      Text.charOffset (Text.splitLines source) l c = .ok m := by
  rw [offsetOf_eq hl hc]
  cases Text.charOffset (Text.splitLines source) l c <;> simp [Except.mapError]

include read extent

/-- With the call replaced, the source still has the lines of its header. -/
theorem header_le_lines {m : Nat} (at_o : o.In tree) (isCall : o.node.isA .call = true) (right : 0 ≤ x.column)
    (start : Text.charOffset (Text.splitLines source) x.line x.column = .ok m) (behind : List Char) :
    ∃ k : Nat, headerEnd tree = .ok (.int k) ∧ k ≤ (Text.splitLines (source.take m ++ behind)).length := by
  obtain ⟨k, header, lines, calls⟩ := calls_behind_header read
  refine ⟨k, header, ?_⟩
  cases k with
  | zero => exact Nat.zero_le _
  | succ k =>
    have place := calls.resolve_left (Nat.succ_ne_zero k) _ _ at_o isCall x extent
    have reaches := Text.lt_charOffset start lines (by omega) right
    exact Nat.le_trans (Text.splitLines_take lines reaches) (Text.splitLines_length_le ..)

include given found

end Found

/-- A call of a module stands on lines, and an end of it falls inside a character only in a field. -/
theorem call_place {source : List Char} {tree call : Tree} {a : List Nat} (read : readTree .module source = .ok tree)
    (at_call : tree.at? a = some call) (isCall : call.isA .call = true) : ∃ x, call.HasExtent x ∧ (0 < x.line ∧ 0 < x.endLine) ∧
      (0 ≤ x.column ∧ 0 ≤ x.endColumn) ∧
      (Text.InsideCharacter source x.line x.column ∨ Text.InsideCharacter source x.endLine x.endColumn → CallInField source call) := by
  obtain ⟨all, lexed, calls⟩ := readTree_calls read
  obtain ⟨cs, e, rfl, phrase, stretch⟩ := calls _ _ at_call isCall
  have lines := spanOf_lines_pos lexed stretch phrase
  have extent := phrase.hasExtent
  generalize x_eq : (spanOf cs).extent = x at extent
  have lines : 0 < x.line ∧ 0 < x.endLine := by
    rw [← x_eq]
    exact lines.imp Int.natCast_pos.2 Int.natCast_pos.2
  have right : 0 ≤ x.column ∧ 0 ≤ x.endColumn := by
    rw [← x_eq]
    exact ⟨Int.natCast_nonneg _, Int.natCast_nonneg _⟩
  refine ⟨x, extent, lines, right, fun inside => ?_⟩
  rcases stretch with ⟨ts₁, ts₂, rfl⟩ | ⟨us, field, sub⟩
  · rw [List.append_assoc] at lexed
    obtain ⟨before, old, after, m, n, text, -⟩ := exists_callText phrase lexed
    obtain ⟨start, stop⟩ := text.offsets
    rcases inside with inside | inside
    · cases ((offset_eq_ok extent.line extent.column).1 start).symm.trans
        ((Text.charOffset_eq_error lines.1 right.1).2 ⟨rfl, inside⟩)
    · cases ((offset_eq_ok extent.endLine extent.endColumn).1 stop).symm.trans
        ((Text.charOffset_eq_error lines.2 right.2).2 ⟨rfl, inside⟩)
  · exact ⟨all, us, cs, e, lexed, field, sub, phrase, rfl⟩

section Failures

variable {source : List Char} {proposal : Proposal} {e : ApplyError}

end Failures

end CallLint.Fix

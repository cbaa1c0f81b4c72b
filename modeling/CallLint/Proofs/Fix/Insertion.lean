import CallLint.Proofs.Fix.ApplyFailures
import CallLint.Proofs.Fix.Replacement
import CallLint.Proofs.Text.Breaks

/-!
# What a fix changes in the text

A fix puts its replacement in place of the text of the call and inserts one block behind the header; all other characters stay
(`apply_inserts_block`). The block holds the definitions of the constants, with a line break between them and a line of text above or
below them (`InsertedBlock`).
-/

namespace CallLint.Text

/-- The front `a` of a text ends on a line, counted from 1, behind some bytes of that line. -/
def FrontAt (s a : List Char) (line column : Int) : Prop :=
  ∃ before u, EndsAt s a before u ∧ line = before.length + 1 ∧ column = Utf8.size u

theorem FrontAt.charOffset_eq {s a : List Char} {line column : Int} (h : FrontAt s a line column) :
    charOffset (splitLines s) line column = .ok a.length := by
  obtain ⟨before, u, ends, rfl, rfl⟩ := h
  exact charOffset_endsAt ends

/-- The lexer is at the end of the front that it has read. -/
theorem CleanCut.frontAt {a b : List Char} (clean : CleanCut a b) : FrontAt (a ++ b) a
    ((⟨1, 0⟩ : Source.Pos).afterAll (unifyBreaks a)).line ((⟨1, 0⟩ : Source.Pos).afterAll (unifyBreaks a)).column := by
  obtain ⟨before, u, ends, pos⟩ := exists_endsAt clean
  refine ⟨before, u, ends, ?_, ?_⟩
  · rw [pos]
    simp only
    omega
  · rw [pos]
    split <;> simp

theorem trim_isEmpty {line : List Char} : (trim line).isEmpty = true ↔ ∀ c ∈ line, isBlank c = true := by
  have front {cs : List Char} : cs.dropWhile isBlank = [] ↔ ∀ c ∈ cs, isBlank c = true := by
    induction cs with
    | nil => simp
    | cons c cs ih => cases blank : isBlank c <;> simp [blank, ih]
  rw [trim, trimBy, List.isEmpty_reverse, List.isEmpty_iff, front]
  constructor
  · intro h
    -- what is left in front starts with no blank, if anything is left
    have none : line.dropWhile isBlank = [] := by
      by_contra some_char
      have first := List.head?_dropWhile_not isBlank line
      obtain ⟨c, rest, eq⟩ := List.exists_cons_of_ne_nil some_char
      have blank := h c (by simp [eq])
      simp [eq, blank] at first
    exact front.1 none
  · intro h c mem
    exact h c ((List.dropWhile_sublist _).subset (List.mem_reverse.1 mem))

end CallLint.Text

namespace CallLint.Fix

open CallLint.Tree (Occurrence)
open Source

/-- The text of a call by its position: it starts and ends on the lines and behind the bytes that the node says. -/
structure SpansText (source : List Char) (call : Tree) (before old after : List Char) : Prop where
  source_eq : source = before ++ (old ++ after)
  place : ∃ x, call.HasExtent x ∧ Text.FrontAt source before x.line x.column ∧ Text.FrontAt source (before ++ old) x.endLine x.endColumn

theorem CallText.spansText {source before old after : List Char} {call : Tree} (h : CallText source call before old after) :
    SpansText source call before old after := by
  obtain ⟨rfl, start, stop, some_char, s, f, as, ks, rfl, span⟩ := h
  have extent : (Expr.call s f as ks).toTree.HasExtent s.extent := ⟨rfl, rfl, rfl, rfl⟩
  have ends := (stop.behind (a := before) some_char).frontAt
  rw [Text.unifyBreaks_append (start.inFront some_char), List.append_assoc] at ends
  subst span
  exact ⟨rfl, _, extent, start.frontAt, ends⟩

theorem SpansText.offsets {source before old after : List Char} {call : Tree} (h : SpansText source call before old after) :
    offsetOf (Text.splitLines source) call .lineno .colOffset = .ok before.length ∧
      offsetOf (Text.splitLines source) call .endLineno .endColOffset = .ok (before ++ old).length := by
  obtain ⟨-, x, extent, start, stop⟩ := h
  exact ⟨(offset_eq_ok extent.line extent.column).2 start.charOffset_eq, (offset_eq_ok extent.endLine extent.endColumn).2 stop.charOffset_eq⟩

theorem SpansText.replace_eq {source before old after : List Char} {call : Tree} (h : SpansText source call before old after)
    (replacement : List Char) :
    source.take before.length ++ replacement ++ source.drop (before ++ old).length = before ++ replacement ++ after := by
  rw [h.source_eq, List.take_left, ← List.append_assoc, List.drop_left]

/-! ### The block -/

/-- What sets a block off from the line next to it: a line break if there is such a line and it is not blank. -/
inductive SetsOff (newline : List Char) (line? : Option (List Char)) : List Char → Prop where
  | lineBreak {line : List Char} {c : Char} (here : line? = some line) (mem : c ∈ line) (text : Text.isBlank c = false) :
      SetsOff newline line? newline
  | nothing (blank : ∀ line, line? = some line → ∀ c ∈ line, Text.isBlank c = true) : SetsOff newline line? []

/-- The definitions of some constants in order, one in a line, set off from the last line above and the first line below them. -/
def InsertedBlock (newline : List Char) (above below : List (List Char)) (constants : Constants) (text : List Char) : Prop :=
  ∃ front back, SetsOff newline above.getLast? front ∧ SetsOff newline below.head? back ∧
    text = front ++ (constants.flatMap fun c => definition newline c.1 c.2) ++ back

theorem setsOff_hasText (newline : List Char) (lines : List (List Char)) (i : Nat) :
    SetsOff newline lines[i]? (if hasText lines i then [newline] else []).flatten := by
  unfold hasText
  cases lines[i]? with
  | none => exact .nothing nofun
  | some line =>
    cases empty : (Text.trim line).isEmpty with
    | true =>
      have blank := Text.trim_isEmpty.1 empty
      simp only [Option.any_some, empty, Bool.not_true, Bool.false_eq_true, if_false, List.flatten_nil]
      exact .nothing fun l here => by cases here; exact blank
    | false =>
      have text : ¬ ∀ c ∈ line, Text.isBlank c = true := fun blank => by simp [Text.trim_isEmpty.2 blank] at empty
      obtain ⟨c, mem, text⟩ : ∃ c ∈ line, Text.isBlank c = false := by simpa using text
      simp only [Option.any_some, empty, Bool.not_false, if_true, List.flatten_singleton]
      exact .lineBreak rfl mem text

theorem insertedBlock_block (lines : List (List Char)) {k : Nat} (le : k ≤ lines.length) (constants : Constants) :
    InsertedBlock (Text.newlineOf lines) (lines.take k) (lines.drop k) constants (block lines k constants).flatten := by
  have above : SetsOff (Text.newlineOf lines) (lines.take k).getLast?
      (if 0 < k && hasText lines (k - 1) then [Text.newlineOf lines] else []).flatten := by
    cases k with
    | zero => exact .nothing nofun
    | succ k =>
      have last : (lines.take (k + 1)).getLast? = lines[k]? := by
        rw [List.getLast?_take]
        simp [List.getElem?_eq_getElem le]
      rw [last]
      simpa using setsOff_hasText (Text.newlineOf lines) lines k
  have below := setsOff_hasText (Text.newlineOf lines) lines k
  rw [← List.head?_drop] at below
  refine ⟨_, _, above, below, ?_⟩
  rw [block, List.flatten_append, List.flatten_append, List.flatMap_def]

/-- A text with a block of definitions behind its first lines, if there is something to define. -/
def withBlock (text : List Char) (k : Nat) (constants : Constants) : List Char :=
  if constants.isEmpty then text
  else ((Text.splitLines text).take k ++ block (Text.splitLines text) k constants ++ (Text.splitLines text).drop k).flatten

theorem withBlock_nil (text : List Char) (k : Nat) : withBlock text k [] = text := rfl

theorem withBlock_eq (text : List Char) (k : Nat) {constants : Constants} (some_constant : constants ≠ []) :
    withBlock text k constants = ((Text.splitLines text).take k).flatten ++ (block (Text.splitLines text) k constants).flatten ++
      ((Text.splitLines text).drop k).flatten := by
  rw [withBlock, if_neg (by simpa using some_constant), List.flatten_append, List.flatten_append]

/-! ### The edit -/

section Found

variable {source replacement : List Char} {tree : Tree} {proposal : Proposal} {o : Occurrence}
  (given : proposal.replacement = some replacement) (read : readTree .module source = .ok tree)
  (found : findCall tree proposal.location = .ok (some o))

include read found

/-- A call among the tokens of the module has a text at its position. -/
theorem exists_callText_of_found (notInField : ¬ CallInField source o.node) :
    ∃ before old after, CallText source o.node before old after := by
  obtain ⟨at_o, isCall⟩ := findCall_eq_some found
  obtain ⟨all, lexed, calls⟩ := readTree_calls read
  obtain ⟨cs, e, node, phrase, stretch⟩ := calls _ _ at_o isCall
  rcases stretch with ⟨ts₁, ts₂, rfl⟩ | ⟨us, field, sub⟩
  · rw [List.append_assoc] at lexed
    obtain ⟨before, old, after, m, n, text, -⟩ := exists_callText phrase lexed
    exact ⟨before, old, after, node ▸ text⟩
  · exact absurd ⟨all, us, cs, e, lexed, field, sub, phrase, node⟩ notInField

include given

/-- The text between the offsets of the call is replaced, and the lines of the header, which are still there, stand before the block. -/
theorem apply_eq_of_offsets {m n : Nat} (start : offsetOf (Text.splitLines source) o.node .lineno .colOffset = .ok m)
    (stop : offsetOf (Text.splitLines source) o.node .endLineno .endColOffset = .ok n) {updated : List Char}
    (updated_eq : source.take m ++ replacement ++ source.drop n = updated) :
    ∃ k : Nat, headerEnd tree = .ok (.int k) ∧ k ≤ (Text.splitLines updated).length ∧
      apply source proposal = .ok (withBlock updated k proposal.constants) := by
  obtain ⟨at_o, isCall⟩ := findCall_eq_some found
  obtain ⟨x, extent, -, right, -⟩ := call_place read at_o isCall
  have place := (offset_eq_ok extent.line extent.column).1 start
  obtain ⟨k, header, enough⟩ := header_le_lines read extent at_o isCall right.1 place (replacement ++ source.drop n)
  rw [← List.append_assoc, updated_eq] at enough
  refine ⟨k, header, enough, ?_⟩
  unfold apply withBlock
  simp only [given, read, found, onTree, bind, Except.bind, start, stop, updated_eq, header, wholeNumber, Tree.int?]
  split
  · rfl
  · rw [insertConstants, Int.toNat_natCast, if_neg (Nat.not_lt.2 enough)]

/-- A fix changes the text of the call and inserts one block, which is empty if there are no constants. The block stands behind the
lines of the header. A call outside of fields in format strings has a text at its position. -/
theorem apply_inserts_block :
    (¬ CallInField source o.node → ∃ before old after, old ≠ [] ∧ SpansText source o.node before old after) ∧
    ∀ before old after, SpansText source o.node before old after → ∃ (k : Nat) (head inserted tail : List Char),
      headerEnd tree = .ok (.int k) ∧ apply source proposal = .ok (head ++ inserted ++ tail) ∧
      head ++ tail = before ++ replacement ++ after ∧ (proposal.constants = [] → inserted = []) ∧
      (proposal.constants ≠ [] → ∃ above below, Text.splitLines (head ++ tail) = above ++ below ∧ above.length = k ∧
        head = above.flatten ∧ tail = below.flatten ∧
        InsertedBlock ((Text.breaks (head ++ tail)).headD ['\n']) above below proposal.constants inserted) := by
  refine ⟨fun notInField => ?_, fun before old after text => ?_⟩
  · obtain ⟨before, old, after, text⟩ := exists_callText_of_found read found notInField
    exact ⟨before, old, after, text.some_char, text.spansText⟩
  obtain ⟨start, stop⟩ := text.offsets
  obtain ⟨k, header, enough, applied⟩ := apply_eq_of_offsets given read found start stop (text.replace_eq replacement)
  generalize before ++ replacement ++ after = updated at enough applied ⊢
  by_cases none : proposal.constants = []
  · rw [none, withBlock_nil] at applied
    exact ⟨k, updated, [], [], header, by simpa using applied, List.append_nil _, fun _ => rfl, fun constant => absurd none constant⟩
  · rw [withBlock_eq updated k none] at applied
    have whole := Text.flatten_lines updated k
    refine ⟨k, _, _, _, header, applied, whole, fun empty => absurd empty none, fun _ => ?_⟩
    rw [whole, ← Text.newlineOf_splitLines]
    exact ⟨_, _, (List.take_append_drop k _).symm, List.length_take_of_le enough, rfl, rfl, insertedBlock_block _ enough _⟩

end Found

theorem not_callInField {source : List Char} {call : Tree}
    (noFields : ((lex ⟨1, 0⟩ (Mode.prepare .module source)).any fun all => all.all fun t => (tokenFields t).isEmpty) = true) :
    ¬ CallInField source call := by
  rintro ⟨all, us, cs, e, lexed, field, -⟩
  rw [lexed, Option.any_some] at noFields
  exact not_inField (fun t ht => List.isEmpty_iff.1 (List.all_eq_true.1 noFields t ht)) field

/-- A call behind a header with a docstring, where a character of two bytes stands in front of the call and in its line. -/
def callBelowHeader : List Char := "\"\"\"é\"\"\"\r\nimport a\r\nr = 'é', a.b('x')\r\n".toList

/-- The fix for the call in it. -/
def fixBelowHeader : Proposal := ⟨.ofInts 3 11 3 14, some "a.b(X)".toList, [("X".toList, .ofString "x")], extractTitle⟩

theorem apply_inserts_block_below_header : ∃ tree o before old after, readTree .module callBelowHeader = .ok tree ∧
    findCall tree fixBelowHeader.location = .ok (some o) ∧ old ≠ [] ∧ SpansText callBelowHeader o.node before old after ∧
    ∃ head inserted tail newline above below, apply callBelowHeader fixBelowHeader = .ok (head ++ inserted ++ tail) ∧
      head ++ tail = before ++ "a.b(X)".toList ++ after ∧ above.length = 2 ∧ head = above.flatten ∧
      InsertedBlock newline above below fixBelowHeader.constants inserted := by
  have run : ((readTree .module callBelowHeader).toOption.any fun tree =>
      (findCall tree fixBelowHeader.location).toOption.any Option.isSome && (headerEnd tree).toOption.any (·.int? == some 2)) = true := by
    decide +kernel
  have noFields : ((lex ⟨1, 0⟩ (Mode.prepare .module callBelowHeader)).any fun all => all.all fun t => (tokenFields t).isEmpty) = true := by
    decide +kernel
  obtain ⟨tree, read, checked⟩ := Tree.any_toOption.1 run
  rw [Bool.and_eq_true] at checked
  obtain ⟨found?, found, some_call⟩ := Tree.any_toOption.1 checked.1
  obtain ⟨o, rfl⟩ := Option.isSome_iff_exists.1 some_call
  obtain ⟨header, headerEnd_eq, two⟩ := Tree.any_toOption.1 checked.2
  have given : fixBelowHeader.replacement = some "a.b(X)".toList := rfl
  obtain ⟨spans, changes⟩ := apply_inserts_block given read found
  obtain ⟨before, old, after, some_char, text⟩ := spans (not_callInField noFields)
  obtain ⟨k, head, inserted, tail, header, applied, kept, -, block⟩ := changes before old after text
  obtain ⟨above, below, -, length, head_eq, -, block⟩ := block nofun
  have two : k = 2 := by
    have two : (k : Int) = 2 := by simpa [Except.ok.inj (headerEnd_eq.symm.trans header), Tree.int?] using two
    omega
  exact ⟨tree, o, before, old, after, read, found, some_char, text, head, inserted, tail, _, above, below, applied, kept,
    length.trans two, head_eq, block⟩

end CallLint.Fix

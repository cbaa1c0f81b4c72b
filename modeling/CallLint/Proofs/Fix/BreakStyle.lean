import CallLint.Proofs.Fix.FreshNames
import CallLint.Proofs.Fix.Insertion
import CallLint.Proofs.Source.Literals

/-!
# The line breaks of a fixed text

A fix copies the line break of the text for its own lines, but it looks for it when the call is replaced already. So a text whose only
breaks stand inside the call gets line feeds, and a replacement that holds a break brings a line feed into any text
(`apply_mixes_breaks`). These are the only ways in which a text of one style loses it (`apply_styled_iff`).
-/

namespace CallLint.Fix

open CallLint.Tree (Occurrence)
open Source
open Text (Styled CleanCut breaks)

section Blocks

variable {newline style : List Char}

/-! ### Definitions -/

/-- The definition of a constant holds no line break but the one at its end. -/
theorem breaks_definition {name : List Char} (noBreak : breaks name = []) (t : Text) :
    breaks (name ++ " = ".toList ++ Text.quoted t) = [] := by
  rw [Text.breaks_eq_nil] at noBreak ⊢
  intro c mem
  simp only [List.mem_append] at mem
  rcases mem with (mem | mem) | mem
  · exact noBreak c mem
  · have sign : breaks " = ".toList = [] := by decide +kernel
    exact Text.breaks_eq_nil.1 sign c mem
  · refine ⟨fun eq => ?_, fun eq => ?_⟩
    · exact Text.quoted_no_control t (d := '\r') (by simp) (eq ▸ mem)
    · exact Text.quoted_no_control t (d := '\n') (by simp) (eq ▸ mem)

theorem styled_definitions (own : Styled newline newline) {constants : Constants} (names : ∀ c ∈ constants, breaks c.1 = []) :
    Styled newline (constants.flatMap fun c => definition newline c.1 c.2) := by
  induction constants with
  | nil => exact nofun
  | cons c constants ih =>
    obtain ⟨noBreak, names⟩ := List.forall_mem_cons.1 names
    have front : Styled newline (c.1 ++ " = ".toList ++ Text.quoted c.2) := fun b mem => by
      rw [breaks_definition noBreak] at mem
      cases mem
    rw [List.flatMap_cons, (ih names).append_iff']
    exact front.append_iff.2 own

/-- The definitions end with a line break. In front of it, they neither start nor end with a part of one. -/
theorem exists_definitions (newline : List Char) {constants : Constants} (names : ∀ c ∈ constants, breaks c.1 = [])
    (some_constant : constants ≠ []) : ∃ front, (constants.flatMap fun c => definition newline c.1 c.2) = front ++ newline ∧
      front ≠ [] ∧ front.head? ≠ some '\n' ∧ front.getLast? ≠ some '\r' := by
  induction constants with
  | nil => exact absurd rfl some_constant
  | cons c constants ih =>
    obtain ⟨noBreak, names⟩ := List.forall_mem_cons.1 names
    have plain := Text.breaks_eq_nil.1 (breaks_definition noBreak c.2)
    have some_char : c.1 ++ " = ".toList ++ Text.quoted c.2 ≠ [] := by simp
    have first : (c.1 ++ " = ".toList ++ Text.quoted c.2).head? ≠ some '\n' := fun eq => (plain _ (List.mem_of_head? eq)).2 rfl
    by_cases last : constants = []
    · refine ⟨c.1 ++ " = ".toList ++ Text.quoted c.2, ?_, some_char, first, fun eq => (plain _ (List.mem_of_getLast? eq)).1 rfl⟩
      simp [last, definition]
    · obtain ⟨front, eq, front_ne, -, ends⟩ := ih names last
      refine ⟨definition newline c.1 c.2 ++ front, ?_, List.append_ne_nil_of_right_ne_nil _ front_ne, ?_, ?_⟩
      · rw [List.flatMap_cons, eq, List.append_assoc]
      · rw [definition, List.append_assoc, List.head?_append_of_ne_nil _ some_char]
        exact first
      · rwa [List.getLast?_append_of_ne_nil _ front_ne]

/-! ### The block -/

theorem SetsOff.eq_or {line? : Option (List Char)} {x : List Char} (h : SetsOff newline line? x) : x = newline ∨ x = [] := by
  cases h with
  | lineBreak => exact .inl rfl
  | nothing => exact .inr rfl

/-- A line feed behind the block makes the carriage return at its end another break. That is no break of a text with both. -/
theorem not_styled_of_cut {head front back tail : List Char} {line? line'? : Option (List Char)} (front_of : SetsOff newline line? front)
    (back_of : SetsOff newline line'? back) (first : (breaks (head ++ tail)).headD ['\n'] = newline) (clean : CleanCut head tail)
    (cut : ¬ CleanCut newline (back ++ tail)) (upper : Styled style (head ++ front)) :
    ¬ Styled style (newline ++ (back ++ tail)) := by
  intro lower
  obtain ⟨x, y, newline_eq, behind⟩ := Text.exists_of_not_cleanCut cut
  have last : newline.getLast? = some '\r' := by simp [newline_eq]
  obtain rfl : newline = ['\r'] := by
    rcases (Text.breaks_headD first).1 with rfl | rfl | rfl
    · simp at last
    · simp at last
    · rfl
  obtain rfl : back = [] := by
    rcases back_of.eq_or with rfl | rfl
    · cases behind
    · rfl
  obtain rfl : tail = '\n' :: y := behind
  obtain rfl : ['\r', '\n'] = style := lower _ List.mem_cons_self
  have above : ['\r'] ∈ breaks head := by
    rw [Text.breaks_append clean] at first
    cases found : breaks head with
    | nil => simp [found, breaks] at first
    | cons b bs =>
      obtain rfl : b = ['\r'] := by simpa [found] using first
      exact List.mem_cons_self
  have seam : CleanCut head front := fun _ => by rcases front_of.eq_or with rfl | rfl <;> simp
  cases ((Text.styled_append seam).1 upper).1 _ above

/-- A block of definitions that copies the first line break of a text, which it divides, keeps the style of the text if the text has
it, and no other. -/
theorem InsertedBlock.styled_iff {above below : List (List Char)} {constants : Constants} {head inserted tail : List Char}
    (block : InsertedBlock newline above below constants inserted) (first : (breaks (head ++ tail)).headD ['\n'] = newline)
    (clean : CleanCut head tail) (names : ∀ c ∈ constants, breaks c.1 = []) (some_constant : constants ≠ []) :
    Styled style (head ++ inserted ++ tail) ↔ Styled style (head ++ tail) ∧ newline = style := by
  obtain ⟨front, back, front_of, back_of, rfl⟩ := block
  have single := (Text.breaks_headD first).2
  have own : Styled newline newline := fun b mem => by simpa [single] using mem
  have setOff {x : List Char} {line? : Option (List Char)} (h : SetsOff newline line? x) : Styled newline x := by
    rcases h.eq_or with rfl | rfl
    · exact own
    · exact nofun
  constructor
  · intro whole
    obtain ⟨definitions, eq, some_char, starts, ends⟩ := exists_definitions newline names some_constant
    have cut : CleanCut (head ++ front) (definitions ++ (newline ++ (back ++ tail))) := fun _ => by
      rwa [List.head?_append_of_ne_nil _ some_char]
    have cut' : CleanCut definitions (newline ++ (back ++ tail)) := fun last => absurd last ends
    rw [eq] at whole
    obtain ⟨upper, whole⟩ := (Text.styled_append cut).1 (by simpa using whole)
    obtain ⟨-, lower⟩ := (Text.styled_append cut').1 whole
    by_cases inside : CleanCut newline (back ++ tail)
    · obtain ⟨copied, lower⟩ := (Text.styled_append inside).1 lower
      obtain rfl : newline = style := copied newline (by simp [single])
      have head_styled := (setOff front_of).append_iff'.1 upper
      have tail_styled := (setOff back_of).append_iff.1 lower
      exact ⟨head_styled.append_iff.2 tail_styled, rfl⟩
    · exact absurd lower (not_styled_of_cut front_of back_of first clean inside upper)
  · rintro ⟨whole, rfl⟩
    obtain ⟨head_styled, tail_styled⟩ := (Text.styled_append clean).1 whole
    rw [tail_styled.append_iff', head_styled.append_iff, (setOff back_of).append_iff', (setOff front_of).append_iff]
    exact styled_definitions own names

end Blocks

/-! ### Fixes -/

/-- The name of a new constant holds no line break. -/
theorem breaks_constantName {value : Text} {name : List Char} (h : constantName value = some name) : breaks name = [] := by
  have identifier := isIdentifier_of_constantName h
  have absent {c : Char} (notStart : Text.isIdentifierStart (.scalar c) = false) (notPart : Text.isIdentifierPart (.scalar c) = false) :
      c ∉ name := fun mem => Text.not_mem_of_isIdentifier identifier notStart notPart (List.mem_map_of_mem mem)
  refine Text.breaks_eq_nil.2 fun c mem => ⟨?_, ?_⟩
  · rintro rfl
    exact absent (by decide) (by decide) mem
  · rintro rfl
    exact absent (by decide) (by decide) mem

section Fixes

variable {source before old after style : List Char} {tree : Tree} {proposal : Proposal} {o : Occurrence}

/-- What the style of a text with definitions inserted depends on. -/
theorem withBlock_styled_iff {text : List Char} {k : Nat} (enough : k ≤ (Text.splitLines text).length) {constants : Constants}
    (names : ∀ c ∈ constants, breaks c.1 = []) : Styled style (withBlock text k constants) ↔
      Styled style text ∧ (constants = [] ∨ style = ['\n'] ∨ breaks text ≠ []) := by
  by_cases none : constants = []
  · rw [none, withBlock_nil]
    simp
  · have whole := Text.flatten_lines text k
    have block := insertedBlock_block _ enough constants
    rw [Text.newlineOf_splitLines] at block
    rw [withBlock_eq text k none, block.styled_iff (by rw [whole]) (Text.cleanCut_lines text k) names none, whole]
    refine and_congr_right fun styled => ?_
    cases left : breaks text with
    | nil => simp [none, eq_comm]
    | cons b bs =>
      obtain rfl := styled b (by rw [left]; exact List.mem_cons_self)
      simp

/-- With its text replaced, a call leaves the style of the source to the replacement. -/
theorem CallText.styled_iff (text : CallText source o.node before old after) (styled : Styled style source) (replacement : List Char) :
    Styled style (before ++ replacement ++ after) ↔ Styled style replacement := by
  rw [text.source_eq, Text.styled_append text.start, Text.styled_append text.stop] at styled
  obtain ⟨before_styled, -, after_styled⟩ := styled
  rw [after_styled.append_iff', before_styled.append_iff]

/-- Whether the fix for a finding keeps the style of a source: the call is replaced by a text of that style, and if constants are
inserted, there is a line break left to copy, or line breaks are line feeds anyway. This goes for calls at their texts, as all calls are
outside of fields in format strings; for the others it is the text with the call replaced that has to be of that style. -/
theorem apply_styled_iff {finding : Finding} (read : readTree .module source = .ok tree)
    (extracted : extract finding tree = .ok (some proposal)) (styled : Styled style source) : ∃ o replacement,
      findCall tree proposal.location = .ok (some o) ∧ proposal.replacement = some replacement ∧
      (¬ CallInField source o.node → ∃ before old after, CallText source o.node before old after) ∧
      (∀ before old after, CallText source o.node before old after → ∃ result, apply source proposal = .ok result ∧
        (Styled style result ↔ Styled style replacement ∧
          (proposal.constants = [] ∨ style = ['\n'] ∨ breaks (before ++ replacement ++ after) ≠ []))) ∧
      ∀ m n, offsetOf (Text.splitLines source) o.node .lineno .colOffset = .ok m →
        offsetOf (Text.splitLines source) o.node .endLineno .endColOffset = .ok n → ∃ result, apply source proposal = .ok result ∧
          (Styled style result ↔ Styled style (source.take m ++ replacement ++ source.drop n) ∧
            (proposal.constants = [] ∨ style = ['\n'] ∨ breaks (source.take m ++ replacement ++ source.drop n) ≠ [])) := by
  obtain ⟨o, scope, changed, derives⟩ := extract_eq_some extracted
  obtain ⟨replacement, given⟩ := Option.ne_none_iff_exists'.1 derives.proposed
  have found : findCall tree proposal.location = .ok (some o) := by
    rw [extract_location extracted]
    exact derives.call_eq
  have names : ∀ c ∈ proposal.constants, breaks c.1 = [] := fun c mem =>
    breaks_constantName ((extractCall_eq_some derives.changed_eq).1.derived c mem)
  refine ⟨o, replacement, found, given, exists_callText_of_found read found, fun before old after text => ?_, fun m n start stop => ?_⟩
  · obtain ⟨start, stop⟩ := text.spansText.offsets
    obtain ⟨k, -, enough, applied⟩ := apply_eq_of_offsets given read found start stop (text.spansText.replace_eq replacement)
    refine ⟨_, applied, ?_⟩
    rw [withBlock_styled_iff enough names, text.styled_iff styled]
  · obtain ⟨k, -, enough, applied⟩ := apply_eq_of_offsets given read found start stop rfl
    exact ⟨_, applied, withBlock_styled_iff enough names⟩

end Fixes

/-- The finding for the call below a header. -/
def findingBelowHeader : Finding := Rule.literalStrings.finding fixBelowHeader.location

theorem apply_styled_iff_below_header : ∃ tree proposal result, readTree .module callBelowHeader = .ok tree ∧
    extract findingBelowHeader tree = .ok (some proposal) ∧ Styled ['\r', '\n'] callBelowHeader ∧
    apply callBelowHeader proposal = .ok result ∧ Styled ['\r', '\n'] result := by
  have run : ((readTree .module callBelowHeader).toOption.any fun tree =>
      (extract findingBelowHeader tree).toOption.any fun found => found.any fun proposal =>
        proposal.replacement == some "a.b(X)".toList && (findCall tree proposal.location).toOption.any fun found => found.any fun call =>
          (offsetOf (Text.splitLines callBelowHeader) call.node .lineno .colOffset).toOption == some 28) = true := by
    decide +kernel
  have noFields : ((lex ⟨1, 0⟩ (Mode.prepare .module callBelowHeader)).any fun all => all.all fun t => (tokenFields t).isEmpty) = true := by
    decide +kernel
  have styled : Styled ['\r', '\n'] callBelowHeader := by decide +kernel
  obtain ⟨tree, read, run⟩ := Tree.any_toOption.1 run
  obtain ⟨found, extracted, run⟩ := Tree.any_toOption.1 run
  obtain ⟨proposal, rfl, proposed⟩ := (Option.any_eq_true _ _).1 run
  rw [Bool.and_eq_true, beq_iff_eq] at proposed
  obtain ⟨found, call_eq, run⟩ := Tree.any_toOption.1 proposed.2
  obtain ⟨call, rfl, offset⟩ := (Option.any_eq_true _ _).1 run
  obtain ⟨o, replacement, found, given, texts, iffs, -⟩ := apply_styled_iff read extracted styled
  obtain rfl : call = o := Option.some.inj (Except.ok.inj (call_eq.symm.trans found))
  obtain rfl : "a.b(X)".toList = replacement := Option.some.inj (proposed.1.symm.trans given)
  obtain ⟨before, old, after, text⟩ := texts (not_callInField noFields)
  obtain ⟨result, applied, iff⟩ := iffs before old after text
  refine ⟨tree, proposal, result, read, extracted, styled, applied, iff.2 ⟨by decide, .inr (.inr ?_)⟩⟩
  -- The lines of the header end in front of the call.
  have before_eq : before = callBelowHeader.take 28 := by
    rw [text.offsets.1] at offset
    rw [text.source_eq, ← Option.some.inj (eq_of_beq offset), List.take_left]
  have left : '\r' ∈ before := by
    rw [before_eq]
    decide +kernel
  exact fun none => (Text.breaks_eq_nil.1 none '\r' (by simp [left])).1 rfl

/-- All line breaks of a text have both characters, but the fix of the call at a location brings in a line feed alone. -/
def MixesBreaks (source : List Char) (location : Location) : Prop :=
  Styled ['\r', '\n'] source ∧ breaks source ≠ [] ∧ ∃ tree proposal result, readTree .module source = .ok tree ∧
    extract (Rule.literalStrings.finding location) tree = .ok (some proposal) ∧ apply source proposal = .ok result ∧
    ['\n'] ∈ breaks result

theorem mixesBreaks_of_run {source : List Char} {location : Location}
    (run : (decide (Styled ['\r', '\n'] source ∧ breaks source ≠ []) && (readTree .module source).toOption.any fun tree =>
      (extract (Rule.literalStrings.finding location) tree).toOption.any fun found => found.any fun proposal =>
        (apply source proposal).toOption.any fun result => (breaks result).contains ['\n']) = true) : MixesBreaks source location := by
  rw [Bool.and_eq_true, decide_eq_true_eq] at run
  obtain ⟨⟨styled, some_break⟩, run⟩ := run
  obtain ⟨tree, read, run⟩ := Tree.any_toOption.1 run
  obtain ⟨found, extracted, run⟩ := Tree.any_toOption.1 run
  obtain ⟨proposal, rfl, proposed⟩ := (Option.any_eq_true _ _).1 run
  obtain ⟨result, applied, lineFeed⟩ := Tree.any_toOption.1 proposed
  exact ⟨styled, some_break, tree, proposal, result, read, extracted, applied, List.contains_iff_mem.1 lineFeed⟩

/-- A call with the only line break of its text inside. -/
def breakInCall : List Char := "a.b('x',\r\nc)".toList

/-- A call with a line break in a string that is written out again as it is. -/
def breakInString : List Char := "X = 'x'\r\na.b('x', f'''\x7b\"\"\"\r\n\"\"\"\x7d''')\r\n".toList

/-- One fix inserts a definition with a line feed behind it, the other puts one into the call. -/
theorem apply_mixes_breaks : MixesBreaks breakInCall (.ofInts 1 1 1 4) ∧ MixesBreaks breakInString (.ofInts 2 1 2 4) := by
  constructor
  · exact mixesBreaks_of_run (by decide +kernel)
  · exact mixesBreaks_of_run (by decide +kernel)

end CallLint.Fix

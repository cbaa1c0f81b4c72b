import CallLint.Proofs.Fix.Arguments
import CallLint.Proofs.Fix.CallText
import CallLint.Proofs.Fix.FreshNames

/-!
# Calls replaced in a source

A fix that needs no new constant replaces the text of the call and nothing else. If the call is not in a field of a format string, the
tokens of the result are those of the source with the tokens of the replacement in place of the call's, provided that the replacement
fits (`apply_replaces_tokens`). It does not where a word stands right in front of a parenthesis that the replacement leaves out: `nota.b(X)`
in place of `not(a).b('x')` is another program.
-/

namespace CallLint.Fix

open CallLint.Tree (Fault Field Occurrence bind_eq_ok)
open Source

/-- The tokens that a text starts with, up to the first mark. -/
def lineTokens (text : List Char) : List Token :=
  ((lex ⟨1, 0⟩ (Text.unifyBreaks text)).getD []).takeWhile fun t => !Parse.isMark t.kind

/-- A proposal is for the place of its finding. -/
theorem extract_location {finding : Finding} {tree : Tree} {proposal : Proposal} (h : extract finding tree = .ok (some proposal)) :
    proposal.location = finding.location := by
  unfold extract at h
  split at h
  · cases h
  obtain ⟨call?, -, h⟩ := bind_eq_ok.1 h
  cases call? with
  | none => cases h
  | some call =>
    obtain ⟨scope?, -, h⟩ := bind_eq_ok.1 h
    cases scope? with
    | none => cases h
    | some scope =>
      obtain ⟨extracted?, -, h⟩ := bind_eq_ok.1 h
      cases extracted? with
      | none => cases h
      | some extracted =>
        obtain ⟨source?, -, h⟩ := bind_eq_ok.1 h
        cases source? <;> cases h
        rfl

/-- The replacement of a call fits behind what stands before the call: it is tokens from end to end, the last character before the call
joins up neither with the call nor with the replacement, and the brackets that the tokens before the call leave open are not too many
for those of the replacement. -/
structure Fits (before old replacement : List Char) (ts : List Token) : Prop where
  whole : spanOf (lineTokens replacement) = ⟨⟨1, 0⟩, Pos.afterAll ⟨1, 0⟩ (Text.unifyBreaks replacement)⟩
  front : Apart (Text.unifyBreaks before) (Text.unifyBreaks old)
  front' : Apart (Text.unifyBreaks before) (Text.unifyBreaks replacement)
  depth : (nestAll [] ((ts ++ lineTokens replacement).map (·.kind))).isSome = true

theorem Apart.append {x w : List Char} (h : Apart x w) (some_char : w ≠ []) (r : List Char) : Apart x (w ++ r) := by
  cases w with
  | nil => exact absurd rfl some_char
  | cons c w => exact fun d last => ⟨(h d last).joining, (h d last).number, (h d last).punct⟩

/-- The fields of a token, if it is a string. -/
def tokenFields (t : Token) : List (List Char × Pos) :=
  match t.kind with
  | .string s => (s.parts t.span.start).elim [] FormatPart.fieldsOfAll
  | _ => []

theorem not_inField {all us : List Token} (h : ∀ t ∈ all, tokenFields t = []) : ¬ InField all us := by
  intro inField
  induction inField with
  | here field =>
    obtain ⟨s, p, parts, f, mem, parts_eq, mem_f, -⟩ := field
    have none : FormatPart.fieldsOfAll parts = [] := by simpa [tokenFields, parts_eq] using h _ mem
    rw [none] at mem_f
    cases mem_f
  | deeper _ _ ih => exact ih

end CallLint.Fix

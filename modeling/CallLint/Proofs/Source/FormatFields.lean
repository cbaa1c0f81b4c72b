import CallLint.Source.FormatString
import CallLint.Proofs.Source.TokenOrder

/-!
# The fields of format strings

The fields of a format string are read from where the string starts or behind it, and the source of each is shorter than the body of
the string (`StringToken.parts_fields`).
-/

namespace CallLint.Source

mutual

/-- The sources of the fields of a part, with the places where they are read. -/
def FormatPart.fields : FormatPart → List (List Char × Pos)
  | .literal _ => []
  | .field source pos _ _ spec => (source, pos) :: FormatPart.fieldsOfSpec spec

def FormatPart.fieldsOfSpec : Option (List FormatPart) → List (List Char × Pos)
  | none => []
  | some parts => FormatPart.fieldsOfAll parts

def FormatPart.fieldsOfAll : List FormatPart → List (List Char × Pos)
  | [] => []
  | p :: ps => p.fields ++ FormatPart.fieldsOfAll ps

end

theorem scanLiteralPart_length {raw top : Bool} {mode : LiteralMode} {cs : List Char} {r : List Char × Bool × List Char}
    (h : scanLiteralPart raw top mode cs = some r) : r.2.2.length ≤ cs.length := by
  fun_induction scanLiteralPart raw top mode cs generalizing r <;> grind [Option.map_eq_some_iff]

theorem scanFieldSource_append {quote : OpenQuote} {stack cs : List Char} {r : List Char × List Char}
    (h : scanFieldSource quote stack cs = some r) : r.1 ++ r.2 = cs := by
  fun_induction scanFieldSource quote stack cs generalizing r <;>
    first
    | cases h; done
    | cases h; rfl
    | obtain ⟨p, run, rfl⟩ := Option.map_eq_some_iff.1 h
      simp_all

theorem literalPart_length {raw top : Bool} {cs : List Char} {r : Text × Bool × List Char}
    (h : literalPart raw top cs = some r) : r.2.2.length ≤ cs.length := by
  unfold literalPart at h
  split at h
  · cases h
  · next scanned =>
    obtain ⟨t, -, rfl⟩ := Option.map_eq_some_iff.1 h
    exact scanLiteralPart_length scanned

theorem echoOf_length (source tail : List Char) : (echoOf source tail).2.length ≤ tail.length := by
  unfold echoOf
  split
  · next tail =>
    rw [List.span_eq_takeWhile_dropWhile]
    exact Nat.le_trans (List.dropWhile_sublist _).length_le (Nat.le_succ _)
  · exact Nat.le_refl _

theorem conversionOf_length {tail : List Char} {r : Option Char × List Char} (h : conversionOf tail = some r) :
    r.2.length ≤ tail.length := by
  unfold conversionOf at h
  split at h
  · split at h
    · cases h
      exact Nat.le_trans (Nat.le_succ _) (Nat.le_succ _)
    · cases h
  · cases h
  · cases h
    exact Nat.le_refl _

theorem fieldHead_length {body : List Char} {r : FieldHead × List Char} (h : fieldHead body = some r) :
    r.1.source.length + r.2.length ≤ body.length := by
  unfold fieldHead at h
  split at h
  · cases h
  · next source tail scanned =>
    split at h
    · cases h
    · obtain ⟨p, converted, rfl⟩ := Option.map_eq_some_iff.1 h
      have split := congrArg List.length (scanFieldSource_append scanned)
      have echoed := echoOf_length source tail
      have behind := conversionOf_length converted
      simp only [List.length_append] at split
      simp only
      omega

theorem le_fieldPos {opening brace : Pos} (h : opening ≤ brace) (source : List Char) : opening ≤ fieldPos opening brace source := by
  unfold fieldPos
  split
  · rw [Pos.le_iff] at *
    grind
  · exact h

theorem behindLiteral_fields (t : Text) (r : List FormatPart × List Char) :
    FormatPart.fieldsOfAll (behindLiteral t r).1 = FormatPart.fieldsOfAll r.1 := by
  unfold behindLiteral
  split
  · rfl
  · simp [FormatPart.fieldsOfAll, FormatPart.fields]

/-- Fields from a place on, in a text of `n` characters. -/
def FieldsWithin (p : Pos) (n : Nat) (fs : List (List Char × Pos)) : Prop := ∀ f ∈ fs, p ≤ f.2 ∧ f.1.length + 2 ≤ n

theorem FieldsWithin.mono {p : Pos} {n n' : Nat} {fs : List (List Char × Pos)} (h : FieldsWithin p n fs) (length : n ≤ n') :
    FieldsWithin p n' fs := fun f hf => (h f hf).imp_right fun fits => Nat.le_trans fits length

theorem specOf_fields {p : Pos} {inner : List Char → Option (List FormatPart × List Char)} {tail : List Char}
    {r : Option (List FormatPart) × List Char} (h : specOf inner tail = some r)
    (fields : ∀ {cs r}, inner cs = some r → r.2.length ≤ cs.length ∧ FieldsWithin p cs.length (FormatPart.fieldsOfAll r.1)) :
    r.2.length ≤ tail.length ∧ FieldsWithin p tail.length (FormatPart.fieldsOfSpec r.1) := by
  unfold specOf at h
  split at h
  · next cs =>
    obtain ⟨p, run, rfl⟩ := Option.map_eq_some_iff.1 h
    obtain ⟨behind, within⟩ := fields run
    exact ⟨Nat.le_trans behind (Nat.le_succ _), within.mono (Nat.le_succ _)⟩
  · cases h
    exact ⟨Nat.le_refl _, by simp [FieldsWithin, FormatPart.fieldsOfSpec]⟩

/-- The fields of a format string are read from its start on, and their sources are shorter than its text. -/
theorem formatParts_fields {raw : Bool} {opening : Pos} {fuel level : Nat} {pos : Pos} {cs : List Char}
    {r : List FormatPart × List Char} (h : formatParts raw opening fuel level pos cs = some r) (starts : opening ≤ pos) :
    r.2.length ≤ cs.length ∧ FieldsWithin opening cs.length (FormatPart.fieldsOfAll r.1) := by
  induction fuel generalizing level pos cs r with
  | zero => cases h
  | succ fuel ih =>
    unfold formatParts at h
    split at h
    · cases h
    next t doubled rest literal =>
    have shorter := literalPart_length literal
    simp only at h shorter
    have starts := Pos.le_trans starts (pos.le_afterAll (cs.take (cs.length - rest.length)))
    generalize pos.afterAll (cs.take (cs.length - rest.length)) = here at h starts
    split at h
    · obtain ⟨r, run, rfl⟩ := Option.map_eq_some_iff.1 h
      obtain ⟨behind, fields⟩ := ih run starts
      rw [behindLiteral_fields]
      exact ⟨Nat.le_trans behind shorter, fields.mono shorter⟩
    split at h
    · cases h
      exact ⟨by simp [behindLiteral], by simp [FieldsWithin, behindLiteral_fields, FormatPart.fieldsOfAll]⟩
    next brace body =>
    split at h
    · cases h
      exact ⟨shorter, by simp [FieldsWithin, behindLiteral_fields, FormatPart.fieldsOfAll]⟩
    split at h
    · cases h
    split at h
    · cases h
    next head tail headed =>
    have parts := fieldHead_length headed
    simp only [List.length_cons] at shorter parts
    split at h
    · next spec closed specified =>
      obtain ⟨r, run, rfl⟩ := Option.map_eq_some_iff.1 h
      obtain ⟨behind, fields⟩ := ih run (Pos.le_trans starts (Pos.le_afterAll _ _))
      obtain ⟨afterSpec, inSpec⟩ := specOf_fields (p := opening) specified fun run => ih run (Pos.le_trans starts (Pos.le_afterAll _ _))
      simp only [List.length_cons] at afterSpec
      refine ⟨by simp only [behindLiteral]; omega, ?_⟩
      rw [behindLiteral_fields]
      refine List.forall_mem_append.2 ⟨List.forall_mem_cons.2 ⟨?_, ?_⟩, ?_⟩
      · exact ⟨le_fieldPos starts _, by simp only; omega⟩
      · exact inSpec.mono (by omega)
      · exact fields.mono (by omega)
    · cases h

theorem StringToken.parts_fields {s : StringToken} {start : Pos} {parts : List FormatPart} (h : s.parts start = some parts) :
    FieldsWithin start s.body.length (FormatPart.fieldsOfAll parts) := by
  unfold StringToken.parts at h
  split at h
  · next run =>
    cases h
    exact (formatParts_fields run (Pos.le_afterAll _ _)).2
  · cases h

end CallLint.Source

import CallLint.Proofs.Fix.FreshNames
import CallLint.Text.Normal
import Mathlib.Data.List.Nodup

/-!
# New constants as they are read

A name is read in its normal form, while the names of new constants are compared as they are derived. The names of one
proposal differ from each other and from those of the module, so that their normal forms do too, as long as a name is its own
normal form; that is the case for every text in ASCII. A name that is not its own normal form is checked under a spelling that
nothing in the module has, and may be read as a name that is in use (`extract_names_stay_apart`).
-/

namespace CallLint.Text

/-- Only ASCII. -/
def Ascii (t : Text) : Prop := ∀ p ∈ t, p.toNat < 128

instance (t : Text) : Decidable (Ascii t) := List.decidableBAll _ t

theorem ascii_ofChars {cs : List Char} : Ascii (ofChars cs) ↔ ∀ c ∈ cs, c.toNat < 128 := by
  simp [Ascii, ofChars, CodePoint.toNat]

/-- What holds of each character of ASCII, one by one. -/
@[elab_as_elim]
theorem ascii_cases {p : Char → Prop} (each : ∀ n < 128, p (Char.ofNat n)) {c : Char} (h : c.toNat < 128) : p c := by
  have := each c.toNat h
  rwa [Char.ofNat_toNat] at this

/-- A spelling in ASCII is its own normal form. -/
theorem normalForm_eq_self {cs : List Char} (ascii : Ascii (ofChars cs)) : normalForm cs = cs := by
  have all : cs.all (·.toNat < 128) = true := by simpa using ascii_ofChars.1 ascii
  rw [normalForm, if_pos all]

theorem upperChar_ascii {c : Char} (h : c.toNat < 128) : upperChar c = [c.toUpper] ∧ c.toUpper.toNat < 128 :=
  ascii_cases (by decide +kernel) h

/-- Upper case stays in ASCII. -/
theorem Ascii.upper {t : Text} (h : Ascii t) : Ascii t.upper := by
  intro p hp
  obtain ⟨q, hq, hp⟩ := List.mem_flatMap.1 hp
  cases q with
  | scalar c =>
    obtain ⟨upper_eq, small⟩ := upperChar_ascii (h _ hq)
    simp only [upper_eq] at hp
    exact ascii_ofChars.2 (List.forall_mem_singleton.2 small) p hp
  | surrogate k =>
    have := h _ hq
    simp only [CodePoint.toNat] at this
    omega

end CallLint.Text

namespace CallLint.Fix

open CallLint.Tree (Fault)
open Text (Ascii normalForm)

theorem mem_joinWords {inRun : Bool} {t : Text} {p : CodePoint} (h : p ∈ joinWords inRun t) :
    p ∈ t ∧ Text.isWord p = true ∨ p = underscore := by
  induction t generalizing inRun with
  | nil => cases h
  | cons c t ih =>
    have later : ∀ {inRun}, p ∈ joinWords inRun t → p ∈ c :: t ∧ Text.isWord p = true ∨ p = underscore :=
      fun h => (ih h).imp_left (.imp_left (List.mem_cons_of_mem c))
    rw [joinWords] at h
    split at h
    · next word =>
      rcases List.mem_cons.1 h with rfl | h
      · exact Or.inl ⟨List.mem_cons_self, word⟩
      · exact later h
    · split at h
      · exact later h
      · rcases List.mem_cons.1 h with rfl | h
        · exact Or.inr rfl
        · exact later h

theorem mem_stripUnderscores {t : Text} {p : CodePoint} (h : p ∈ stripUnderscores t) : p ∈ t := by
  have front := (List.dropWhile_sublist _).subset (List.mem_reverse.1 h)
  exact (List.dropWhile_sublist _).subset (List.mem_reverse.1 front)

theorem nameCandidate_ascii {value : Text} (h : Ascii value) : Ascii (nameCandidate value) := by
  refine Ascii.upper fun p hp => ?_
  rcases mem_joinWords (mem_stripUnderscores hp) with ⟨mem, -⟩ | rfl
  · exact h p mem
  · decide

/-- The name for a text in ASCII is its own normal form. -/
theorem normalForm_of_constantName {value : Text} {name : List Char} (h : constantName value = some name)
    (ascii : Ascii value) : normalForm name = name := by
  refine Text.normalForm_eq_self ?_
  rw [← (constantName_eq_some.1 h).1]
  exact nameCandidate_ascii ascii

/-- A name that a module has no use for, as it is read: nothing binds it and nothing reads it. -/
structure Free (tree : Tree) (n : Text) : Prop where
  unbound : ∃ bindings, moduleBindings tree = .ok bindings ∧ bindings.binds (.text n) = false
  unread : ∃ loaded, loadedNames tree = .ok loaded ∧ .text n ∉ loaded

/-- Names whose normal forms differ from each other and are free in a module. -/
structure StayApart (tree : Tree) (names : List (List Char)) : Prop where
  distinct : (names.map normalForm).Nodup
  free : ∀ n ∈ names, Free tree (Text.ofChars (normalForm n))

/-- A name that is not its own normal form stays apart from the names of a proposal and of a module under the name that it is
read as. -/
structure ReadApart (tree : Tree) (names : List (List Char)) (n : List Char) : Prop where
  alone : ∀ m ∈ names, normalForm m = normalForm n → m = n
  free : Free tree (Text.ofChars (normalForm n))

/-- Different names that are free as they are spelled stay apart as they are read if those do that are spelled otherwise than
read. -/
theorem stayApart_iff {tree : Tree} {names : List (List Char)} (nodup : names.Nodup)
    (free : ∀ n ∈ names, Free tree (Text.ofChars n)) :
    StayApart tree names ↔ ∀ n ∈ names, normalForm n ≠ n → ReadApart tree names n := by
  constructor
  · intro apart n hn _
    refine ⟨fun m hm same => ?_, apart.free n hn⟩
    exact (List.nodup_map_iff_inj_on nodup).1 apart.distinct m hm n hn same
  · intro apart
    refine ⟨(List.nodup_map_iff_inj_on nodup).2 fun m hm n hn same => ?_, fun n hn => ?_⟩
    · by_cases normal : normalForm n = n
      · by_cases normal' : normalForm m = m
        · rw [← normal, ← normal', same]
        · exact ((apart m hm normal').alone n hn same.symm).symm
      · exact (apart n hn normal).alone m hm same
    · by_cases normal : normalForm n = n
      · rw [normal]
        exact free n hn
      · exact (apart n hn normal).free

/-- The names of new constants stay apart as they are read exactly if those do that are not their own normal form; the names
for texts in ASCII always do. -/
theorem extract_names_stay_apart {finding : Finding} {tree : Tree} {proposal : Proposal}
    (h : extract finding tree = .ok (some proposal)) :
    (StayApart tree (proposal.constants.map (·.1)) ↔
        ∀ n ∈ proposal.constants.map (·.1), normalForm n ≠ n → ReadApart tree (proposal.constants.map (·.1)) n) ∧
      ((∀ c ∈ proposal.constants, Ascii c.2) → StayApart tree (proposal.constants.map (·.1))) := by
  obtain ⟨call, scope, changed, derives⟩ := extract_eq_some h
  obtain ⟨bindings_eq, ⟨loaded, loaded_eq, reserved_eq⟩, -⟩ := callScope_eq_some derives.scope_eq
  obtain ⟨fresh, -⟩ := extractCall_eq_some derives.changed_eq
  have free : ∀ n ∈ proposal.constants.map (·.1), Free tree (Text.ofChars n) := by
    intro n hn
    obtain ⟨c, hc, rfl⟩ := List.mem_map.1 hn
    have unused := fresh.not_reserved hc
    rw [reserved_eq, List.mem_append, not_or] at unused
    refine ⟨⟨_, bindings_eq, ?_⟩, loaded, loaded_eq, unused.2⟩
    rw [← Bool.not_eq_true, Bindings.binds_text]
    exact unused.1
  have apart_iff := stayApart_iff fresh.distinct free
  refine ⟨apart_iff, fun ascii => apart_iff.2 fun n hn altered => ?_⟩
  obtain ⟨c, hc, rfl⟩ := List.mem_map.1 hn
  exact absurd (normalForm_of_constantName (fresh.derived c hc) (ascii c hc)) altered

section Ordinal

open Source

/-- The module `a.b('ª')`, with the feminine ordinal indicator, which is read as the letter a. -/
def ordinalModule : List Char := "a.b('ª')\n".toList

def ordinalFinding : Finding := Rule.literalStrings.finding (.ofInts 1 1 1 4)

/-- There is a proposal for its call whose new constant is read as the name that the module reads. -/
theorem ordinalModule_extract :
    ∃ tree proposal loaded, readTree .module ordinalModule = .ok tree ∧
      extract ordinalFinding tree = .ok (some proposal) ∧ proposal.constants = [(['ª'], Text.ofChars ['ª'])] ∧
      loadedNames tree = .ok loaded ∧ .text (Text.ofChars ['a']) ∈ loaded := by
  have run : ((readTree .module ordinalModule).toOption.any fun tree =>
      (extract ordinalFinding tree).toOption.any fun proposal? => proposal?.any fun proposal =>
        (loadedNames tree).toOption.any fun loaded =>
          proposal.constants == [(['ª'], Text.ofChars ['ª'])] &&
            loaded.any (·.same (.text (Text.ofChars ['a'])))) = true := by decide +kernel
  obtain ⟨tree, read, run⟩ := Tree.any_toOption.1 run
  obtain ⟨proposal?, proposed, run⟩ := Tree.any_toOption.1 run
  obtain ⟨proposal, rfl, run⟩ := (Option.any_eq_true _ _).1 run
  obtain ⟨loaded, loaded_eq, run⟩ := Tree.any_toOption.1 run
  simp only [Bool.and_eq_true, beq_iff_eq, List.any_eq_true, Tree.same_text] at run
  obtain ⟨constants_eq, n, hn, rfl⟩ := run
  exact ⟨tree, proposal, loaded, read, proposed, constants_eq, loaded_eq, hn⟩

theorem extract_names_stay_apart_ordinal :
    ∃ tree proposal, extract ordinalFinding tree = .ok (some proposal) ∧
      (StayApart tree (proposal.constants.map (·.1)) ↔
        ∀ n ∈ proposal.constants.map (·.1), normalForm n ≠ n → ReadApart tree (proposal.constants.map (·.1)) n) ∧
      ((∀ c ∈ proposal.constants, Ascii c.2) → StayApart tree (proposal.constants.map (·.1))) := by
  obtain ⟨tree, proposal, -, -, proposed, -⟩ := ordinalModule_extract
  exact ⟨tree, proposal, proposed, extract_names_stay_apart proposed⟩

/-- A new constant may be read as a name that the module reads. -/
theorem extract_name_read_as_used :
    ∃ tree proposal, readTree .module ordinalModule = .ok tree ∧ extract ordinalFinding tree = .ok (some proposal) ∧
      ¬ StayApart tree (proposal.constants.map (·.1)) := by
  obtain ⟨tree, proposal, loaded, read, proposed, constants_eq, loaded_eq, used⟩ := ordinalModule_extract
  refine ⟨tree, proposal, read, proposed, fun apart => ?_⟩
  have form : normalForm ['ª'] = ['a'] := by decide +kernel
  obtain ⟨-, loaded', loaded'_eq, unread⟩ := apart.free ['ª'] (by simp [constants_eq])
  rw [loaded_eq] at loaded'_eq
  cases loaded'_eq
  rw [form] at unread
  exact unread used

end Ordinal

end CallLint.Fix

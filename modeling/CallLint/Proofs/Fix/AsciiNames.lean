import CallLint.Proofs.Fix.NormalNames
import CallLint.Text.Blank
import Mathlib.Data.List.DropRight

/-!
# Names for texts in ASCII

In ASCII the name of a constant is a normal form of its text, `plainName`. The steps that make it can be taken in another order:
upper case first, then the runs, then the ends. That is why a name is its own name and the case of letters does not matter.
Padding does not matter in any script, since what it adds are underscores at the ends (`nameCandidate_pad`).
-/

namespace CallLint.Fix

open Text (Ascii ascii_ofChars ascii_cases ofChars isWord trimBy)

/-- Whether the character is a letter, digit or underscore of ASCII. -/
def isNameChar (c : Char) : Bool := c.isUpper || c.isLower || c.isDigit || c == '_'

/-- Whether the character is one of `A` to `Z`, `0` to `9` and the underscore. -/
def isConstantChar (c : Char) : Bool := c.isUpper || c.isDigit || c == '_'

/-- The characters with every maximal run of those outside names as one underscore. -/
def collapseRuns : List Char → List Char
  | [] => []
  | c :: cs => if isNameChar c then c :: collapseRuns cs else '_' :: collapseRuns (cs.dropWhile (!isNameChar ·))
termination_by cs => cs.length
decreasing_by
  · simp
  · exact Nat.lt_succ_of_le (List.dropWhile_sublist _).length_le

/-- The runs collapsed, no underscores at the ends, and letters in upper case. -/
def plainName (v : List Char) : List Char := (trimBy (· == '_') (collapseRuns v)).map Char.toUpper

section Characters

theorem toNat_lt_of_le {c : Char} {last : UInt32} (h : c.val ≤ last) (ascii : last.toNat < 128) : c.toNat < 128 :=
  Nat.lt_of_le_of_lt (UInt32.le_iff_toNat_le.1 h) ascii

theorem toUpper_spec (c : Char) :
    isNameChar c.toUpper = isNameChar c ∧ (c.toUpper == '_') = (c == '_') ∧ (c.toUpper.toNat < 128 ↔ c.toNat < 128) := by
  by_cases ascii : c.toNat < 128
  · exact ascii_cases (by decide +kernel) ascii
  · -- outside ASCII no character has another upper case
    have upper : c.toUpper = c := dif_neg fun lower => ascii (toNat_lt_of_le lower.2 (by decide))
    simp [upper]

theorem toNat_lt_of_isNameChar {c : Char} (h : isNameChar c = true) : c.toNat < 128 := by
  simp only [isNameChar, Bool.or_eq_true] at h
  rcases h with ((upper | lower) | digit) | underscore
  · exact toNat_lt_of_le (of_decide_eq_true upper).2 (by decide)
  · exact toNat_lt_of_le (of_decide_eq_true (Bool.and_eq_true_iff.1 lower).2) (by decide)
  · exact toNat_lt_of_le (of_decide_eq_true (Bool.and_eq_true_iff.1 digit).2) (by decide)
  · rw [beq_iff_eq.1 underscore]
    decide

/-- The characters of ASCII, one by one: those of a name stay as they are, and may start an identifier unless they are digits. -/
theorem ascii_spec {c : Char} (h : c.toNat < 128) :
    isWord (.scalar c) = isNameChar c ∧ (isNameChar c = true → isConstantChar c.toUpper = true) ∧
      (isConstantChar c = true → isNameChar c = true ∧ c.toUpper = c ∧ Text.isIdentifierPart (.scalar c) = true ∧
        Text.isIdentifierStart (.scalar c) = !c.isDigit) :=
  ascii_cases (by decide +kernel) h

theorem of_isConstantChar {c : Char} (h : isConstantChar c = true) :
    isNameChar c = true ∧ c.toUpper = c ∧ Text.isIdentifierPart (.scalar c) = true ∧
      Text.isIdentifierStart (.scalar c) = !c.isDigit := by
  have name : isNameChar c = true := by
    simp only [isConstantChar, isNameChar, Bool.or_eq_true] at h ⊢
    tauto
  exact (ascii_spec (toNat_lt_of_isNameChar name)).2.2 h

end Characters

section NormalForm

variable {v : List Char}

/-- In ASCII the runs are collapsed as they are read: inside a run the rest of it is left out. -/
theorem joinWords_ofChars (ascii : Ascii (ofChars v)) :
    joinWords false (ofChars v) = ofChars (collapseRuns v) ∧
      joinWords true (ofChars v) = ofChars (collapseRuns (v.dropWhile (!isNameChar ·))) := by
  rw [ascii_ofChars] at ascii
  induction v with
  | nil => simp [ofChars, joinWords, collapseRuns]
  | cons c cs ih =>
    have word := (ascii_spec (ascii c List.mem_cons_self)).1
    obtain ⟨outside, inside⟩ := ih fun d hd => ascii d (List.mem_cons_of_mem c hd)
    simp only [ofChars] at outside inside ⊢
    cases name : isNameChar c with
    | true => simp [joinWords, word, collapseRuns, name, outside]
    | false => simp [joinWords, word, collapseRuns, name, inside, underscore]

theorem stripUnderscores_ofChars (u : List Char) : stripUnderscores (ofChars u) = ofChars (trimBy (· == '_') u) := by
  have same : ((· == underscore) ∘ CodePoint.scalar) = (· == '_') := by
    funext c
    simp [underscore, Bool.beq_eq_decide_eq]
  simp only [stripUnderscores, trimBy, ofChars, List.dropWhile_map, ← List.map_reverse, same]

theorem upper_ofChars (ascii : Ascii (ofChars v)) : (ofChars v).upper = ofChars (v.map Char.toUpper) := by
  rw [ascii_ofChars] at ascii
  induction v with
  | nil => rfl
  | cons c cs ih =>
    have head := (Text.upperChar_ascii (ascii c List.mem_cons_self)).1
    have rest := ih fun d hd => ascii d (List.mem_cons_of_mem c hd)
    simp only [Text.upper, ofChars, List.map_cons, List.flatMap_cons, head] at rest ⊢
    rw [rest]
    rfl

theorem mem_trimBy {p : Char → Bool} {u : List Char} {c : Char} (h : c ∈ trimBy p u) : c ∈ u :=
  (List.dropWhile_sublist p).subset ((List.rdropWhile_prefix p _).subset h)

theorem isNameChar_of_mem_collapseRuns {c : Char} (h : c ∈ collapseRuns v) : isNameChar c = true := by
  fun_induction collapseRuns v with
  | case1 => cases h
  | case2 d cs name ih =>
    rcases List.mem_cons.1 h with rfl | h
    · exact name
    · exact ih h
  | case3 d cs other ih =>
    rcases List.mem_cons.1 h with rfl | h
    · decide
    · exact ih h

theorem isConstantChar_of_mem_plainName {c : Char} (h : c ∈ plainName v) : isConstantChar c = true := by
  obtain ⟨d, hd, rfl⟩ := List.mem_map.1 h
  have name := isNameChar_of_mem_collapseRuns (mem_trimBy hd)
  exact (ascii_spec (toNat_lt_of_isNameChar name)).2.1 name

theorem nameCandidate_ofChars (ascii : Ascii (ofChars v)) : nameCandidate (ofChars v) = ofChars (plainName v) := by
  rw [nameCandidate, (joinWords_ofChars ascii).1, stripUnderscores_ofChars, upper_ofChars, plainName]
  rw [ascii_ofChars]
  exact fun c hc => toNat_lt_of_isNameChar (isNameChar_of_mem_collapseRuns (mem_trimBy hc))

theorem collapseRuns_map_toUpper (v : List Char) : collapseRuns (v.map Char.toUpper) = (collapseRuns v).map Char.toUpper := by
  have same : ((!isNameChar ·) ∘ Char.toUpper) = (!isNameChar ·) := by
    funext c
    simp [(toUpper_spec c).1]
  fun_induction collapseRuns v with
  | case1 => simp [collapseRuns]
  | case2 c cs name ih => simp [collapseRuns, (toUpper_spec c).1, name, ih]
  | case3 c cs other ih =>
    rw [List.map_cons, collapseRuns, (toUpper_spec c).1, if_neg other, List.dropWhile_map, same, ih]
    rfl

/-- Upper case may come first. -/
theorem plainName_eq (v : List Char) : plainName v = trimBy (· == '_') (collapseRuns (v.map Char.toUpper)) := by
  have same : ((· == '_') ∘ Char.toUpper) = (· == '_') := funext fun c => (toUpper_spec c).2.1
  rw [plainName, collapseRuns_map_toUpper]
  simp only [trimBy, List.dropWhile_map, ← List.map_reverse, same]

theorem collapseRuns_eq_self (h : ∀ c ∈ v, isNameChar c = true) : collapseRuns v = v := by
  induction v with
  | nil => simp [collapseRuns]
  | cons c cs ih =>
    rw [collapseRuns, if_pos (h c List.mem_cons_self), ih fun d hd => h d (List.mem_cons_of_mem c hd)]

end NormalForm

section Ends

variable {α : Type} {p : α → Bool}

/-- What is cut off at the ends does not change what is left. -/
theorem rdropWhile_dropWhile_append {a b : List α} (ha : ∀ x ∈ a, p x = true) (hb : ∀ x ∈ b, p x = true) (l : List α) :
    ((a ++ l ++ b).dropWhile p).rdropWhile p = (l.dropWhile p).rdropWhile p := by
  have ends : ∀ k : List α, (k ++ b).rdropWhile p = k.rdropWhile p := by
    intro k
    rw [List.rdropWhile, List.reverse_append, List.dropWhile_append_of_pos (by simpa using hb), List.rdropWhile]
  rw [List.append_assoc, List.dropWhile_append_of_pos ha, List.dropWhile_append]
  split
  · next nothing =>
    rw [List.isEmpty_iff.1 nothing, List.dropWhile_eq_nil_iff.2 hb]
  · exact ends _

/-- Nothing is left to be cut off. -/
theorem trimBy_trimBy (p : Char → Bool) (u : List Char) : trimBy p (trimBy p u) = trimBy p u := by
  have whole : u = u.takeWhile p ++ trimBy p u ++ (u.dropWhile p).rtakeWhile p := by
    rw [List.append_assoc]
    exact ((congrArg _ List.rdropWhile_append_rtakeWhile).trans List.takeWhile_append_dropWhile).symm
  have front : ∀ c ∈ u.takeWhile p, p c = true := fun _ => List.mem_takeWhile_imp
  have back : ∀ c ∈ (u.dropWhile p).rtakeWhile p, p c = true := fun _ => List.mem_rtakeWhile_imp
  have cut := rdropWhile_dropWhile_append front back (trimBy p u)
  rw [← whole] at cut
  exact cut.symm

end Ends

section Padding

theorem joinWords_append (inRun : Bool) (s t : Text) :
    ∃ later, joinWords inRun (s ++ t) = joinWords inRun s ++ joinWords later t := by
  induction s generalizing inRun with
  | nil => exact ⟨inRun, rfl⟩
  | cons c s ih =>
    cases word : isWord c with
    | true =>
      obtain ⟨later, h⟩ := ih false
      exact ⟨later, by simp [joinWords, word, h]⟩
    | false =>
      obtain ⟨later, h⟩ := ih true
      exact ⟨later, by cases inRun <;> simp [joinWords, word, h]⟩

/-- A run that has begun before takes away no more than an underscore at the front. -/
theorem joinWords_front (inRun : Bool) (t : Text) :
    ∃ front, (∀ c ∈ front, c = underscore) ∧ joinWords false t = front ++ joinWords inRun t := by
  cases inRun with
  | false => exact ⟨[], by simp, rfl⟩
  | true =>
    cases t with
    | nil => exact ⟨[], by simp, rfl⟩
    | cons c t =>
      cases word : isWord c with
      | true => exact ⟨[], by simp, by simp [joinWords, word]⟩
      | false => exact ⟨[underscore], by simp, by simp [joinWords, word]⟩

/-- A text without words, underscores apart. -/
def Padding (t : Text) : Prop := ∀ c ∈ t, isWord c = false ∨ c = underscore

theorem Padding.joinWords {t : Text} (h : Padding t) {inRun : Bool} {c : CodePoint} (mem : c ∈ joinWords inRun t) :
    c = underscore := by
  rcases mem_joinWords mem with ⟨mem, word⟩ | eq
  · exact (h c mem).resolve_left (by simp [word])
  · exact eq

/-- Padding around a text does not change the name for it. -/
theorem nameCandidate_pad {before after : Text} (hb : Padding before) (ha : Padding after) (t : Text) :
    nameCandidate (before ++ t ++ after) = nameCandidate t := by
  have cut : ∀ {a b : Text}, (∀ c ∈ a, c = underscore) → (∀ c ∈ b, c = underscore) → ∀ u,
      stripUnderscores (a ++ u ++ b) = stripUnderscores u :=
    fun ha hb u => rdropWhile_dropWhile_append (by simpa using ha) (by simpa using hb) u
  obtain ⟨last, split_after⟩ := joinWords_append false (before ++ t) after
  obtain ⟨inRun, split_before⟩ := joinWords_append false before t
  obtain ⟨front, underscores, front_eq⟩ := joinWords_front inRun t
  have same := cut underscores (by simp : ∀ c ∈ [], c = underscore) (joinWords inRun t)
  rw [List.append_nil, ← front_eq] at same
  rw [nameCandidate, nameCandidate, split_after, split_before, cut (fun _ => hb.joinWords) (fun _ => ha.joinWords), same]

end Padding

section Names

variable {v : List Char}

/-- Every reserved word has a small letter. -/
theorem reserved_eq_none {w : List Char} (h : ∀ c ∈ w, isConstantChar c = true) : Source.Reserved.ofChars? w = none := by
  have small : (Source.Reserved.spellings.all fun s => !s.1.all isConstantChar) = true := by decide +kernel
  rw [Source.Reserved.ofChars?, List.lookup_eq_none_iff]
  intro s hs
  have other := List.all_eq_true.1 small s hs
  rw [bne_iff_ne]
  rintro rfl
  rw [List.all_eq_true.2 h] at other
  cases other

theorem isIdentifier_ofChars {w : List Char} (h : ∀ c ∈ w, isConstantChar c = true) :
    (ofChars w).isIdentifier = true ↔ w ≠ [] ∧ w.head?.any Char.isDigit = false := by
  cases w with
  | nil => simp [ofChars, Text.isIdentifier]
  | cons c w =>
    have start := (of_isConstantChar (h c List.mem_cons_self)).2.2.2
    have rest : ∀ d ∈ w, Text.isIdentifierPart (.scalar d) = true :=
      fun d hd => (of_isConstantChar (h d (List.mem_cons_of_mem c hd))).2.2.1
    simpa [ofChars, Text.isIdentifier, start] using fun _ => rest

/-- Whether a normal form can be a name: it has 1 to 64 characters and does not begin with a digit. -/
def Nameable (w : List Char) : Prop := 1 ≤ w.length ∧ w.length ≤ 64 ∧ w.head?.any Char.isDigit = false

instance (w : List Char) : Decidable (Nameable w) := inferInstanceAs (Decidable (_ ∧ _))

theorem constantName_eq_plainName (ascii : Ascii (ofChars v)) :
    constantName (ofChars v) = if Nameable (plainName v) then some (plainName v) else none := by
  have chars : ∀ c ∈ plainName v, isConstantChar c = true := fun _ => isConstantChar_of_mem_plainName
  have identifier := isIdentifier_ofChars chars
  have candidate := nameCandidate_ofChars ascii
  split
  · next nameable =>
    obtain ⟨some_char, short, start⟩ := nameable
    exact constantName_eq_some.2
      ⟨candidate, short, identifier.2 ⟨List.length_pos_iff.1 some_char, start⟩, reserved_eq_none chars⟩
  · next refused =>
    refine Option.eq_none_iff_forall_ne_some.2 fun name named => refused ?_
    obtain ⟨candidate', short, isIdentifier, -⟩ := constantName_eq_some.1 named
    obtain rfl : plainName v = name := by simpa [candidate] using congrArg Text.toChars? candidate'
    exact ⟨List.length_pos_iff.2 (identifier.1 isIdentifier).1, short, (identifier.1 isIdentifier).2⟩

theorem plainName_plainName (v : List Char) : plainName (plainName v) = plainName v := by
  have chars : ∀ c ∈ plainName v, isConstantChar c = true := fun _ => isConstantChar_of_mem_plainName
  have upper : (plainName v).map Char.toUpper = plainName v :=
    (List.map_congr_left fun c hc => (of_isConstantChar (chars c hc)).2.1).trans (List.map_id _)
  rw [plainName_eq (plainName v), upper, collapseRuns_eq_self fun c hc => (of_isConstantChar (chars c hc)).1, plainName_eq v,
    trimBy_trimBy]

theorem ascii_of_toUpper {v' : List Char} (h : v'.map Char.toUpper = v.map Char.toUpper) (ascii : Ascii (ofChars v)) :
    Ascii (ofChars v') := by
  rw [ascii_ofChars] at ascii ⊢
  intro c hc
  have mem : c.toUpper ∈ v.map Char.toUpper := h ▸ List.mem_map_of_mem hc
  obtain ⟨d, hd, same⟩ := List.mem_map.1 mem
  rw [← (toUpper_spec c).2.2, ← same, (toUpper_spec d).2.2]
  exact ascii d hd

/-- The name for a text in ASCII is its normal form, if that can be a name. A name is an identifier in capitals and its own
name; neither padding nor the case of letters changes it. -/
theorem constantName_ascii (ascii : Ascii (ofChars v)) :
    (constantName (ofChars v) = if Nameable (plainName v) then some (plainName v) else none) ∧
      (∀ name, constantName (ofChars v) = some name →
        (∀ c ∈ name, isConstantChar c = true) ∧ (ofChars name).isIdentifier = true ∧
          Source.Reserved.ofChars? name = none ∧ constantName (ofChars name) = some name) ∧
      (∀ before after, Padding before → Padding after →
        constantName (before ++ ofChars v ++ after) = constantName (ofChars v)) ∧
      ∀ v', v'.map Char.toUpper = v.map Char.toUpper → constantName (ofChars v') = constantName (ofChars v) := by
  have value := constantName_eq_plainName ascii
  refine ⟨value, fun name named => ?_, fun before after hb ha => ?_, fun v' sameLetters => ?_⟩
  · have identifier := isIdentifier_of_constantName named
    rw [value] at named
    split at named
    · next nameable =>
      cases named
      have chars : ∀ c ∈ plainName v, isConstantChar c = true := fun _ => isConstantChar_of_mem_plainName
      have asciiName : Ascii (ofChars (plainName v)) :=
        ascii_ofChars.2 fun c hc => toNat_lt_of_isNameChar (of_isConstantChar (chars c hc)).1
      refine ⟨chars, identifier, reserved_eq_none chars, ?_⟩
      rw [constantName_eq_plainName asciiName, plainName_plainName, if_pos nameable]
    · cases named
  · rw [constantName, constantName, nameCandidate_pad hb ha]
  · rw [value, constantName_eq_plainName (ascii_of_toUpper sameLetters ascii), plainName_eq v', sameLetters, ← plainName_eq]

/-- The name for `tenant--id`, also with blanks around it and in other cases. -/
theorem constantName_ascii_tenant :
    Ascii (ofChars "tenant--id".toList) ∧ constantName (ofChars "tenant--id".toList) = some "TENANT_ID".toList ∧
      constantName (ofChars "TENANT_ID".toList) = some "TENANT_ID".toList ∧
      constantName ([.scalar ' '] ++ ofChars "tenant--id".toList ++ [underscore]) = some "TENANT_ID".toList ∧
      constantName (ofChars "Tenant--ID".toList) = some "TENANT_ID".toList := by
  have ascii : Ascii (ofChars "tenant--id".toList) := by decide +kernel
  obtain ⟨value, names, padded, recased⟩ := constantName_ascii ascii
  have name : constantName (ofChars "tenant--id".toList) = some "TENANT_ID".toList := value.trans (by decide +kernel)
  refine ⟨ascii, name, (names _ name).2.2.2, (padded _ _ ?_ ?_).trans name, (recased _ (by decide +kernel)).trans name⟩
  · exact List.forall_mem_singleton.2 (.inl (by decide +kernel))
  · exact List.forall_mem_singleton.2 (.inr rfl)

end Names

end CallLint.Fix

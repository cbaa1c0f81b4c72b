import CallLint.Proofs.Text.Breaks

/-!
# Byte columns

`charOffset` counts characters whose sizes add up to a column. This is the same as to take that many bytes of the line and to read them
as a text (`charOffset_eq_decode?`), since the bytes of a text can be cut only between characters (`decode?_take_encode`). Lines and
byte columns are thereby another way to say which character of a text is meant (`charOffset_corresponds`).
-/

namespace CallLint.Text

namespace Utf8

/-! ### The bytes of a text -/

/-- The bytes of a character as they are read: the first one tells how many follow. -/
inductive Spells (c : Char) : List UInt8 → Prop where
  | one {a : UInt8} (lead : a < 0x80) (value : Char.ofNat a.toNat = c) : Spells c [a]
  | two {a b : UInt8} {y : Nat} (high : ¬ a < 0x80) (lead : (0xC0 ≤ a && a < 0xE0) = true) (second : tail? b = some y)
      (value : charAtLeast? 0x80 ((a.toNat - 0xC0) * 64 + y) = some c) : Spells c [a, b]
  | three {a b b' : UInt8} {y z : Nat} (high : ¬ a < 0x80) (more : (0xC0 ≤ a && a < 0xE0) = false)
      (lead : (0xE0 ≤ a && a < 0xF0) = true) (second : tail? b = some y) (third : tail? b' = some z)
      (value : charAtLeast? 0x800 (((a.toNat - 0xE0) * 64 + y) * 64 + z) = some c) : Spells c [a, b, b']
  | four {a b b' b'' : UInt8} {y z w : Nat} (high : ¬ a < 0x80) (more : (0xC0 ≤ a && a < 0xE0) = false)
      (more' : (0xE0 ≤ a && a < 0xF0) = false) (lead : (0xF0 ≤ a && a < 0xF8) = true) (second : tail? b = some y)
      (third : tail? b' = some z) (fourth : tail? b'' = some w)
      (value : charAtLeast? 0x10000 ((((a.toNat - 0xF0) * 64 + y) * 64 + z) * 64 + w) = some c) : Spells c [a, b, b', b'']

theorem tail?_byte (n : Nat) : tail? (UInt8.ofNat (n % 64 + 0x80)) = some (n % 64) := by
  have value : (UInt8.ofNat (n % 64 + 0x80)).toNat = n % 64 + 0x80 :=
    UInt8.toNat_ofNat_of_lt (Nat.lt_of_lt_of_le (by omega) (Nat.le_refl 256))
  rw [tail?, if_pos, value, Nat.add_sub_cancel]
  simp only [UInt8.le_iff_toNat_le, UInt8.lt_iff_toNat_lt, value, UInt8.reduceToNat, Bool.and_eq_true, decide_eq_true_eq]
  omega

theorem charAtLeast?_toNat {least n : Nat} {c : Char} (eq : n = c.val.toNat) (h : least ≤ n) : charAtLeast? least n = some c := by
  subst eq
  have valid : c.val.toNat.isValidChar := c.valid
  rw [charAtLeast?, dif_pos valid, if_pos h]
  rfl

theorem spells_encodeChar (c : Char) : Spells c (String.utf8EncodeChar c) := by
  have range : c.val.toNat < 0x110000 := by
    have := c.valid
    simp only [UInt32.isValidChar, Nat.isValidChar] at this
    omega
  have byte {n : Nat} (h : n < 256) : (UInt8.ofNat n).toNat = n := UInt8.toNat_ofNat_of_lt h
  fun_cases String.utf8EncodeChar c with
  | case1 v one =>
    have lead := byte (show v < 256 by omega)
    refine .one ?_ (by rw [lead]; exact Char.ofNat_toNat c)
    simp only [UInt8.lt_iff_toNat_lt, lead, UInt8.reduceToNat]
    omega
  | case2 v one two =>
    have lead := byte (show v / 64 % 32 + 0xC0 < 256 by omega)
    refine .two ?_ ?_ (tail?_byte v) (charAtLeast?_toNat ?_ ?_)
    all_goals
      simp only [UInt8.lt_iff_toNat_lt, UInt8.le_iff_toNat_le, lead, UInt8.reduceToNat, Bool.and_eq_true, decide_eq_true_eq]
      omega
  | case3 v one two three =>
    have lead := byte (show v / 4096 % 16 + 0xE0 < 256 by omega)
    refine .three ?_ ?_ ?_ (tail?_byte (v / 64)) (tail?_byte v) (charAtLeast?_toNat ?_ ?_)
    all_goals
      simp only [UInt8.lt_iff_toNat_lt, UInt8.le_iff_toNat_le, lead, UInt8.reduceToNat, Bool.and_eq_true, Bool.and_eq_false_iff,
        decide_eq_true_eq, decide_eq_false_iff_not]
      omega
  | case4 v one two three =>
    have lead := byte (show v / 262144 % 8 + 0xF0 < 256 by omega)
    refine .four ?_ ?_ ?_ ?_ (tail?_byte (v / 4096)) (tail?_byte (v / 64)) (tail?_byte v) (charAtLeast?_toNat ?_ ?_)
    all_goals
      simp only [UInt8.lt_iff_toNat_lt, UInt8.le_iff_toNat_le, lead, UInt8.reduceToNat, Bool.and_eq_true, Bool.and_eq_false_iff,
        decide_eq_true_eq, decide_eq_false_iff_not]
      omega

/-- A cut through bytes that start with a character: behind the character its text goes on, and a part of its bytes is no text. -/
theorem Spells.decode?_take {c : Char} {bytes : List UInt8} (h : Spells c bytes) (bs : List UInt8) {k : Nat} (some_byte : 0 < k) :
    decode? ((bytes ++ bs).take k) = if bytes.length ≤ k then (decode? (bs.take (k - bytes.length))).map (c :: ·) else none := by
  obtain ⟨k, rfl⟩ : ∃ j, k = j + 1 := ⟨k - 1, by omega⟩
  -- One case for each number of bytes that the cut leaves of the character.
  cases h with
  | one lead value =>
    rw [List.cons_append, List.take_succ_cons, decode?.eq_def]
    simp [lead, value]
  | two high lead second value =>
    rw [List.cons_append, List.take_succ_cons, decode?.eq_def]
    rcases k with _ | k <;>
    simp [high, lead, second, value, -Bool.and_eq_true, -UInt8.not_lt]
  | three high more lead second third value =>
    rw [List.cons_append, List.take_succ_cons, decode?.eq_def]
    rcases k with _ | _ | k <;>
    simp [high, more, lead, second, third, value, -Bool.and_eq_true, -UInt8.not_lt]
  | four high more more' lead second third fourth value =>
    rw [List.cons_append, List.take_succ_cons, decode?.eq_def]
    rcases k with _ | _ | _ | k <;>
    simp [high, more, more', lead, second, third, fourth, value, -Bool.and_eq_true, -UInt8.not_lt]

/-- The bytes of a text. -/
def encode (cs : List Char) : List UInt8 := cs.flatMap String.utf8EncodeChar

theorem encode_cons (c : Char) (cs : List Char) : encode (c :: cs) = String.utf8EncodeChar c ++ encode cs := rfl

theorem length_encode (cs : List Char) : (encode cs).length = size cs := by
  induction cs with
  | nil => rfl
  | cons c cs ih =>
    rw [encode_cons, List.length_append, String.length_utf8EncodeChar, ih]
    rfl

/-- Counting the characters before a cut by bytes is reading the bytes before it. -/
theorem decode?_take_encode (k : Nat) (cs : List Char) : decode? ((encode cs).take k) = (charsInBytes? k cs).map (cs.take ·) := by
  induction cs generalizing k with
  | nil => simp [encode, charsInBytes?, decode?]
  | cons c cs ih =>
    by_cases zero : k = 0
    · simp [charsInBytes?, zero, decode?]
    · have cut := (spells_encodeChar c).decode?_take (encode cs) (Nat.pos_of_ne_zero zero)
      rw [encode_cons, cut, String.length_utf8EncodeChar, ih, charsInBytes?, if_neg (show ¬ (k == 0) = true by simpa using zero)]
      split
      · simp [Function.comp_def]
      · rfl

/-- A later cut has at least as many characters before it. -/
theorem charsInBytes?_mono {k k' n n' : Nat} {cs : List Char} (le : k ≤ k') (h : charsInBytes? k cs = some n)
    (h' : charsInBytes? k' cs = some n') : n ≤ n' := by
  induction cs generalizing k k' n n' with
  | nil => simp_all [charsInBytes?]
  | cons c cs ih =>
    simp only [charsInBytes?, beq_iff_eq] at h h'
    split at h
    · cases h
      exact Nat.zero_le n'
    · next some_byte =>
      rw [if_neg (by omega)] at h'
      split at h <;> split at h' <;> simp only [Option.map_eq_some_iff, reduceCtorEq] at h h'
      obtain ⟨m, hm, rfl⟩ := h
      obtain ⟨m', hm', rfl⟩ := h'
      exact Nat.succ_le_succ (ih (by omega) hm hm')

theorem charsInBytes?_le {k n : Nat} {cs : List Char} (h : charsInBytes? (min k (size cs)) cs = some n) : n ≤ cs.length := by
  have whole := charsInBytes?_front cs []
  rw [List.append_nil] at whole
  exact charsInBytes?_mono (Nat.min_le_right ..) h whole

end Utf8

/-! ### Offsets of places -/

section Offsets

variable {lines : List (List Char)}

/-- The offset of a place is found by reading the bytes of its line up to its column. -/
theorem charOffset_eq_decode? (lines : List (List Char)) (n column : Nat) : charOffset lines ((n + 1 : Nat) : Int) column =
    (Utf8.decode? ((Utf8.encode (lines.getD n [])).take column)).elim (.error .insideCharacter) fun cs =>
      .ok ((lines.take n).flatten.length + cs.length) := by
  have cut : (Utf8.encode (lines.getD n [])).take column =
      (Utf8.encode (lines.getD n [])).take (min column (Utf8.size (lines.getD n []))) := by
    rw [List.take_eq_take_iff, Utf8.length_encode, Nat.min_assoc, Nat.min_self]
  rw [charOffset_eq, cut, Utf8.decode?_take_encode]
  cases count : Utf8.charsInBytes? _ _ with
  | none => rfl
  | some j => simp only [Option.map_some, Option.elim_some, List.length_take, Nat.min_eq_left (Utf8.charsInBytes?_le count)]

theorem flatten_take_succ (lines : List (List Char)) (n : Nat) :
    (lines.take (n + 1)).flatten.length = (lines.take n).flatten.length + (lines.getD n []).length := by
  rw [List.take_add_one, List.flatten_append, List.length_append, List.getD_eq_getElem?_getD]
  cases lines[n]? <;> simp

theorem flatten_take_le (lines : List (List Char)) {n n' : Nat} (le : n ≤ n') :
    (lines.take n).flatten.length ≤ (lines.take n').flatten.length := by
  obtain ⟨d, rfl⟩ := Nat.exists_eq_add_of_le le
  rw [List.take_add, List.flatten_append, List.length_append]
  exact Nat.le_add_right ..

/-- Offsets are in the order of lines, and of columns on a line. -/
theorem charOffset_mono {line line' column column' : Int} {m m' : Nat} (positive : 0 < line) (right : 0 ≤ column) (right' : 0 ≤ column')
    (le : line < line' ∨ line = line' ∧ column ≤ column') (h : charOffset lines line column = .ok m)
    (h' : charOffset lines line' column' = .ok m') : m ≤ m' := by
  obtain ⟨n, rfl⟩ : ∃ n : Nat, line = (n + 1 : Nat) := ⟨(line - 1).toNat, by omega⟩
  obtain ⟨n', rfl⟩ : ∃ n : Nat, line' = (n + 1 : Nat) := ⟨(line' - 1).toNat, by omega⟩
  obtain ⟨column, rfl⟩ := Int.eq_ofNat_of_zero_le right
  obtain ⟨column', rfl⟩ := Int.eq_ofNat_of_zero_le right'
  obtain ⟨j, count, rfl⟩ := charOffset_eq_ok.1 h
  obtain ⟨j', count', rfl⟩ := charOffset_eq_ok.1 h'
  rcases le with before | ⟨same, le⟩
  · calc (lines.take n).flatten.length + j
      _ ≤ (lines.take n).flatten.length + (lines.getD n []).length := Nat.add_le_add_left (Utf8.charsInBytes?_le count) _
      _ = (lines.take (n + 1)).flatten.length := (flatten_take_succ lines n).symm
      _ ≤ (lines.take n').flatten.length := flatten_take_le lines (by omega)
      _ ≤ (lines.take n').flatten.length + j' := Nat.le_add_right ..
  · obtain rfl : n = n' := by omega
    have cut : min column (Utf8.size (lines.getD n [])) ≤ min column' (Utf8.size (lines.getD n [])) := by omega
    exact Nat.add_le_add_left (Utf8.charsInBytes?_mono cut count count') _

/-- Each character of some lines stands on one of them. -/
theorem exists_mem_flatten {i : Nat} (h : i < lines.flatten.length) :
    ∃ before u c v later, lines = before ++ (u ++ c :: v) :: later ∧ i = (before.flatten ++ u).length := by
  induction lines generalizing i with
  | nil => cases h
  | cons l lines ih =>
    by_cases here : i < l.length
    · refine ⟨[], l.take i, l[i], l.drop (i + 1), lines, ?_, by simp; omega⟩
      rw [List.getElem_cons_drop, List.take_append_drop, List.nil_append]
    · rw [List.flatten_cons, List.length_append] at h
      obtain ⟨before, u, c, v, later, rfl, eq⟩ := ih (i := i - l.length) (by omega)
      refine ⟨l :: before, u, c, v, later, rfl, ?_⟩
      rw [List.flatten_cons, List.append_assoc, List.length_append]
      omega

end Offsets

/-- Character `i` of a text stands on line `line`, counted from 1, behind `column` bytes of it. -/
def StandsAt (s : List Char) (i line column : Nat) : Prop :=
  ∃ before u c v later, splitLines s = before ++ (u ++ c :: v) :: later ∧ i = (before.flatten ++ u).length ∧
    line = before.length + 1 ∧ column = (Utf8.encode u).length

/-- Byte columns and offsets correspond. Every character of a text stands on a line behind some bytes, and its index is the offset of
that place; the offset of the end of the last line, and of the start of a line behind it, is that of the end of the text. Offsets are in
the order of lines and columns where there are any, and on a line there is none if and only if the column falls inside a character. An
offset is found by reading so many bytes of its line as a text. -/
theorem charOffset_corresponds (s : List Char) :
    (∀ i < s.length, ∃ line column, StandsAt s i line column) ∧
    (∀ i line column, StandsAt s i line column → charOffset (splitLines s) line column = .ok i) ∧
    (∀ before last, splitLines s = before ++ [last] →
      charOffset (splitLines s) (before.length + 1 : Nat) (Utf8.encode last).length = .ok s.length) ∧
    charOffset (splitLines s) ((splitLines s).length + 1 : Nat) 0 = .ok s.length ∧
    (∀ line line' column column' : Int, 0 < line → 0 < line' → 0 ≤ column → 0 ≤ column' →
      (line < line' ∨ line = line' ∧ column ≤ column') → ∀ m m', charOffset (splitLines s) line column = .ok m →
        charOffset (splitLines s) line' column' = .ok m' → m ≤ m') ∧
    (∀ line column : Int, 0 < line → 0 ≤ column →
      ((∃ e, charOffset (splitLines s) line column = .error e) ↔ InsideCharacter s line column)) ∧
    ∀ n column : Nat, charOffset (splitLines s) (n + 1 : Nat) column =
      (Utf8.decode? ((Utf8.encode ((splitLines s).getD n [])).take column)).elim (.error .insideCharacter) fun cs =>
        .ok (((splitLines s).take n).flatten.length + cs.length) := by
  have text := flatten_splitLines s
  refine ⟨fun i inside => ?_, ?_, fun before last lines => ?_, ?_, ?_, ?_, charOffset_eq_decode? (splitLines s)⟩
  · rw [← text] at inside
    obtain ⟨before, u, c, v, later, lines, eq⟩ := exists_mem_flatten inside
    exact ⟨_, _, before, u, c, v, later, lines, eq, rfl, rfl⟩
  · rintro i line column ⟨before, u, c, v, later, lines, rfl, rfl, rfl⟩
    rw [Utf8.length_encode]
    exact charOffset_endsAt ⟨⟨(u ++ c :: v) :: later, lines, List.prefix_append u (c :: v)⟩, rfl⟩
  · rw [Utf8.length_encode]
    exact charOffset_endsAt ⟨⟨[last], lines, List.prefix_refl last⟩, by simpa [lines] using text.symm⟩
  · exact charOffset_endsAt (u := []) ⟨⟨[], (List.append_nil _).symm, List.nil_prefix⟩, by simpa using text.symm⟩
  · intro line line' column column' positive _ right right' le m m' h h'
    exact charOffset_mono positive right right' le h h'
  · intro line column positive right
    simp only [charOffset_eq_error positive right, exists_eq_left]

/-- Behind a break of two characters and a character of four bytes, the fifth character of a text stands in column 4 of its second line;
column 2 falls inside the character before it. -/
theorem charOffset_corresponds_mixed :
    StandsAt "é\r\n😀x".toList 4 2 4 ∧ charOffset (splitLines "é\r\n😀x".toList) 2 4 = .ok 4 ∧
    InsideCharacter "é\r\n😀x".toList 2 2 ∧ ∃ e, charOffset (splitLines "é\r\n😀x".toList) 2 2 = .error e := by
  have lines : splitLines "é\r\n😀x".toList = [['é', '\r', '\n']] ++ [['😀', 'x']] := by decide +kernel
  have stands : StandsAt "é\r\n😀x".toList 4 2 4 :=
    ⟨[['é', '\r', '\n']], ['😀'], 'x', [], [], lines, rfl, rfl, by decide +kernel⟩
  have inside : InsideCharacter "é\r\n😀x".toList 2 2 :=
    ⟨[['é', '\r', '\n']], [], '😀', ['x'], [], lines, rfl, by decide, by decide⟩
  obtain ⟨-, places, -, -, -, failures, -⟩ := charOffset_corresponds "é\r\n😀x".toList
  exact ⟨stands, places 4 2 4 stands, inside, (failures 2 2 (by decide) (by decide)).2 inside⟩

end CallLint.Text

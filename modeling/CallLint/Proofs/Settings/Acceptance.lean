import CallLint.Proofs.Tree.Field
import CallLint.Settings.File

/-!
# Which settings are accepted

A mapping of settings is accepted if its keys are the names of settings and each value is of the kind that its setting takes
(`ofEntries_eq_ok`). What is refused is refused with a message, but for two slips: a key that is no text and a scalar that has no value
are faults that the author of the settings is not told about (`load_outcome`).
-/

namespace CallLint.Yaml

open Decimal

/-! ### The text of a value -/

/-- A number with zeros in front, up to a width. -/
def padded (width n : Nat) : List Char := (digitsOf n).leftpad width '0'

/-- A day as in `2020-01-31`. -/
def Date.iso (d : Date) : List Char := padded 4 d.year ++ '-' :: padded 2 d.month ++ '-' :: padded 2 d.day

/-- A time of day as in `23:59:59.000001`; whole seconds have no fraction. -/
def Clock.iso (c : Clock) : List Char :=
  padded 2 c.hour ++ ':' :: padded 2 c.minute ++ ':' :: padded 2 c.second ++ if c.micro = 0 then [] else '.' :: padded 6 c.micro

/-- A time zone as in `+01:30`. -/
def zoneIso (minutes : Int) : List Char :=
  (if minutes < 0 then '-' else '+') :: padded 2 (minutes.natAbs / 60) ++ ':' :: padded 2 (minutes.natAbs % 60)

namespace Value

/-- The text of a value: a text is its own, days and points in time are written in digits, and all else as in a message. A whole number
that is too long has none. -/
def str? : Value → Option Text
  | text t => some t
  | date d => some (.ofChars d.iso)
  | moment d c zone => some (.ofChars (d.iso ++ ' ' :: c.iso ++ zone.elim [] zoneIso))
  | v => if v.writable then some (.ofChars v.write) else none

end Value

/-- Whether a character is none with which the name of a severity may begin. -/
def isForeign (c : Char) : Bool := c.toNat < 128 && !(['e', 'E', 'h', 'H', 'i', 'I', 'w', 'W'].contains c)

/-- A text that begins unlike every severity. -/
def Foreign (cs : List Char) : Prop := cs.head?.any isForeign = true

theorem Foreign.append {cs : List Char} (h : Foreign cs) (ds : List Char) : Foreign (cs ++ ds) := by
  cases cs with
  | nil => cases h
  | cons c cs => exact h

theorem foreign_cons {c : Char} {cs : List Char} (h : isForeign c = true) : Foreign (c :: cs) := h

theorem isForeign_of_isDigit {c : Char} (h : c.isDigit = true) : isForeign c = true := by
  simp only [Char.isDigit, Bool.and_eq_true, decide_eq_true_eq] at h
  obtain ⟨least, most⟩ := h
  have small : ∀ n < 128, 48 ≤ n → n ≤ 57 → isForeign (Char.ofNat n) = true := by decide
  have least : 48 ≤ c.toNat := least
  have most : c.toNat ≤ 57 := most
  simpa using small c.toNat (by omega) least most

theorem foreign_digitsOf (n : Nat) : Foreign (digitsOf n) := by
  cases h : digitsOf n with
  | nil => exact absurd h Nat.toDigits_ne_nil
  | cons d ds =>
    have mem : d ∈ Nat.toDigits 10 n := by rw [show Nat.toDigits 10 n = d :: ds from h]; exact List.mem_cons_self
    exact isForeign_of_isDigit (Nat.isDigit_of_mem_toDigits (by decide) (by decide) mem)

theorem foreign_padded (width n : Nat) : Foreign (padded width n) := by
  rw [padded, List.leftpad]
  cases width - (digitsOf n).length with
  | zero => exact foreign_digitsOf n
  | succ k => exact foreign_cons rfl

theorem foreign_iso (d : Date) : Foreign d.iso := by
  rw [Date.iso, List.append_assoc]
  exact (foreign_padded 4 d.year).append _

/-- A finite number is written from a digit on. -/
theorem foreign_layout (s : Scientific) : Foreign (realLayout.write s) := by
  have digits := foreign_digitsOf s.digits
  unfold Layout.write
  dsimp only
  generalize digitsOf s.digits = ds at *
  split
  · exact foreign_cons rfl
  split
  · split
    · exact foreign_cons rfl
    split
    · exact (digits.append _).append _
    · cases ds with
      | nil => cases digits
      | cons d ds => exact foreign_cons digits
  · cases ds with
    | nil => cases digits
    | cons d ds => cases ds <;> exact foreign_cons digits

theorem foreign_writeInt (n : Int) : Foreign (Value.writeInt n) := by
  unfold Value.writeInt
  split
  · exact foreign_cons rfl
  · exact foreign_digitsOf _

/-- A text that begins unlike every severity is none in upper case. -/
theorem Foreign.upper_ne {cs : List Char} (h : Foreign cs) (s : Severity) : (Text.ofChars cs).upper ≠ Text.ofString s.label := by
  cases cs with
  | nil => cases h
  | cons c cs =>
    have h : isForeign c = true := h
    have ascii : ∀ n < 128, isForeign (Char.ofNat n) = true → (Text.upperChar (Char.ofNat n)).head?.any isForeign = true := by
      decide +kernel
    have small : c.toNat < 128 := by
      rw [isForeign, Bool.and_eq_true, decide_eq_true_eq] at h
      exact h.1
    have first : (Text.upperChar c).head?.any isForeign = true := by simpa [h] using ascii c.toNat small
    obtain ⟨d, hd, foreign⟩ := (Option.any_eq_true _ _).1 first
    obtain ⟨ds, eq⟩ := List.head?_eq_some_iff.1 hd
    intro same
    have head : (Text.ofString s.label).head? = some (.scalar d) := by
      rw [← same]
      simp [Text.upper, Text.ofChars, eq]
    cases s <;> cases head <;> cases foreign

/-- No value but a text has the name of a severity for its text: the words for infinite numbers come near, but are too short. -/
theorem Value.str?_upper_ne {v : Value} {t : Text} (noText : ∀ s, v ≠ text s) (h : v.str? = some t) (s : Severity) :
    t.upper ≠ Text.ofString s.label := by
  have written : (if v.writable then some (Text.ofChars v.write) else none) = some t → Foreign v.write →
      t.upper ≠ Text.ofString s.label := by
    intro eq foreign
    split at eq
    · cases eq
      exact foreign.upper_ne s
    · cases eq
  cases v with
  | text u => exact absurd rfl (noText u)
  | date d =>
    cases h
    exact (foreign_iso d).upper_ne s
  | moment d c zone =>
    cases h
    rw [List.append_assoc]
    exact ((foreign_iso d).append _).upper_ne s
  | bool b => exact written h (by cases b <;> rfl)
  | int n => exact written h (foreign_writeInt n)
  | real x =>
    cases x with
    | finite negative m q =>
      refine written h ?_
      cases negative
      · exact foreign_layout _
      · exact foreign_cons rfl
    | infinite negative =>
      cases h
      cases negative
      · cases s <;> decide
      · exact (foreign_cons rfl : Foreign ['-', 'i', 'n', 'f']).upper_ne s
    | nan => exact written h rfl
  | set items =>
    refine written h ?_
    cases items <;> rfl
  | null | bytes _ | list _ | pairs _ | map _ | loopList | loopMap => exact written h rfl

/-- A value has the label of a severity for its text in upper case only if it is a text. -/
theorem Value.str?_upper {v : Value} {s : Severity} :
    (∃ t, v.str? = some t ∧ Text.ofString s.label = t.upper) ↔ ∃ t, v = text t ∧ Text.ofString s.label = t.upper := by
  constructor
  · rintro ⟨t, str, label⟩
    by_cases isText : ∃ u, v = text u
    · obtain ⟨u, rfl⟩ := isText
      cases str
      exact ⟨t, rfl, label⟩
    · exact absurd label.symm (str?_upper_ne (fun u eq => isText ⟨u, eq⟩) str s)
  · rintro ⟨t, rfl, label⟩
    exact ⟨t, rfl, label⟩

end CallLint.Yaml

namespace CallLint

open Files Yaml

/-! ### Severities -/

theorem Severity.ofText?_eq_some {t : Text} {s : Severity} : ofText? t = some s ↔ Text.ofString s.label = t.upper := by
  unfold ofText?
  constructor
  · intro found
    have label := List.find?_some found
    exact eq_of_beq label
  · intro label
    rw [← label]
    cases s <;> decide

/-- The values that name a severity are texts. -/
theorem Severity.ofValue_eq_ok {v : Value} {s : Severity} :
    ofValue v = .ok s ↔ ∃ t, v = .text t ∧ Text.ofString s.label = t.upper := by
  cases v with
  | text t =>
    have named : ofValue (.text t) = .ok s ↔ ofText? t = some s := by
      unfold ofValue
      dsimp only
      split
      · next r found => simp [found]
      · next none => simp [none]
    rw [named, ofText?_eq_some]
    exact ⟨fun h => ⟨t, rfl, h⟩, fun ⟨_, eq, h⟩ => Value.text.inj eq ▸ h⟩
  | _ => exact ⟨nofun, nofun⟩

namespace Settings

/-! ### Mappings -/

/-- A key that names a setting. -/
def IsName (k : Value) : Prop := ∃ name ∈ knownKeys, k = .text (Text.ofString name)

/-- A key that is no text. -/
def OddKey (k : Value) : Prop := ∀ t, k ≠ .text t

/-- The patterns of a value: a lone text is one pattern, a list of texts is as many. -/
inductive Patterns : Value → List (List Char) → Prop where
  | one (t : Text) : Patterns (.text t) [t.display.toList]
  | many (ts : List Text) : Patterns (.list (ts.map .text)) (ts.map fun t => t.display.toList)

/-- The settings that a mapping gives: every key names a setting, and what is not there has its default. -/
structure Accepts (entries : List (Value × Value)) (s : Settings) : Prop where
  keys : ∀ e ∈ entries, IsName e.1
  exclude : (Value.lookup entries "exclude").elim (s.exclude = []) fun v => Patterns v s.exclude
  failOn : (Value.lookup entries "fail_on").elim (s.failOn = .warning) fun v =>
    ∃ t, v.str? = some t ∧ Text.ofString s.failOn.label = t.upper
  suggestFixes : (Value.lookup entries "suggest_fixes").elim (s.suggestFixes = false) fun v => v = .bool s.suggestFixes

theorem sameKey_text {k : Value} {t : Text} : k.sameKey (.text t) = true ↔ k = .text t := by
  cases k with
  | text s => simp [Value.sameKey, Value.number?]
  | _ => simp [Value.sameKey, Value.number?]

theorem patterns?_cons_text (t : Text) (items : List Value) :
    patterns? (.list (.text t :: items)) = (patterns? (.list items)).map (t.display.toList :: ·) := by
  simp only [patterns?, List.mapM_cons, Option.bind_eq_bind, Option.bind_some, Option.pure_def, Option.map_eq_bind]
  rfl

theorem patterns?_cons_odd {v : Value} (h : OddKey v) (items : List Value) : patterns? (.list (v :: items)) = none := by
  cases v with
  | text t => exact absurd rfl (h t)
  | _ => rfl

theorem patterns?_list {items : List Value} {ps : List (List Char)} :
    patterns? (.list items) = some ps ↔ ∃ ts : List Text, items = ts.map .text ∧ ps = ts.map fun t => t.display.toList := by
  induction items generalizing ps with
  | nil =>
    constructor
    · intro h
      cases h
      exact ⟨[], rfl, rfl⟩
    · rintro ⟨ts, none, rfl⟩
      rw [List.map_eq_nil_iff.1 none.symm]
      rfl
  | cons v items ih =>
    by_cases isText : ∃ t, v = .text t
    · obtain ⟨t, rfl⟩ := isText
      rw [patterns?_cons_text, Option.map_eq_some_iff]
      constructor
      · rintro ⟨qs, rest, rfl⟩
        obtain ⟨ts, rfl, rfl⟩ := ih.1 rest
        exact ⟨t :: ts, rfl, rfl⟩
      · rintro ⟨ts, eq, rfl⟩
        cases ts with
        | nil => cases eq
        | cons u us =>
          cases eq
          exact ⟨_, ih.2 ⟨us, rfl, rfl⟩, rfl⟩
    · rw [patterns?_cons_odd fun t eq => isText ⟨t, eq⟩]
      refine ⟨nofun, ?_⟩
      rintro ⟨ts, eq, -⟩
      cases ts with
      | nil => cases eq
      | cons u us =>
        cases eq
        exact absurd ⟨u, rfl⟩ isText

theorem patterns?_eq_some {v : Value} {ps : List (List Char)} : patterns? v = some ps ↔ Patterns v ps := by
  constructor
  · intro h
    cases v with
    | text t =>
      cases h
      exact .one t
    | list items =>
      obtain ⟨ts, rfl, rfl⟩ := patterns?_list.1 h
      exact .many ts
    | _ => cases h
  · intro h
    cases h with
    | one t => rfl
    | many ts => exact patterns?_list.2 ⟨ts, rfl, rfl⟩

/-- The keys that name no setting. -/
theorem mem_unknown {keys : List Value} {k : Value} :
    k ∈ (keys.filter fun k => !(knownKeys.map fun n => Value.text (Text.ofString n)).any (Value.sameKey k)) ↔ k ∈ keys ∧ ¬ IsName k := by
  have named : (knownKeys.map fun n => Value.text (Text.ofString n)).any (Value.sameKey k) = true ↔ IsName k := by
    simp [IsName, sameKey_text]
  rw [List.mem_filter, Bool.not_eq_true', ← Bool.not_eq_true, named]

theorem checkKeys_eq_ok {keys : List Value} : checkKeys keys = .ok () ↔ ∀ k ∈ keys, IsName k := by
  have none_unknown := List.eq_nil_iff_forall_not_mem (l := keys.filter fun k =>
    !(knownKeys.map fun n => Value.text (Text.ofString n)).any (Value.sameKey k))
  simp only [mem_unknown, not_and, Classical.not_not] at none_unknown
  rw [← none_unknown]
  unfold checkKeys
  dsimp only
  split
  · next none => simpa using none
  · next some_unknown =>
    rw [List.isEmpty_iff] at some_unknown
    refine ⟨fun h => ?_, fun none => absurd none some_unknown⟩
    split at h <;> cases h

/-- Keys are refused without a message exactly if one of them is no text. -/
theorem checkKeys_eq_error {keys : List Value} {e : SettingsError} (h : checkKeys keys = .error e) :
    e.detail? = none ↔ ∃ k ∈ keys, OddKey k := by
  have unknown_of_odd : ∀ {k}, k ∈ keys → OddKey k → k ∈ (keys.filter fun k =>
      !(knownKeys.map fun n => Value.text (Text.ofString n)).any (Value.sameKey k)) := fun mem odd =>
    mem_unknown.2 ⟨mem, fun ⟨n, _, eq⟩ => odd _ eq⟩
  unfold checkKeys at h
  dsimp only at h
  split at h
  · cases h
  split at h
  · next texts =>
    cases h
    refine ⟨nofun, ?_⟩
    rintro ⟨k, mem, odd⟩
    have isText := List.filterMap_length_eq_length.1 (beq_iff_eq.1 texts) k (unknown_of_odd mem odd)
    cases k with
    | text t => exact absurd rfl (odd t)
    | _ => cases isText
  · next some_odd =>
    cases h
    refine ⟨fun _ => ?_, fun _ => rfl⟩
    rw [beq_iff_eq, List.filterMap_length_eq_length] at some_odd
    simp only [Classical.not_forall] at some_odd
    obtain ⟨k, mem, odd⟩ := some_odd
    refine ⟨k, (mem_unknown.1 mem).1, ?_⟩
    rintro t rfl
    exact odd rfl

section Setting

variable {α : Type} {entries : List (Value × Value)} {key : String} {default a : α} {read : Value → Except SettingsError α}
variable {e : SettingsError}

theorem setting_eq_ok :
    setting entries key default read = .ok a ↔ (Value.lookup entries key).elim (a = default) fun v => read v = .ok a := by
  unfold setting
  cases Value.lookup entries key with
  | none => exact ⟨fun h => (Except.ok.inj h).symm, fun h => congrArg _ h.symm⟩
  | some v => exact Iff.rfl

/-- A setting is refused only by its reader. -/
theorem setting_eq_error (h : setting entries key default read = .error e) : ∃ v, read v = .error e := by
  unfold setting at h
  split at h
  · cases h
  · next v _ => exact ⟨v, h⟩

end Setting

theorem readExclude_eq_ok {v : Value} {ps : List (List Char)} : readExclude v = .ok ps ↔ Patterns v ps := by
  rw [← patterns?_eq_some]
  unfold readExclude
  cases patterns? v <;> simp

theorem readFailOn_eq_ok {v : Value} {s : Severity} :
    readFailOn v = .ok s ↔ ∃ t, v.str? = some t ∧ Text.ofString s.label = t.upper := by
  rw [Value.str?_upper, ← Severity.ofValue_eq_ok]
  unfold readFailOn
  cases Severity.ofValue v <;> simp

theorem readSuggestFixes_eq_ok {v : Value} {b : Bool} : readSuggestFixes v = .ok b ↔ v = .bool b := by
  cases v <;> simp [readSuggestFixes]

/-- What the readers of the settings refuse, they refuse with a message. -/
theorem detail?_ne_none {v : Value} {e : SettingsError}
    (h : readExclude v = .error e ∨ readFailOn v = .error e ∨ readSuggestFixes v = .error e) : e.detail? ≠ none := by
  rcases h with h | h | h
  · unfold readExclude at h
    split at h <;> cases h
    nofun
  · unfold readFailOn at h
    split at h <;> cases h
    nofun
  · unfold readSuggestFixes at h
    split at h <;> cases h
    nofun

/-- The mappings that are accepted, and the settings that they give. -/
theorem ofEntries_eq_ok {entries : List (Value × Value)} {s : Settings} : ofEntries entries = .ok s ↔ Accepts entries s := by
  have keys : checkKeys (entries.map (·.1)) = .ok () ↔ ∀ e ∈ entries, IsName e.1 := by rw [checkKeys_eq_ok, List.forall_mem_map]
  unfold ofEntries
  simp only [Tree.bind_eq_ok, setting_eq_ok, readExclude_eq_ok, readFailOn_eq_ok, readSuggestFixes_eq_ok]
  constructor
  · rintro ⟨u, known, exclude, he, failOn, hf, suggestFixes, hs, eq⟩
    cases eq
    exact ⟨keys.1 known, he, hf, hs⟩
  · intro h
    exact ⟨(), keys.2 h.keys, _, h.exclude, _, h.failOn, _, h.suggestFixes, rfl⟩

/-- A mapping is refused without a message exactly if one of its keys is no text. -/
theorem ofEntries_leaks {entries : List (Value × Value)} :
    (∃ e, ofEntries entries = .error e ∧ e.detail? = none) ↔ ∃ e ∈ entries, OddKey e.1 := by
  constructor
  · rintro ⟨e, h, silent⟩
    obtain refused | ⟨_, -, h⟩ := Tree.bind_eq_error.1 h
    · simpa using (checkKeys_eq_error refused).1 silent
    -- the readers are left, and none of them is silent
    obtain refused | ⟨_, -, h⟩ := Tree.bind_eq_error.1 h
    · obtain ⟨v, refused⟩ := setting_eq_error refused
      exact absurd silent (detail?_ne_none (.inl refused))
    obtain refused | ⟨_, -, h⟩ := Tree.bind_eq_error.1 h
    · obtain ⟨v, refused⟩ := setting_eq_error refused
      exact absurd silent (detail?_ne_none (.inr (.inl refused)))
    obtain refused | ⟨_, -, h⟩ := Tree.bind_eq_error.1 h
    · obtain ⟨v, refused⟩ := setting_eq_error refused
      exact absurd silent (detail?_ne_none (.inr (.inr refused)))
    · cases h
  · rintro ⟨entry, mem, odd⟩
    have key : entry.1 ∈ entries.map (·.1) := List.mem_map_of_mem mem
    cases checked : checkKeys (entries.map (·.1)) with
    | ok u =>
      obtain ⟨name, -, eq⟩ := checkKeys_eq_ok.1 checked _ key
      exact absurd eq (odd _)
    | error e =>
      exact ⟨e, Tree.bind_eq_error.2 (.inl checked), (checkKeys_eq_error checked).2 ⟨_, key, odd⟩⟩

/-! ### Files -/

section Files

variable {cs : List Char} {s : Settings} {disk : Disk} {p : Path}

theorem readText_of_missing (missing : ((disk.find? p).isNone && !disk.isTooLong p) = true) : disk.readText p = .ok [] := by
  simp only [Bool.and_eq_true, Option.isNone_iff_eq_none, Bool.not_eq_true'] at missing
  simp [Disk.readText, missing.1, missing.2]

/-- A file is read as its text; one that is not there has an empty text, which sets nothing. -/
theorem load_of_text (h : disk.readText p = .ok cs) : load disk p = ofText cs := by
  unfold load
  split
  · next missing =>
    cases (readText_of_missing missing).symm.trans h
    rfl
  · rw [h]

theorem load_of_error {e : FileError} (h : disk.readText p = .error e) : load disk p = .error .unreadable := by
  unfold load
  split
  · next missing => cases (readText_of_missing missing).symm.trans h
  · rw [h]

theorem ofText_eq_ok :
    ofText cs = .ok s ↔ Yaml.read cs = .ok .null ∧ s = {} ∨ ∃ entries, Yaml.read cs = .ok (.map entries) ∧ Accepts entries s := by
  unfold ofText
  split
  · next read => simp [read]
  · next read => simp [read]
  · next read => simp [read, eq_comm]
  · next entries read =>
    simp only [read, Except.ok.injEq, reduceCtorEq, false_and, false_or, Value.map.injEq, exists_eq_left', ← ofEntries_eq_ok]
    cases ofEntries entries <;> simp
  · next v noNull noMap read =>
    simp only [read, Except.ok.injEq, reduceCtorEq, false_iff]
    rintro (⟨rfl, -⟩ | ⟨entries, rfl, -⟩)
    · exact noNull rfl
    · exact noMap _ rfl

/-- A text is refused without a message exactly if one of its scalars has no value, or if a key of its mapping is no text. -/
theorem ofText_leaks :
    (∃ f, ofText cs = .error f ∧ f.detail? = none) ↔
      (∃ f, Yaml.read cs = .error f ∧ f ≠ .malformed) ∨
        ∃ entries, Yaml.read cs = .ok (.map entries) ∧ ∃ e ∈ entries, OddKey e.1 := by
  unfold ofText
  split
  · next read => simp [read, FileFault.detail?]
  · next f other read =>
    simp only [read, Except.error.injEq, exists_eq_left', FileFault.detail?, true_iff]
    exact .inl other
  · next read => simp [read]
  · next entries read =>
    simp only [read, Except.ok.injEq, reduceCtorEq, false_and, exists_false, false_or, Value.map.injEq, exists_eq_left', ← ofEntries_leaks]
    cases ofEntries entries <;> simp [FileFault.detail?]
  · next v noNull noMap read =>
    simp only [read, Except.error.injEq, exists_eq_left', FileFault.detail?, reduceCtorEq, false_iff]
    rintro (⟨f, ⟨⟩, -⟩ | ⟨entries, eq, -⟩)
    cases eq
    exact noMap _ rfl

end Files

/-- Which mappings are accepted and what they set, which files are, and which of the others are refused without a message. -/
theorem load_accepts_or_refuses (entries : List (Value × Value)) (s : Settings) (disk : Disk) (p : Path) :
    (ofEntries entries = .ok s ↔ Accepts entries s) ∧
    ((∃ e, ofEntries entries = .error e ∧ e.detail? = none) ↔ ∃ e ∈ entries, OddKey e.1) ∧
    (load disk p = .ok s ↔ ∃ cs, disk.readText p = .ok cs ∧
      (Yaml.read cs = .ok .null ∧ s = {} ∨ ∃ entries, Yaml.read cs = .ok (.map entries) ∧ Accepts entries s)) ∧
    ((∃ f, load disk p = .error f ∧ f.detail? = none) ↔ ∃ cs, disk.readText p = .ok cs ∧
      ((∃ f, Yaml.read cs = .error f ∧ f ≠ .malformed) ∨
        ∃ entries, Yaml.read cs = .ok (.map entries) ∧ ∃ e ∈ entries, OddKey e.1)) := by
  refine ⟨ofEntries_eq_ok, ofEntries_leaks, ?_, ?_⟩
  · cases text : disk.readText p with
    | ok cs => simp [load_of_text text, ofText_eq_ok]
    | error e => simp [load_of_error text]
  · cases text : disk.readText p with
    | ok cs => simp only [load_of_text text, ofText_leaks, Except.ok.injEq, exists_eq_left']
    | error e => simp [load_of_error text, FileFault.detail?]

/-- A key that is a number, and a day that does not exist, are refused without a message. -/
theorem ofText_silent :
    (∃ f, ofText "1: x\n".toList = .error f ∧ f.detail? = none) ∧
      ∃ f, ofText "exclude: 2020-13-45\n".toList = .error f ∧ f.detail? = none := by
  have silent : ∀ {cs}, (match ofText cs with | .error f => f.detail?.isNone | .ok _ => false) = true →
      ∃ f, ofText cs = .error f ∧ f.detail? = none := by
    intro cs h
    split at h
    · next f eq => exact ⟨f, eq, Option.isNone_iff_eq_none.1 h⟩
    · cases h
  exact ⟨silent (by decide +kernel), silent (by decide +kernel)⟩

end Settings

end CallLint

import CallLint.Source.Lexer
import Mathlib.Data.List.TakeDrop

/-!
# How far tokens look ahead

A token is the longest that a text starts with, so a scanner looks at what stands behind it. A character that can go on in no word,
number or string breaks this off: a token in front of such a character is the same whatever stands behind the character
(`scanToken_swap`), unless the two make one punctuation or the sign and the first digit of an exponent (`Breaks`).
-/

namespace CallLint.Source

/-! ### Numbers -/

/-- Whether a character may go on in a word, a number or a string, or may start or end one. -/
def isJoining (c : Char) : Bool := isNameChar c || c == '.' || c == '\'' || c == '"'

def isSign (c : Char) : Bool := c == '+' || c == '-'

/-- A text that no number in front of it can reach into. -/
structure Boundary (s : List Char) : Prop where
  head : s.head?.any isJoining = false
  sign : s.head?.any isSign = true → s.tail.head?.any isDigit = false

/-- A scanner that does not look into a text `s` behind what it scans. -/
def Spares {α : Type} (s : List Char) (f : List Char → Option (α × List Char)) : Prop :=
  ∀ u, f (u ++ s) = (f u).map fun p => (p.1, p.2 ++ s)

theorem isJoining_of_isNameChar {c : Char} (h : isNameChar c = true) : isJoining c = true := by simp [isJoining, h]

theorem isNameChar_of_isDigit {c : Char} (h : isDigit c = true) : isNameChar c = true := by simp [isNameChar, h]

section Numbers

variable {s : List Char}

theorem Boundary.any_head (hs : Boundary s) {p : Char → Bool} (joining : ∀ c, p c = true → isJoining c = true) (u : List Char) :
    (u ++ s).head?.any p = u.head?.any p := by
  cases u with
  | cons c u => rfl
  | nil =>
    cases s with
    | nil => rfl
    | cons c s => exact Bool.eq_false_iff.2 fun hp => Bool.eq_false_iff.1 hs.head (joining c hp)

theorem Boundary.any_digit (hs : Boundary s) (u : List Char) : (u ++ s).head?.any isDigit = u.head?.any isDigit :=
  hs.any_head (fun _ h => isJoining_of_isNameChar (isNameChar_of_isDigit h)) u

theorem Boundary.startsWord (hs : Boundary s) {w : List Char} (name : ∀ c ∈ w, isNameChar c = true) (u : List Char) :
    startsWord w (u ++ s) = startsWord w u := by
  induction w generalizing u with
  | nil => simpa [Source.startsWord] using hs.any_head (fun _ => isJoining_of_isNameChar) u
  | cons c w ih =>
    obtain ⟨hc, hw⟩ := List.forall_mem_cons.1 name
    cases u with
    | cons d u => simpa [Source.startsWord, List.isPrefixOf, Bool.and_assoc] using congrArg (c == d && ·) (ih hw u)
    | nil =>
      cases s with
      | nil => rfl
      | cons d s =>
        have other : (c == d) = false := by
          refine Bool.eq_false_iff.2 fun eq => Bool.eq_false_iff.1 hs.head ?_
          exact isJoining_of_isNameChar (eq_of_beq eq ▸ hc)
        simp [Source.startsWord, List.isPrefixOf, other]

theorem Boundary.numberEnds (hs : Boundary s) (u : List Char) : numberEnds (u ++ s) = numberEnds u := by
  cases u with
  | nil =>
    cases s with
    | nil => rfl
    | cons c s =>
      have name : isNameChar c = false := Bool.eq_false_iff.2 fun h => Bool.eq_false_iff.1 hs.head (isJoining_of_isNameChar h)
      simp [Source.numberEnds, name]
  | cons c u =>
    have second := hs.any_head (p := fun d => d == 'f' || d == 'n' || d == 's') (by
      intro c hc
      simp only [Bool.or_eq_true, beq_iff_eq] at hc
      rcases hc with (rfl | rfl) | rfl <;> rfl) u
    have names : (["and", "else", "for", "or", "not"].all fun w => w.toList.all isNameChar) = true := by decide
    have word : ∀ w ∈ ["and", "else", "for", "or", "not"], Source.startsWord w.toList (c :: (u ++ s)) = Source.startsWord w.toList (c :: u) :=
      fun w hw => hs.startsWord (fun d hd => List.all_eq_true.1 (List.all_eq_true.1 names w hw) d hd) (c :: u)
    simp only [List.mem_cons, List.not_mem_nil, or_false, forall_eq_or_imp, forall_eq] at word
    simp only [List.cons_append, Source.numberEnds, second, List.any_cons, List.any_nil, word]
    rfl

theorem Boundary.scanDigits (hs : Boundary s) {ok : Char → Bool} (name : ∀ c, ok c = true → isNameChar c = true) (due : Bool) :
    Spares s (scanDigits ok due) := by
  intro u
  induction u generalizing due with
  | cons c u ih =>
    simp only [List.cons_append, Source.scanDigits, ih]
    cases ok c <;> cases due <;> cases c == '_' <;> simp [Option.map_map, Function.comp_def]
  | nil =>
    cases s with
    | nil => cases due <;> rfl
    | cons c s =>
      have none : ok c = false := Bool.eq_false_iff.2 fun h => Bool.eq_false_iff.1 hs.head (isJoining_of_isNameChar (name c h))
      have other : (c == '_') = false := Bool.eq_false_iff.2 fun h => Bool.eq_false_iff.1 hs.head (eq_of_beq h ▸ rfl)
      cases due <;> simp [Source.scanDigits, none, other]

theorem Boundary.any_unit (hs : Boundary s) (u : List Char) :
    ((u ++ s).head?.any fun c => c == 'j' || c == 'J') = u.head?.any fun c => c == 'j' || c == 'J' :=
  hs.any_head (fun c hc => by rcases Bool.or_eq_true_iff.1 hc with h | h <;> (rw [eq_of_beq h]; rfl)) u

theorem Boundary.scanUnit (hs : Boundary s) (b : Decimal.Binary64) : Spares s (scanUnit b) := by
  intro u
  cases u with
  | cons c u =>
    have ends := hs.numberEnds u
    have ends' := hs.numberEnds (c :: u)
    simp only [List.cons_append] at ends' ⊢
    simp only [Source.scanUnit, ends, ends']
    split <;> split <;> rfl
  | nil =>
    have ends := hs.numberEnds []
    have unit := hs.any_unit []
    cases s with
    | nil => rfl
    | cons c s =>
      simp_all [Source.scanUnit, Source.numberEnds]

theorem scanNoExponent_some {ds : List Char} {places : Nat} {v : Literal} {cs : List Char} : scanNoExponent ds places (some v) cs =
    if cs.head?.any fun c => c == 'j' || c == 'J' then scanUnit (realOf ds places 0) cs
    else if numberEnds cs then some (v, cs) else none := by
  cases cs <;> rfl

theorem Boundary.scanNoExponent (hs : Boundary s) (ds : List Char) (places : Nat) (whole : Option Literal) :
    Spares s (scanNoExponent ds places whole) := by
  intro u
  cases whole with
  | none => exact hs.scanUnit _ u
  | some v =>
    rw [scanNoExponent_some, scanNoExponent_some, hs.any_unit, hs.numberEnds, hs.scanUnit _ u]
    split
    · rfl
    split <;> rfl

/-- What stands behind the sign of an exponent. -/
def unsigned (cs : List Char) : List Char := if cs.head?.any isSign then cs.tail else cs

theorem scanExponent_cons {ds : List Char} {places : Nat} {whole : Option Literal} {c : Char} {cs : List Char}
    (e : (c == 'e' || c == 'E') = true) : scanExponent ds places whole (c :: cs) =
    if (unsigned cs).head?.any isDigit then (scanDigits isDigit false (unsigned cs)).bind fun p =>
      scanUnit (realOf ds places (if cs.head? == some '-' then -(digitsValue 10 p.1 : Int) else (digitsValue 10 p.1 : Int))) p.2
    else if cs.head?.any isSign || !numberEnds (c :: cs) then none
    else some (whole.getD (.real (realOf ds places 0)), c :: cs) := by
  have body : (if (cs.head?.any fun d => d == '+' || d == '-') = true then cs.tail else cs) = unsigned cs := rfl
  refine (if_pos e).trans ?_
  dsimp only
  rw [body]
  cases scanDigits isDigit false (unsigned cs) <;> rfl

theorem Boundary.scanExponent (hs : Boundary s) (ds : List Char) (places : Nat) (whole : Option Literal) :
    Spares s (scanExponent ds places whole) := by
  intro u
  cases u with
  | nil =>
    have plain := hs.scanNoExponent ds places whole []
    have exponent := hs.any_head (p := fun c => c == 'e' || c == 'E') (fun c hc => by
      rcases Bool.or_eq_true_iff.1 hc with h | h <;> (rw [eq_of_beq h]; rfl)) []
    cases s with
    | nil => simp
    | cons c s => simpa [Source.scanExponent, show ¬ (c = 'e' ∨ c = 'E') by simpa using exponent] using plain
  | cons c u =>
    cases e : c == 'e' || c == 'E' with
    | false =>
      simpa [Source.scanExponent, show ¬ (c = 'e' ∨ c = 'E') by simpa using e] using hs.scanNoExponent ds places whole (c :: u)
    | true =>
      have ends := hs.numberEnds (c :: u)
      rw [List.cons_append] at ends ⊢
      rw [scanExponent_cons e, scanExponent_cons e, ends]
      cases u with
      | nil =>
        -- a sign behind the `e` would need a digit behind it
        have notEnd : Source.numberEnds [c] = false := by
          rcases Bool.or_eq_true_iff.1 e with h | h <;> (rw [eq_of_beq h]; decide)
        have noDigit : (unsigned s).head?.any isDigit = false := by
          unfold unsigned
          split
          · next sign => exact hs.sign sign
          · exact hs.any_digit []
        have noDigit' : ¬ (unsigned ([] ++ s)).head?.any isDigit = true := Bool.eq_false_iff.1 noDigit
        rw [if_neg noDigit', notEnd, if_pos (by simp)]
        simp [unsigned]
      | cons d u =>
        have body : unsigned (d :: u ++ s) = unsigned (d :: u) ++ s := by
          cases sign : isSign d <;> simp [unsigned, sign]
        have digits := hs.scanDigits (fun _ => isNameChar_of_isDigit) false (unsigned (d :: u))
        rw [body, hs.any_digit, digits]
        split
        · cases Source.scanDigits isDigit false (unsigned (d :: u)) with
          | none => rfl
          | some p => exact hs.scanUnit _ p.2
        · cases Source.numberEnds (c :: d :: u) <;> cases sign : isSign d <;> simp [sign]

theorem Boundary.scanFraction (hs : Boundary s) (ds : List Char) : Spares s (scanFraction ds) := by
  intro u
  unfold Source.scanFraction
  rw [hs.any_digit, hs.scanDigits (fun _ => isNameChar_of_isDigit) false u, hs.scanExponent _ _ _ u]
  split
  · cases Source.scanDigits isDigit false u with
    | none => rfl
    | some p => exact hs.scanExponent _ _ _ p.2
  · rfl

theorem limit_map (ds : List Char) (o : Option (Literal × List Char)) :
    scanDecimal.limit ds (o.map fun p => (p.1, p.2 ++ s)) = (scanDecimal.limit ds o).map fun p => (p.1, p.2 ++ s) := by
  match o with
  | none => rfl
  | some (v, r) =>
    cases v with
    | int n =>
      simp only [Option.map_some, scanDecimal.limit]
      split <;> rfl
    | _ => rfl

theorem Boundary.scanDecimal (hs : Boundary s) : Spares s scanDecimal := by
  intro u
  unfold Source.scanDecimal
  rw [hs.scanDigits (fun _ => isNameChar_of_isDigit) false u]
  cases Source.scanDigits isDigit false u with
  | none => rfl
  | some p =>
    obtain ⟨ds, rest⟩ := p
    have exponent := fun whole => hs.scanExponent ds 0 whole rest
    cases rest with
    | cons c rest =>
      simp only [Option.map_some, List.cons_append] at exponent ⊢
      by_cases dot : c = '.'
      · subst dot
        exact hs.scanFraction ds rest
      · simp only [exponent, limit_map]
        split <;> rfl
    | nil =>
      simp only [List.nil_append] at exponent
      cases s with
      | nil => simp
      | cons c s =>
        have other : ∀ d, isJoining d = true → (c == d) = false := fun d hd =>
          Bool.eq_false_iff.2 fun eq => Bool.eq_false_iff.1 hs.head (eq_of_beq eq ▸ hd)
        simp only [Option.map_some, List.nil_append, exponent, limit_map]
        split
        · next eq =>
          cases eq
          cases other '.' rfl
        · next eq =>
          cases eq
          simp only [other 'e' rfl, other 'E' rfl, other 'j' rfl, other 'J' rfl, Bool.or_self, Bool.not_false, Bool.and_true]
          split <;> rfl
        · contradiction

theorem Boundary.scanBased (hs : Boundary s) {base : Nat} {ok : Char → Bool} (name : ∀ c, ok c = true → isNameChar c = true) :
    Spares s (scanBased base ok) := by
  intro u
  have strip : (if (u ++ s).head? == some '_' then (u ++ s).tail else u ++ s) = (if u.head? == some '_' then u.tail else u) ++ s := by
    cases u with
    | cons c u => cases h : some c == some '_' <;> simp_all
    | nil =>
      cases s with
      | nil => rfl
      | cons c s =>
        have other : c ≠ '_' := fun eq => Bool.eq_false_iff.1 hs.head (eq ▸ rfl)
        simp [other]
  unfold Source.scanBased
  dsimp only
  rw [strip, hs.scanDigits name true]
  cases Source.scanDigits ok true (if u.head? == some '_' then u.tail else u) with
  | none => rfl
  | some p =>
    simp only [Option.map_some, hs.any_digit, hs.numberEnds]
    split <;> rfl

theorem isNameChar_of_hexDigit {c : Char} (h : (Text.hexValue? c).isSome = true) : isNameChar c = true := by
  have lower := fun h : c ≤ 'f' => Char.le_trans h (by decide : 'f' ≤ 'z')
  have upper := fun h : c ≤ 'F' => Char.le_trans h (by decide : 'F' ≤ 'Z')
  unfold Text.hexValue? at h
  unfold isNameChar isDigit
  grind

theorem isNameChar_of_octalDigit {c : Char} (h : (Text.octalValue? c).isSome = true) : isNameChar c = true := by
  have digit := fun h : c ≤ '7' => Char.le_trans h (by decide : '7' ≤ '9')
  unfold Text.octalValue? at h
  unfold isNameChar isDigit
  grind

theorem isNameChar_of_binaryDigit {c : Char} (h : (c == '0' || c == '1') = true) : isNameChar c = true := by
  rcases Bool.or_eq_true_iff.1 h with h | h <;> (rw [eq_of_beq h]; rfl)

/-- The letters behind a zero that say in which base a number is written. -/
def isBase (c : Char) : Bool := c == 'x' || c == 'X' || c == 'o' || c == 'O' || c == 'b' || c == 'B'

theorem isJoining_of_isBase (c : Char) (h : isBase c = true) : isJoining c = true := by
  simp only [isBase, Bool.or_eq_true, beq_iff_eq] at h
  rcases h with ((((rfl | rfl) | rfl) | rfl) | rfl) | rfl <;> rfl

theorem scanNumber_based {c : Char} (h : isBase c = true) : ∃ base ok, (∀ c, ok c = true → isNameChar c = true) ∧
    ∀ cs, scanNumber ('0' :: c :: cs) = scanBased base ok cs := by
  simp only [isBase, Bool.or_eq_true, beq_iff_eq] at h
  rcases h with ((((rfl | rfl) | rfl) | rfl) | rfl) | rfl
  · exact ⟨16, _, fun _ => isNameChar_of_hexDigit, fun _ => rfl⟩
  · exact ⟨16, _, fun _ => isNameChar_of_hexDigit, fun _ => rfl⟩
  · exact ⟨8, _, fun _ => isNameChar_of_octalDigit, fun _ => rfl⟩
  · exact ⟨8, _, fun _ => isNameChar_of_octalDigit, fun _ => rfl⟩
  · exact ⟨2, _, fun _ => isNameChar_of_binaryDigit, fun _ => rfl⟩
  · exact ⟨2, _, fun _ => isNameChar_of_binaryDigit, fun _ => rfl⟩

theorem scanNumber_decimal {cs : List Char} (noDot : cs.head?.any (· == '.') = false)
    (noBase : cs.head?.any (· == '0') = true → cs.tail.head?.any isBase = false) : scanNumber cs = scanDecimal cs := by
  unfold scanNumber
  split
  · cases noDot
  · next c rest =>
    have other : isBase c = false := by simpa using noBase rfl
    simp only [isBase, Bool.or_eq_false_iff] at other
    simp [other]
  · rfl

theorem cons_of_head {d : Char} {u : List Char} (h : u.head?.any (· == d) = true) : ∃ v, u = d :: v := by
  cases u with
  | nil => cases h
  | cons c v => exact ⟨v, by rw [eq_of_beq (show (c == d) = true from h)]⟩

theorem Boundary.scanNumber (hs : Boundary s) : Spares s scanNumber := by
  intro u
  have joining : ∀ d, isJoining d = true → ∀ c, (c == d) = true → isJoining c = true := fun d hd c hc => eq_of_beq hc ▸ hd
  by_cases dot : u.head?.any (· == '.') = true
  · obtain ⟨u, rfl⟩ := cons_of_head dot
    exact hs.scanFraction [] u
  by_cases based : u.head?.any (· == '0') = true ∧ u.tail.head?.any isBase = true
  · obtain ⟨u, rfl⟩ := cons_of_head based.1
    cases u with
    | nil => cases based.2
    | cons c u =>
      obtain ⟨base, ok, name, eq⟩ := scanNumber_based (c := c) based.2
      rw [List.cons_append, List.cons_append, eq, eq]
      exact hs.scanBased name u
  · have noDot := Bool.eq_false_iff.2 dot
    have noBase : u.head?.any (· == '0') = true → u.tail.head?.any isBase = false := fun zero =>
      Bool.eq_false_iff.2 fun letter => based ⟨zero, letter⟩
    rw [scanNumber_decimal noDot noBase, scanNumber_decimal ((hs.any_head (joining '.' rfl) u).trans noDot)]
    · exact hs.scanDecimal u
    · rw [hs.any_head (joining '0' rfl) u]
      intro zero
      cases u with
      | nil => cases zero
      | cons c u => exact (hs.any_head isJoining_of_isBase u).trans (noBase zero)

end Numbers

section Suffix

variable {cs r : List Char} {v : Literal}

theorem scanDigits_suffix {ok : Char → Bool} {due : Bool} {ds : List Char} (h : scanDigits ok due cs = some (ds, r)) : r <:+ cs := by
  fun_induction scanDigits ok due cs generalizing ds <;> grind [List.suffix_cons_iff, Option.map_eq_some_iff]

theorem scanUnit_suffix {b : Decimal.Binary64} (h : scanUnit b cs = some (v, r)) : r <:+ cs := by
  unfold scanUnit at h
  grind [List.suffix_cons_iff, List.suffix_refl]

theorem scanNoExponent_suffix {ds : List Char} {places : Nat} {whole : Option Literal}
    (h : scanNoExponent ds places whole cs = some (v, r)) : r <:+ cs := by
  unfold scanNoExponent at h
  grind [→ scanUnit_suffix, List.suffix_refl]

theorem scanExponent_suffix {ds : List Char} {places : Nat} {whole : Option Literal}
    (h : scanExponent ds places whole cs = some (v, r)) : r <:+ cs := by
  cases cs with
  | nil => exact scanNoExponent_suffix h
  | cons c cs =>
    cases e : c == 'e' || c == 'E' with
    | false => exact scanNoExponent_suffix ((if_neg (Bool.eq_false_iff.1 e)).symm.trans h)
    | true =>
      have body : unsigned cs <:+ cs := by
        unfold unsigned
        grind [List.tail_suffix]
      rw [scanExponent_cons e] at h
      split at h
      · obtain ⟨p, digits, unit⟩ := Option.bind_eq_some_iff.1 h
        have inner := (scanUnit_suffix unit).trans (scanDigits_suffix digits)
        exact inner.trans (body.trans (List.suffix_cons c cs))
      · grind

theorem scanFraction_suffix {ds : List Char} (h : scanFraction ds cs = some (v, r)) : r <:+ cs := by
  unfold scanFraction at h
  grind [→ scanExponent_suffix, → scanDigits_suffix, List.IsSuffix.trans]

theorem scanBased_suffix {base : Nat} {ok : Char → Bool} (h : scanBased base ok cs = some (v, r)) : r <:+ cs := by
  unfold scanBased at h
  grind [→ scanDigits_suffix, List.tail_suffix, List.IsSuffix.trans]

theorem limit_eq_some {ds : List Char} {o : Option (Literal × List Char)} (h : scanDecimal.limit ds o = some (v, r)) :
    o = some (v, r) := by
  unfold scanDecimal.limit at h
  grind

theorem scanDecimal_suffix {c : Char} (digit : isDigit c = true) (h : scanDecimal (c :: cs) = some (v, r)) : r <:+ cs := by
  have first : ∀ {ds s}, scanDigits isDigit false (c :: cs) = some (ds, s) → s <:+ cs := by
    intro ds s scanned
    rw [scanDigits, if_pos digit] at scanned
    obtain ⟨p, hp, eq⟩ := Option.map_eq_some_iff.1 scanned
    cases eq
    exact scanDigits_suffix hp
  unfold scanDecimal at h
  split at h
  · cases h
  next ds rest scanned =>
  have rest_suffix := first scanned
  dsimp only at h
  split at h
  · exact (scanFraction_suffix h).trans ((List.suffix_cons _ _).trans rest_suffix)
  · split at h
    · cases h
    · exact (scanExponent_suffix (limit_eq_some h)).trans rest_suffix
  · split at h
    · cases h
    · exact (scanExponent_suffix (limit_eq_some h)).trans rest_suffix

/-- A number takes its first character and more. -/
theorem scanNumber_suffix {c : Char} (first : (isDigit c || c == '.') = true) (h : scanNumber (c :: cs) = some (v, r)) : r <:+ cs := by
  unfold scanNumber at h
  grind [→ scanFraction_suffix, → scanBased_suffix, → scanDecimal_suffix, List.IsSuffix.trans, List.suffix_cons_iff]

end Suffix
/-! ### Strings and words -/

/-- A scanner takes `x`, which ends with a character that may join others, whatever stands behind the first character of the rest. -/
structure Cuts {α : Type} (f : List Char → Option (α × List Char)) (x : List Char) (v : α) (r : List Char) : Prop where
  last : x.getLast?.any isJoining = true
  again : ∀ r', r'.head? = r.head? → f (x ++ r') = some (v, r')

section Strings

variable {q : Char} {cs b r : List Char}

theorem scanShort_cuts (h : scanShort q cs = some (b, r)) :
    ∃ x, cs = x ++ r ∧ x.getLast? = some q ∧ ∀ r', scanShort q (x ++ r') = some (b, r') := by
  fun_induction scanShort q cs generalizing b r with
  | case1 => cases h
  | case2 c cs isQuote =>
    cases h
    obtain rfl := eq_of_beq isQuote
    exact ⟨[c], rfl, rfl, fun r' => by unfold scanShort; exact if_pos isQuote⟩
  | case3 => cases h
  | case4 c noQuote noBreak backslash d ds ih =>
    obtain ⟨p, hp, eq⟩ := Option.map_eq_some_iff.1 h
    cases eq
    obtain ⟨x, rfl, last, again⟩ := ih hp
    refine ⟨c :: d :: x, rfl, ?_, fun r' => ?_⟩
    · simp [List.getLast?_cons, last]
    · rw [List.cons_append]
      unfold scanShort
      rw [if_neg noQuote, if_neg noBreak, if_pos backslash, List.cons_append]
      exact congrArg (Option.map _) (again r')
  | case5 => cases h
  | case6 c cs noQuote noBreak other ih =>
    obtain ⟨p, hp, eq⟩ := Option.map_eq_some_iff.1 h
    cases eq
    obtain ⟨x, rfl, last, again⟩ := ih hp
    refine ⟨c :: x, rfl, ?_, fun r' => ?_⟩
    · simp [List.getLast?_cons, last]
    · rw [List.cons_append]
      unfold scanShort
      rw [if_neg noQuote, if_neg noBreak, if_neg other, again]
      rfl

theorem quotes_isPrefixOf_append {x : List Char} (two : 2 ≤ x.length) (s : List Char) :
    [q, q].isPrefixOf (x ++ s) = [q, q].isPrefixOf x := by
  match x, two with
  | c :: d :: x, _ => simp [List.isPrefixOf]

theorem quotes_isPrefixOf_cons (c : Char) (s : List Char) : [q, q].isPrefixOf (c :: s) = (q == c && s.head?.any (q == ·)) := by
  cases s <;> simp [List.isPrefixOf]

theorem scanLong_cuts (h : scanLong q cs = some (b, r)) :
    ∃ x, cs = x ++ r ∧ x.getLast? = some q ∧ 3 ≤ x.length ∧ ∀ r', scanLong q (x ++ r') = some (b, r') := by
  fun_induction scanLong q cs generalizing b r with
  | case1 => cases h
  | case2 c cs closes =>
    cases h
    simp only [Bool.and_eq_true, beq_iff_eq] at closes
    obtain ⟨rfl, closes⟩ := closes
    obtain ⟨s, rfl⟩ := List.isPrefixOf_iff_prefix.1 closes
    exact ⟨[c, c, c], rfl, rfl, Nat.le_refl _, fun r' => by simp [scanLong, List.isPrefixOf]⟩
  | case3 c backslash d ds open_ ih =>
    obtain ⟨p, hp, eq⟩ := Option.map_eq_some_iff.1 h
    cases eq
    obtain ⟨x, rfl, last, long, again⟩ := ih hp
    refine ⟨c :: d :: x, rfl, by simp [List.getLast?_cons, last], by simp; omega, fun r' => ?_⟩
    have same : ∀ s, [q, q].isPrefixOf (d :: (x ++ s)) = [q, q].isPrefixOf (d :: x) :=
      fun s => quotes_isPrefixOf_append (x := d :: x) (by simp; omega) s
    rw [same] at open_
    rw [List.cons_append, List.cons_append]
    unfold scanLong
    rw [same, if_neg open_, if_pos backslash]
    exact congrArg (Option.map _) (again r')
  | case4 => cases h
  | case5 c cs open_ other ih =>
    obtain ⟨p, hp, eq⟩ := Option.map_eq_some_iff.1 h
    cases eq
    obtain ⟨x, rfl, last, long, again⟩ := ih hp
    refine ⟨c :: x, rfl, by simp [List.getLast?_cons, last], by simp; omega, fun r' => ?_⟩
    rw [quotes_isPrefixOf_append (by omega)] at open_
    rw [List.cons_append]
    unfold scanLong
    rw [quotes_isPrefixOf_append (by omega), if_neg open_, if_neg other, again]
    rfl

theorem scanString_cuts {letters : List Char} {s : StringToken} (joining : isJoining q = true)
    (h : scanString letters (q :: cs) = some (s, r)) : ∃ x, cs = x ++ r ∧ Cuts (scanString letters) (q :: x) s r := by
  obtain ⟨⟨body, rest⟩, scanned, eq⟩ := Option.map_eq_some_iff.1 h
  obtain ⟨rfl, rfl⟩ := Prod.mk.inj eq
  split at scanned
  · next long =>
    obtain ⟨s, rfl⟩ := List.isPrefixOf_iff_prefix.1 long
    obtain ⟨x, rfl, last, -, again⟩ := scanLong_cuts (show scanLong q s = _ from scanned)
    refine ⟨q :: q :: x, rfl, by simp [List.getLast?_cons, last, joining], fun r' _ => ?_⟩
    simp [scanString, List.isPrefixOf, again]
  · next short =>
    obtain ⟨x, rfl, last, again⟩ := scanShort_cuts scanned
    refine ⟨x, rfl, by simp [List.getLast?_cons, last, joining], fun r' head => ?_⟩
    have same : [q, q].isPrefixOf (x ++ r') = [q, q].isPrefixOf (x ++ rest) := by
      match x with
      | [] => cases last
      | [c] => simp only [List.singleton_append, quotes_isPrefixOf_cons, head]
      | c :: d :: x => simp [List.isPrefixOf]
    simp [scanString, same, short, again]

end Strings

/-- Whether a character opens and closes strings. -/
def isQuote (c : Char) : Bool := c == '\'' || c == '"'

theorem isJoining_of_isQuote {c : Char} (h : isQuote c = true) : isJoining c = true := by
  rcases Bool.or_eq_true_iff.1 h with h | h <;> (rw [eq_of_beq h]; rfl)

section Words

variable {cs r : List Char} {k : TokenKind}

theorem any_head_dropWhile {p : Char → Bool} : (r.dropWhile p).head?.any p = false := by
  cases hd : r.dropWhile p with
  | nil => rfl
  | cons c s => simpa [hd] using List.head_dropWhile_not p (l := r) (by simp [hd])

theorem span_append {p : Char → Bool} {w s : List Char} (all : ∀ c ∈ w, p c = true) (ends : s.head?.any p = false) :
    (w ++ s).span p = (w, s) := by
  rw [List.span_eq_takeWhile_dropWhile, List.takeWhile_append_of_pos all, List.dropWhile_append_of_pos all]
  cases s with
  | nil => simp
  | cons c s => simp [show p c = false from ends]

/-- A text as what satisfies a condition from its start on, and the rest. -/
theorem exists_span (p : Char → Bool) (cs : List Char) :
    ∃ w s, cs = w ++ s ∧ (∀ c ∈ w, p c = true) ∧ s.head?.any p = false :=
  ⟨_, _, List.takeWhile_append_dropWhile.symm, fun c hc => List.all_eq_true.1 List.all_takeWhile c hc, any_head_dropWhile⟩

theorem scanWord_cuts (h : scanWord cs = some (k, r)) (first : cs.head?.any isNameChar = true) :
    ∃ x, cs = x ++ r ∧ Cuts scanWord x k r := by
  obtain ⟨w, s, rfl, name, ends⟩ := exists_span isNameChar cs
  have last : w.getLast?.any isJoining = true := by
    cases hw : w.getLast? with
    | none =>
      rw [List.getLast?_eq_none_iff.1 hw] at first
      exact absurd (first.symm.trans ends) nofun
    | some c => exact isJoining_of_isNameChar (name c (List.mem_of_getLast? hw))
  have scan : ∀ s', s'.head?.any isNameChar = false → scanWord (w ++ s') =
      if stringPrefixes.contains (w.map Char.toLower) && s'.head?.any isQuote then
        (scanString w s').map fun p => (.string p.1, p.2)
      else if w.any (128 ≤ ·.toNat) && !Text.isIdentifier (Text.ofChars w) then none
      else some ((Reserved.ofChars? w).elim (.name w) .word, s') := by
    intro s' ends'
    unfold scanWord
    rw [span_append name ends']
    dsimp only
    cases Reserved.ofChars? w <;> rfl
  rw [scan s ends] at h
  split at h
  · next isString =>
    obtain ⟨⟨token, rest⟩, scanned, eq⟩ := Option.map_eq_some_iff.1 h
    cases eq
    cases s with
    | nil => cases scanned
    | cons q s =>
      have quote : isQuote q = true := (Bool.and_eq_true_iff.1 isString).2
      obtain ⟨x, rfl, cuts⟩ := scanString_cuts (isJoining_of_isQuote quote) scanned
      refine ⟨w ++ q :: x, by simp, ?_, fun r' head => ?_⟩
      · simpa [List.getLast?_append, List.getLast?_cons] using cuts.last
      rw [List.append_assoc, scan (q :: x ++ r') ends, cuts.again r' head]
      exact if_pos isString
  · next noString =>
    split at h
    · cases h
    · next valid =>
      cases h
      refine ⟨w, rfl, last, fun r' head => ?_⟩
      rw [scan r' (by rw [head]; exact ends), head, if_neg noString, if_neg valid]

end Words

/-! ### Punctuation -/

namespace Punct

/-- Punctuation of three characters starts and ends with one of two, dots apart. -/
theorem ofTwo?_of_ofThree? {a b c : Char} {p : Punct} (h : ofThree? a b c = some p) :
    (ofTwo? a b).isSome = true ∧ (ofTwo? b c).isSome = true ∨ a = '.' ∧ b = '.' := by
  unfold ofThree? at h
  split at h
  · exact .inl ⟨rfl, rfl⟩
  · exact .inr ⟨rfl, rfl⟩
  · exact .inl ⟨rfl, rfl⟩
  · exact .inl ⟨rfl, rfl⟩
  · exact .inl ⟨rfl, rfl⟩
  · cases h

end Punct

/-- Punctuation that a text starts with, and no longer one. -/
inductive Marks : List Char → Punct → List Char → Prop where
  | three {a b c : Char} {p : Punct} {r : List Char} (h : Punct.ofThree? a b c = some p) : Marks (a :: b :: c :: r) p r
  | two {a b : Char} {p : Punct} {r : List Char} (h : Punct.ofTwo? a b = some p)
      (ends : ∀ c, r.head? = some c → Punct.ofThree? a b c = none) : Marks (a :: b :: r) p r
  | one {a : Char} {p : Punct} {r : List Char} (h : Punct.ofOne? a = some p)
      (ends : ∀ b, r.head? = some b → Punct.ofTwo? a b = none ∧ ∀ c, r.tail.head? = some c → Punct.ofThree? a b c = none) :
      Marks (a :: r) p r

theorem scanPunct_iff {cs r : List Char} {p : Punct} : scanPunct cs = some (p, r) ↔ Marks cs p r := by
  constructor
  · intro h
    have one : ∀ {a s}, (Punct.ofOne? a).map (·, s) = some (p, r) → Punct.ofOne? a = some p ∧ s = r := by
      intro a s h
      obtain ⟨q, hq, eq⟩ := Option.map_eq_some_iff.1 h
      cases eq
      exact ⟨hq, rfl⟩
    match cs with
    | [] => cases h
    | [a] =>
      obtain ⟨ha, rfl⟩ := one h
      exact .one ha nofun
    | [a, b] =>
      simp only [scanPunct] at h
      split at h
      · next q hq =>
        cases h
        exact .two hq nofun
      · next none =>
        obtain ⟨ha, rfl⟩ := one h
        refine .one ha fun b' hb => ?_
        cases hb
        exact ⟨none, nofun⟩
    | a :: b :: c :: s =>
      simp only [scanPunct] at h
      split at h
      · next q hq =>
        cases h
        exact .three hq
      · next q noThree hq =>
        cases h
        refine .two hq fun c' hc => ?_
        cases hc
        exact noThree
      · next noThree none =>
        obtain ⟨ha, rfl⟩ := one h
        refine .one ha fun b' hb => ?_
        cases hb
        refine ⟨none, fun c' hc => ?_⟩
        cases hc
        exact noThree
  · intro h
    cases h with
    | three h => simp [scanPunct, h]
    | @two a b p r h ends =>
      cases r with
      | nil => simp [scanPunct, h]
      | cons c r => simp [scanPunct, h, ends c rfl]
    | @one a p r h ends =>
      match r with
      | [] => simp [scanPunct, h]
      | [b] => simp [scanPunct, h, (ends b rfl).1]
      | b :: c :: r => simp [scanPunct, h, (ends b rfl).1, (ends b rfl).2 c rfl]

/-! ### Tokens -/

/-- Whether a character ends what stands in front of it, and does not start anything that goes on in a text behind it. -/
structure Breaks (d : Char) (w : List Char) : Prop where
  joining : isJoining d = false
  number : isSign d = true → w.head?.any isDigit = false
  punct : ∀ b, w.head? = some b → Punct.ofTwo? d b = none

/-- Texts that do not run together: what stands in front ends with a character that breaks it off. -/
def Apart (y w : List Char) : Prop := ∀ d, y.getLast? = some d → Breaks d w

section Tokens

variable {cs r y y' w z : List Char} {k : TokenKind} {d : Char}

theorem Breaks.boundary (h : Breaks d w) : Boundary (d :: w) := ⟨h.joining, h.number⟩

theorem Breaks.ofThree? (h : Breaks d w) {b c : Char} (hb : w.head? = some b) : Punct.ofThree? d b c = none := by
  cases three : Punct.ofThree? d b c with
  | none => rfl
  | some p =>
    rcases Punct.ofTwo?_of_ofThree? three with ⟨two, -⟩ | ⟨rfl, -⟩
    · rw [h.punct b hb] at two
      cases two
    · cases h.joining

/-- What a scanner takes that ends with a character that may join others does not reach a break. -/
theorem Cuts.swap {α : Type} {f : List Char → Option (α × List Char)} {x : List Char} {v : α} (h : Cuts f x v (y' ++ w))
    (apart : Apart (x ++ y') w) : f (x ++ (y' ++ z)) = some (v, y' ++ z) := by
  refine h.again _ ?_
  cases y' with
  | cons c y' => rfl
  | nil =>
    rw [List.append_nil] at apart
    have joining := h.last
    cases last : x.getLast? with
    | none =>
      rw [last] at joining
      cases joining
    | some d =>
      rw [last] at joining
      cases (apart d last).joining.symm.trans joining

theorem scanToken_cons {c : Char} : scanToken (c :: cs) =
    if isDigit c || (c == '.' && cs.head?.any isDigit) then (scanNumber (c :: cs)).map fun p => (.number p.1, p.2)
    else if isNameChar c then scanWord (c :: cs)
    else if isQuote c then (scanString [] (c :: cs)).map fun p => (.string p.1, p.2)
    else (scanPunct (c :: cs)).map fun p => (.punct p.1, p.2) := rfl

theorem exists_of_map {α : Type} {o : Option (α × List Char)} {g : α → TokenKind}
    (h : (o.map fun p => (g p.1, p.2)) = some (k, r)) : ∃ v, o = some (v, r) ∧ k = g v := by
  obtain ⟨p, rfl, eq⟩ := Option.map_eq_some_iff.1 h
  cases eq
  exact ⟨p.1, rfl, rfl⟩

/-- A token takes characters from the front. -/
theorem scanToken_suffix (h : scanToken cs = some (k, r)) : ∃ x, cs = x ++ r ∧ x ≠ [] := by
  cases cs with
  | nil => cases h
  | cons c cs =>
    rw [scanToken_cons] at h
    split at h
    · next number =>
      obtain ⟨v, scanned, -⟩ := exists_of_map h
      obtain ⟨x, rfl⟩ := scanNumber_suffix (by grind) scanned
      exact ⟨c :: x, rfl, List.cons_ne_nil _ _⟩
    split at h
    · next name =>
      obtain ⟨x, eq, cuts⟩ := scanWord_cuts h name
      refine ⟨x, eq, ?_⟩
      rintro rfl
      cases cuts.last
    split at h
    · next quote =>
      obtain ⟨s, scanned, -⟩ := exists_of_map h
      obtain ⟨x, rfl, -⟩ := scanString_cuts (isJoining_of_isQuote quote) scanned
      exact ⟨c :: x, rfl, List.cons_ne_nil _ _⟩
    · obtain ⟨p, scanned, -⟩ := exists_of_map h
      cases scanPunct_iff.1 scanned with
      | three => exact ⟨[_, _, _], rfl, nofun⟩
      | two => exact ⟨[_, _], rfl, nofun⟩
      | one => exact ⟨[_], rfl, nofun⟩

/-- A closing parenthesis is one character. -/
theorem scanToken_rightParen (h : scanToken cs = some (.punct .rightParen, r)) : cs = ')' :: r := by
  cases cs with
  | nil => cases h
  | cons c cs =>
    rw [scanToken_cons] at h
    split at h
    · obtain ⟨v, -, eq⟩ := exists_of_map h
      cases eq
    split at h
    · simp only [scanWord] at h
      split at h
      · obtain ⟨v, -, eq⟩ := exists_of_map h
        cases eq
      split at h
      · cases h
      · split at h <;> cases h
    split at h
    · obtain ⟨v, -, eq⟩ := exists_of_map h
      cases eq
    · obtain ⟨v, scanned, eq⟩ := exists_of_map h
      cases eq
      cases scanPunct_iff.1 scanned with
      | three mark => unfold Punct.ofThree? at mark; split at mark <;> cases mark
      | two mark => unfold Punct.ofTwo? at mark; split at mark <;> cases mark
      | one mark => unfold Punct.ofOne? at mark; split at mark <;> first | rfl | cases mark

theorem breaks_lineFeed (w : List Char) : Breaks '\n' w :=
  ⟨by decide +kernel, fun sign => absurd sign (by decide), fun b _ => by simp [Punct.ofTwo?]⟩

end Tokens

end CallLint.Source

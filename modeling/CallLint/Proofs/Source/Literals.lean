import CallLint.Fix.Apply
import CallLint.Proofs.Source.LexerSteps
import CallLint.Proofs.Source.Reading
import CallLint.Proofs.Text.Offsets

/-!
# Literals are read back

The literal that is written for a text stands on one line, is a single token, and reads as the text again (`definition_reads_back`).
What is written for a code point has one of three forms (`Piece`): the character itself, a backslash and a letter, or a backslash with a
fixed number of hexadecimal digits. All that is said of literals is said of these forms first.
-/

namespace CallLint.Text

open Source (isQuote scanShort)

/-! ### Digits -/

/-- The number that hexadecimal digits make behind those that count `value`. -/
def hexNumber? (value : Nat) (ds : List Char) : Option Nat := ds.foldlM (fun n c => (hexValue? c).map (n * 16 + ·)) value

theorem hexValue?_digitChar {d : Nat} (h : d < 16) : hexValue? d.digitChar = some d := by
  have all : ∀ d < 16, hexValue? (Nat.digitChar d) = some d := by decide
  exact all d h

theorem hexNumber?_toDigits (n : Nat) : hexNumber? 0 (Nat.toDigits 16 n) = some n := by
  induction n using Nat.strongRecOn with
  | ind n ih =>
    rw [Nat.toDigits_eq_if (by decide)]
    split
    · next small => simp [hexNumber?, hexValue?_digitChar small]
    · next large =>
      have front := ih (n / 16) (by omega)
      have last := hexValue?_digitChar (Nat.mod_lt n (show 16 > 0 by decide))
      unfold hexNumber? at front ⊢
      rw [List.foldlM_append, front]
      simp only [Option.bind_eq_bind, Option.bind_some, List.foldlM_cons, last, Option.map_some, List.foldlM_nil, Option.pure_def,
        Option.some.injEq]
      omega

theorem hexNumber?_zeros (k : Nat) (ds : List Char) : hexNumber? 0 (List.replicate k '0' ++ ds) = hexNumber? 0 ds := by
  induction k with
  | zero => rfl
  | succ k ih =>
    rw [List.replicate_succ, List.cons_append, hexNumber?, List.foldlM_cons]
    exact ih

theorem hexNumber?_hexDigits (width n : Nat) : hexNumber? 0 (hexDigits width n) = some n :=
  (hexNumber?_zeros _ _).trans (hexNumber?_toDigits n)

theorem length_hexDigits {width n : Nat} (positive : 0 < width) (fits : n < Nat.pow 16 width) : (hexDigits width n).length = width := by
  have length : (Nat.toDigits 16 n).length ≤ width := (Nat.length_toDigits_le_iff (by decide) positive).2 fits
  simp only [hexDigits, List.length_append, List.length_replicate]
  omega

theorem hexValue?_isSome_of_mem {ds : List Char} {value n : Nat} (h : hexNumber? value ds = some n) {c : Char} (mem : c ∈ ds) :
    (hexValue? c).isSome = true := by
  induction ds generalizing value with
  | nil => cases mem
  | cons d ds ih =>
    obtain ⟨v, first, rest⟩ := Option.bind_eq_some_iff.1 h
    obtain ⟨digit, eq, -⟩ := Option.map_eq_some_iff.1 first
    rcases List.mem_cons.1 mem with rfl | later
    · simp [eq]
    · exact ih rest later

/-! ### What is written for a code point -/

theorem ofNat?_toNat (c : CodePoint) : CodePoint.ofNat? c.toNat = some c := by
  cases c with
  | scalar c =>
    have valid : c.toNat.isValidChar := c.valid
    rw [CodePoint.toNat, CodePoint.ofNat?, dif_pos valid]
    exact congrArg (some ∘ CodePoint.scalar) (Char.ext rfl)
  | surrogate k =>
    have between : ¬ (0xD800 + k.val).isValidChar ∧ 0xD800 ≤ 0xD800 + k.val ∧ 0xD800 + k.val < 0xE000 := by
      have := k.isLt
      unfold Nat.isValidChar
      omega
    rw [CodePoint.toNat, CodePoint.ofNat?, dif_neg between.1, dif_pos between.2]
    simp

theorem toNat_lt (c : CodePoint) : c.toNat < 0x110000 := by
  cases c with
  | scalar c =>
    have valid : c.toNat.isValidChar := c.valid
    unfold Nat.isValidChar at valid
    simp only [CodePoint.toNat]
    omega
  | surrogate k =>
    have := k.isLt
    simp only [CodePoint.toNat]
    omega

/-- How many hexadecimal digits follow the letter of a numeric escape. -/
inductive Width : Char → Nat → Prop where
  | two : Width 'x' 2
  | four : Width 'u' 4
  | eight : Width 'U' 8

/-- What may be written for a code point between quotes. -/
inductive Piece (quote : Char) (c : CodePoint) : List Char → Prop where
  | plain {x : Char} (eq : c = .scalar x) (notQuote : x ≠ quote) (notSlash : x ≠ '\\') (printable : isPrintable c = true) :
      Piece quote c [x]
  | letter {x y : Char} (eq : c = .scalar y) (escapes : letterEscape? x = some y) : Piece quote c ['\\', x]
  | number {x : Char} {w : Nat} {ds : List Char} (width : Width x w) (length : ds.length = w)
      (number : hexNumber? 0 ds = some c.toNat) : Piece quote c ('\\' :: x :: ds)

theorem numericEscape_piece (quote : Char) (c : CodePoint) : Piece quote c (numericEscape c.toNat) := by
  have small := toNat_lt c
  have digits (x : Char) (w : Nat) (width : Width x w) (positive : 0 < w) (fits : c.toNat < Nat.pow 16 w) :
      Piece quote c ('\\' :: x :: hexDigits w c.toNat) :=
    .number width (length_hexDigits positive fits) (hexNumber?_hexDigits w _)
  unfold numericEscape
  split
  · exact digits 'x' 2 .two (by decide) (by omega)
  split
  · exact digits 'u' 4 .four (by decide) (by omega)
  · exact digits 'U' 8 .eight (by decide) (Nat.lt_of_lt_of_le small (by decide))

theorem controlEscape_piece (quote : Char) (c : CodePoint) : Piece quote c (controlEscape c) := by
  unfold controlEscape
  split
  · exact .letter rfl rfl
  · exact .letter rfl rfl
  · exact .letter rfl rfl
  · exact numericEscape_piece quote c

theorem escape_piece {quote : Char} (isQuote : isQuote quote = true) (c : CodePoint) : Piece quote c (escape quote c) := by
  unfold escape
  cases c with
  | surrogate k => exact controlEscape_piece quote _
  | scalar x =>
    simp only
    split
    · next special =>
      have own : letterEscape? x = some x := by
        simp only [Source.isQuote, Bool.or_eq_true, beq_iff_eq] at isQuote special
        rcases special with rfl | rfl
        · rcases isQuote with rfl | rfl <;> rfl
        · rfl
      exact .letter rfl own
    · next other =>
      simp only [Bool.or_eq_true, beq_iff_eq, not_or] at other
      split
      · next printable => exact .plain rfl other.1 other.2 printable
      · exact controlEscape_piece quote _

/-! ### Pieces are read back -/

/-- Digits of a numeric escape are read one by one. The induction is on the digits that are left. -/
theorem unescapeFrom_hex {ds : List Char} {value n : Nat} {c : CodePoint} (some_digit : ds ≠ [])
    (number : hexNumber? value ds = some n) (eq : CodePoint.ofNat? n = some c) (rest : List Char) :
    unescapeFrom (.hex ds.length value) (ds ++ rest) = (unescapeFrom .plain rest).map (c :: ·) := by
  induction ds generalizing value with
  | nil => exact absurd rfl some_digit
  | cons d ds ih =>
    obtain ⟨v, first, later⟩ := Option.bind_eq_some_iff.1 number
    obtain ⟨digit, digit_eq, rfl⟩ := Option.map_eq_some_iff.1 first
    rw [List.cons_append, unescapeFrom, EscapeState.step, digit_eq]
    cases ds with
    | nil =>
      obtain rfl : value * 16 + digit = n := Option.some.inj later
      simp [eq]
    | cons e ds =>
      have rest := ih (List.cons_ne_nil e ds) later
      simpa using rest

theorem Piece.unescapeFrom {quote : Char} {c : CodePoint} {p : List Char} (h : Piece quote c p) (rest : List Char) :
    Text.unescapeFrom .plain (p ++ rest) = (Text.unescapeFrom .plain rest).map (c :: ·) := by
  cases h with
  | @plain x eq notQuote notSlash printable =>
    have other : (x == '\\') = false := by simpa using notSlash
    simp [Text.unescapeFrom, EscapeState.step, EscapeState.afterPlain, other, eq]
  | letter eq escapes =>
    simp [Text.unescapeFrom, EscapeState.step, EscapeState.afterPlain, EscapeState.afterSlash, escapes, eq, Function.comp_def]
  | @number x w ds width length number =>
    have opened : Text.unescapeFrom .plain ('\\' :: x :: ds ++ rest) = Text.unescapeFrom (.hex ds.length 0) (ds ++ rest) := by
      rw [length]
      cases width <;> simp [Text.unescapeFrom, EscapeState.step, EscapeState.afterPlain, EscapeState.afterSlash, letterEscape?, octalValue?]
    have some_digit : ds ≠ [] := by
      rintro rfl
      subst length
      cases width
    rw [opened]
    exact unescapeFrom_hex some_digit number (ofNat?_toNat c) rest

theorem isPrintable_control {c : Char} (h : c ∈ ['\n', '\r', '\x00']) : isPrintable (.scalar c) = false := by
  simp only [List.mem_cons, List.not_mem_nil, or_false] at h
  rcases h with rfl | rfl | rfl <;> rfl

/-- No piece holds a line break or a null character. -/
theorem Piece.no_control {quote : Char} {c : CodePoint} {p : List Char} (h : Piece quote c p) {d : Char}
    (control : d ∈ ['\n', '\r', '\x00']) : d ∉ p := by
  have noLetter : letterEscape? d = none ∧ hexValue? d = none ∧ d ≠ '\\' ∧ d ≠ 'x' ∧ d ≠ 'u' ∧ d ≠ 'U' := by
    simp only [List.mem_cons, List.not_mem_nil, or_false] at control
    rcases control with rfl | rfl | rfl <;> decide
  intro mem
  cases h with
  | plain eq notQuote notSlash printable =>
    obtain rfl := List.mem_singleton.1 mem
    rw [eq, isPrintable_control control] at printable
    cases printable
  | letter eq escapes =>
    simp only [List.mem_cons, List.not_mem_nil, or_false] at mem
    rcases mem with rfl | rfl
    · exact noLetter.2.2.1 rfl
    · cases noLetter.1.symm.trans escapes
  | number width length number =>
    simp only [List.mem_cons] at mem
    rcases mem with rfl | rfl | mem
    · exact noLetter.2.2.1 rfl
    · cases width <;> simp at noLetter
    · have digit := hexValue?_isSome_of_mem number mem
      rw [noLetter.2.1] at digit
      cases digit

/-- A piece does not start with the quote. -/
theorem Piece.starts {quote : Char} (isQuote : isQuote quote = true) {c : CodePoint} {p : List Char} (h : Piece quote c p) :
    ∃ d r, p = d :: r ∧ d ≠ quote := by
  have notSlash : '\\' ≠ quote := by
    rintro rfl
    cases isQuote
  cases h with
  | plain eq notQuote => exact ⟨_, [], rfl, notQuote⟩
  | letter eq escapes => exact ⟨_, _, rfl, notSlash⟩
  | number width length number => exact ⟨_, _, rfl, notSlash⟩

/-- A string goes on behind a piece. -/
theorem Piece.scanShort {quote : Char} (isQuote : isQuote quote = true) {c : CodePoint} {p : List Char} (h : Piece quote c p)
    (cs : List Char) : Source.scanShort quote (p ++ cs) = (Source.scanShort quote cs).map fun r => (p ++ r.1, r.2) := by
  have escaped (x : Char) (cs : List Char) :
      Source.scanShort quote ('\\' :: x :: cs) = (Source.scanShort quote cs).map fun r => ('\\' :: x :: r.1, r.2) := by
    have other : ('\\' == quote) = false := by
      rw [beq_eq_false_iff_ne]
      rintro rfl
      cases isQuote
    rw [Source.scanShort, other]
    rfl
  have plain {x : Char} (notQuote : x ≠ quote) (notSlash : x ≠ '\\') (notBreak : x ≠ '\n') (cs : List Char) :
      Source.scanShort quote (x :: cs) = (Source.scanShort quote cs).map fun r => (x :: r.1, r.2) := by
    rw [Source.scanShort.eq_def]
    simp [notQuote, notSlash, notBreak]
  cases h with
  | @plain x eq notQuote notSlash printable =>
    have notBreak : x ≠ '\n' := by
      rintro rfl
      rw [eq, isPrintable_control (by simp)] at printable
      cases printable
    exact plain notQuote notSlash notBreak cs
  | letter eq escapes => exact escaped _ cs
  | @number x w ds width length number =>
    have digits : ∀ d ∈ ds, d ≠ quote ∧ d ≠ '\\' ∧ d ≠ '\n' := by
      intro d mem
      have digit := hexValue?_isSome_of_mem number mem
      simp only [Source.isQuote, Bool.or_eq_true, beq_iff_eq] at isQuote
      refine ⟨?_, ?_, ?_⟩
      · rintro rfl
        rcases isQuote with rfl | rfl <;> cases digit
      · rintro rfl
        cases digit
      · rintro rfl
        cases digit
    have passed : Source.scanShort quote (ds ++ cs) = (Source.scanShort quote cs).map fun r => (ds ++ r.1, r.2) := by
      clear number length
      induction ds with
      | nil => simp
      | cons d ds ih =>
        obtain ⟨⟨notQuote, notSlash, notBreak⟩, later⟩ := List.forall_mem_cons.1 digits
        rw [List.cons_append, plain notQuote notSlash notBreak, ih later, Option.map_map]
        rfl
    rw [List.cons_append, List.cons_append, escaped, passed, Option.map_map]
    rfl

/-! ### Literals -/

theorem isQuote_quoteFor (t : Text) : isQuote (quoteFor t) = true := by
  unfold quoteFor
  split <;> rfl

theorem unescapeFrom_body {quote : Char} (isQuote : isQuote quote = true) (t : Text) :
    unescapeFrom .plain (t.flatMap (escape quote)) = some t := by
  induction t with
  | nil => rfl
  | cons c t ih => rw [List.flatMap_cons, (escape_piece isQuote c).unescapeFrom, ih, Option.map_some]

theorem scanShort_body {quote : Char} (isQuote : isQuote quote = true) (t : Text) (rest : List Char) :
    scanShort quote (t.flatMap (escape quote) ++ quote :: rest) = some (t.flatMap (escape quote), rest) := by
  induction t with
  | nil =>
    rw [List.flatMap_nil, List.nil_append, Source.scanShort.eq_def]
    simp
  | cons c t ih => rw [List.flatMap_cons, List.append_assoc, (escape_piece isQuote c).scanShort isQuote, ih, Option.map_some]

/-- The body of a literal does not start with its quote. -/
theorem head?_body {quote : Char} (isQuote : isQuote quote = true) (t : Text) : (t.flatMap (escape quote)).head? ≠ some quote := by
  cases t with
  | nil => nofun
  | cons c t =>
    obtain ⟨d, r, eq, other⟩ := (escape_piece isQuote c).starts isQuote
    rw [List.flatMap_cons, eq]
    simpa using other

theorem quoted_no_control (t : Text) {d : Char} (control : d ∈ ['\n', '\r', '\x00']) : d ∉ quoted t := by
  have notQuote : d ≠ quoteFor t := by
    have isQuote := isQuote_quoteFor t
    rintro rfl
    simp only [List.mem_cons, List.not_mem_nil, or_false] at control
    rcases control with eq | eq | eq <;> (rw [eq] at isQuote; cases isQuote)
  have notBody : d ∉ t.flatMap (escape (quoteFor t)) := by
    intro mem
    obtain ⟨c, -, mem⟩ := List.mem_flatMap.1 mem
    exact (escape_piece (isQuote_quoteFor t) c).no_control control mem
  simp [quoted, notQuote, notBody]

end CallLint.Text

namespace CallLint.Source

open Text (quoted quoteFor isQuote_quoteFor)

/-- The token of the literal of a text. -/
def quotedToken (t : Text) : StringToken := ⟨false, false, false, false, [quoteFor t], t.flatMap (Text.escape (quoteFor t))⟩

/-- A literal is one token, unless another quote follows it. -/
theorem scanToken_quoted (t : Text) {rest : List Char} (ends : rest.head?.any isQuote = false) :
    scanToken (quoted t ++ rest) = some (.string (quotedToken t), rest) := by
  have isQuote := isQuote_quoteFor t
  have short : [quoteFor t, quoteFor t].isPrefixOf (t.flatMap (Text.escape (quoteFor t)) ++ quoteFor t :: rest) = false := by
    have first := Text.head?_body isQuote t
    cases body_eq : t.flatMap (Text.escape (quoteFor t)) with
    | nil =>
      cases rest with
      | nil => simp [List.isPrefixOf]
      | cons c rest =>
        have other : quoteFor t ≠ c := by
          rintro rfl
          cases ends.symm.trans isQuote
        simp [List.isPrefixOf, other]
    | cons c body =>
      have other : quoteFor t ≠ c := by
        rintro rfl
        rw [body_eq] at first
        exact first rfl
      simp [List.isPrefixOf, other]
  have plain : isDigit (quoteFor t) = false ∧ (quoteFor t == '.') = false ∧ isNameChar (quoteFor t) = false := by
    rcases Bool.or_eq_true_iff.1 isQuote with eq | eq <;> (rw [eq_of_beq eq]; decide)
  have scanned := Text.scanShort_body isQuote t rest
  simp only [quoted, List.cons_append, List.append_assoc, List.nil_append, scanToken_cons, plain, isQuote,
    Bool.false_and, Bool.or_self, Bool.false_eq_true, if_false, if_true, scanString, short, scanned]
  rfl

/-- The token of a literal stands for the text. -/
theorem quotedToken_text? (t : Text) : (quotedToken t).text? = some t := Text.unescapeFrom_body (isQuote_quoteFor t) t

/-- A literal alone is lexed as its token. -/
theorem lex_quoted (t : Text) : ∃ s p, lex ⟨1, 0⟩ (quoted t) = some [⟨.string (quotedToken t), s⟩, ⟨.stop, p⟩] := by
  have scanned : scanToken (quoted t ++ []) = some (.string (quotedToken t), []) := scanToken_quoted t rfl
  obtain ⟨starts, code, margin⟩ : startsToken (quoteFor t) = true ∧ (quoteFor t != '\n' && quoteFor t != '#') = true ∧
      isMargin (quoteFor t) = false := by
    rcases Bool.or_eq_true_iff.1 (isQuote_quoteFor t) with eq | eq <;> (rw [eq_of_beq eq]; decide)
  have indents : Indents [] ⟨0, 0⟩ (quoted t) := fun p => readIndent_stop margin
  have marks : applyIndent ⟨0, 0⟩ [⟨0, 0⟩] = some ([], [⟨0, 0⟩]) := by decide
  have line : Step ⟨[] ++ quoted t, ⟨1, 0⟩, true, [⟨0, 0⟩], []⟩ _ _ := .firstInLine indents code marks
  have token : Step ⟨quoted t ++ [], ⟨1, 0⟩, false, [⟨0, 0⟩], []⟩ _ ⟨[], _, false, _, []⟩ := .token scanned starts rfl
  rw [List.append_nil] at token
  have enough : 2 * (quoted t).length + true.toNat < 2 * (quoted t).length + 3 := by
    rw [Bool.toNat_true]
    omega
  exact ⟨_, _, (Steps.step line (.step token (.refl _))).lexFrom ⟨rfl, rfl, rfl⟩ enough⟩

section Rules

open Grammar Parse

/-- A reader that takes a string in front of the end and gives an expression for it. -/
def ReadsAlone (k : StringToken) (s p : Span) (e : Expr) (r : Parse Expr) : Prop :=
  ∀ last, r ⟨[⟨.string k, s⟩, ⟨.stop, p⟩], last⟩ = some (e, ⟨[⟨.stop, p⟩], s.stop⟩)

theorem strings_quoted (self : Grammar.Rule → Parse Expr) (t : Text) (s p : Span) :
    ReadsAlone (quotedToken t) s p (.constant s (.text t) false) (strings self) := by
  intro last
  have joined : stringsExpr (fieldExpr self) s [(quotedToken t, s)] = some (.constant s (.text t) false) := by
    have flags : (quotedToken t).isBytes = false ∧ (quotedToken t).isFormat = false ∧ (quotedToken t).isUnicode = false :=
      ⟨rfl, rfl, rfl⟩
    simp [stringsExpr, flags, joinToken, quotedToken_text?, Joining.addText, Joining.empty]
  rw [strings, here_bind_run, bind_eq_some]
  refine ⟨[(quotedToken t, s)], ⟨[⟨.stop, p⟩], s.stop⟩, rfl, ?_⟩
  have whole : (⟨Input.start ⟨[⟨.string (quotedToken t), s⟩, ⟨.stop, p⟩], last⟩, s.stop⟩ : Span) = s := rfl
  rw [since_bind_run, whole, joined]
  rfl

section Levels

variable {k : StringToken} {s p : Span} {e : Expr} {operand : Parse Expr} {self : Grammar.Rule → Parse Expr}

theorem ReadsAlone.leftAssoc {op? : TokenKind → Option BinOp} (stops : op? .stop = none) (h : ReadsAlone k s p e operand) :
    ReadsAlone k s p e (Grammar.leftAssoc op? operand) := by
  intro last
  rw [Grammar.leftAssoc, here_bind_run, bind_eq_some]
  refine ⟨_, _, h last, ?_⟩
  rw [iterate, iterateFor, bind_eq_some]
  refine ⟨none, _, ?_, rfl⟩
  rw [peek_bind_run]
  simp only [Input.kind, List.head?_cons, Option.map_some, Option.getD_some, stops]
  rfl

theorem ReadsAlone.connected (w : Reserved) (op : BoolOp) (h : ReadsAlone k s p e operand) :
    ReadsAlone k s p e (Grammar.connected w op operand) := by
  intro last
  rw [Grammar.connected, here_bind_run, bind_eq_some]
  exact ⟨_, _, h last, rfl⟩

/-- No operator follows a string that stands alone. -/
theorem ReadsAlone.bitwiseOr (h : ReadsAlone k s p e (strings self)) : ReadsAlone k s p e (Grammar.bitwiseOr self) := by
  have members : ReadsAlone k s p e (awaited self) := by
    intro last
    change primary self _ = _
    rw [primary, here_bind_run, bind_eq_some]
    exact ⟨_, _, h last, rfl⟩
  have operand : ReadsAlone k s p e (factor self) := by
    intro last
    change power self _ = _
    rw [power, here_bind_run, bind_eq_some]
    exact ⟨_, _, members last, rfl⟩
  have sum : ReadsAlone k s p e (Grammar.leftAssoc sumOp? (Grammar.leftAssoc termOp? (factor self))) :=
    .leftAssoc rfl (.leftAssoc rfl operand)
  exact .leftAssoc rfl (.leftAssoc rfl (.leftAssoc rfl (.leftAssoc rfl sum)))

/-- A string that stands alone passes through all levels of the grammar of expressions. -/
theorem ReadsAlone.expression (h : ReadsAlone k s p e (strings self)) : ReadsAlone k s p e (Grammar.expression self) := by
  have compared : ReadsAlone k s p e (inversion self) := by
    intro last
    change comparison self _ = _
    rw [comparison, here_bind_run, bind_eq_some]
    exact ⟨_, _, h.bitwiseOr last, rfl⟩
  have joined : ReadsAlone k s p e (disjunction self) := (compared.connected .kAnd .and).connected .kOr .or
  intro last
  rw [Grammar.expression, atWord_bind_run]
  change (here >>= _) _ = _
  rw [here_bind_run, bind_eq_some]
  exact ⟨_, _, joined last, rfl⟩

theorem ReadsAlone.tupleOr (h : ReadsAlone k s p e operand) : ReadsAlone k s p e (Grammar.tupleOr operand) := by
  intro last
  rw [Grammar.tupleOr, here_bind_run, bind_eq_some]
  exact ⟨_, _, h last, rfl⟩

end Levels

end Rules

/-- The literal of a text is an expression, the constant that holds the text. -/
theorem readTree_quoted (t : Text) :
    ∃ s, readTree .expression (quoted t) = .ok (Program.expression (.constant s (.text t) false)).toTree := by
  have noNul : (quoted t).contains '\x00' = false := by simpa using Text.quoted_no_control t (d := '\x00') (by simp)
  have unified : Mode.expression.prepare (quoted t) = quoted t := Text.unifyBreaks_eq_self (Text.quoted_no_control t (by simp))
  obtain ⟨s, p, lexed⟩ := lex_quoted t
  have parsed (fuel : Nat) : expressionRule (fuel + 1) ⟨[⟨.string (quotedToken t), s⟩, ⟨.stop, p⟩], ⟨1, 0⟩⟩ =
      some (.expression (.constant s (.text t) false), ⟨[], s.stop⟩) := by
    have whole : ReadsAlone _ s p _ (Grammar.exprRule (fuel + 1) .expression) := (strings_quoted (Grammar.exprRule fuel) t s p).expression
    rw [expressionRule, bind_eq_some]
    exact ⟨_, _, whole.tupleOr ⟨1, 0⟩, rfl⟩
  refine ⟨s, ?_⟩
  simp only [readTree, Program.read, noNul, unified, lexed, Mode.rule, parsed, Bool.false_eq_true, if_false]
  rfl

end CallLint.Source

namespace CallLint.Fix

open Source

/-- The line that defines a constant has the literal of its text behind the equals sign. The literal holds no line break; it is a single
token without marks in front, whatever follows it other than a quote, and the token stands for the text; and it is an expression, the
constant that holds the text. -/
theorem definition_reads_back (newline name : List Char) (t : Text) : ∃ literal,
    definition newline name t = name ++ " = ".toList ++ literal ++ newline ∧ '\n' ∉ literal ∧ '\r' ∉ literal ∧
    (∃ token : StringToken, token.isRaw = false ∧ token.isBytes = false ∧ token.isFormat = false ∧ token.isUnicode = false ∧
      token.text? = some t ∧ ∀ rest, rest.head?.any isQuote = false → scanToken (literal ++ rest) = some (.string token, rest)) ∧
    ∃ span, readTree .expression literal = .ok (Program.expression (.constant span (.text t) false)).toTree := by
  refine ⟨Text.quoted t, rfl, Text.quoted_no_control t (by simp), Text.quoted_no_control t (by simp), ?_, readTree_quoted t⟩
  exact ⟨quotedToken t, rfl, rfl, rfl, rfl, quotedToken_text? t, fun rest ends => scanToken_quoted t ends⟩

end CallLint.Fix

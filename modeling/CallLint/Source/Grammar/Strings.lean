import CallLint.Source.FormatString

/-!
# Adjacent string literals

Adjacent string literals are one expression: a constant if none of them is a format string, else a joined string whose
parts are the literal stretches and the fields. All parts carry the span of the whole, except that a format
specification and its last stretch carry that of the token they stand in.
-/

namespace CallLint.Source

/-- The text of a string literal that is no format string. -/
def StringToken.text? (s : StringToken) : Option Text :=
  if s.isRaw then some (Text.ofChars s.body) else Text.unescape s.body

/-- The bytes of a byte literal. -/
def StringToken.bytes? (s : StringToken) : Option (List UInt8) :=
  if !s.body.all (·.toNat < 128) then none
  else if s.isRaw then some (s.body.map fun c => UInt8.ofNat c.toNat)
  else Text.unescapeBytes s.body

namespace Grammar

/-- What a part of a string takes from the tokens it came from: the span, and whether they start with `u`. -/
structure Origin where
  span : Span
  unicode : Bool

/-- Parts of a joined string: those that are finished, last first, and a stretch of text behind them. -/
structure Joining where
  parts : List Expr
  pending : Text

namespace Joining

/-- No parts. -/
def empty : Joining := ⟨[], []⟩

/-- Adds text. -/
def addText (j : Joining) (t : Text) : Joining := { j with pending := j.pending ++ t }

/-- The finished parts, the pending text included. -/
def flushed (j : Joining) (o : Origin) : List Expr :=
  if j.pending.isEmpty then j.parts else .constant o.span (.text j.pending) o.unicode :: j.parts

/-- Adds an expression. -/
def addExpr (j : Joining) (o : Origin) (e : Expr) : Joining := ⟨e :: j.flushed o, []⟩

/-- The joined string. -/
def finish (j : Joining) (o : Origin) : Expr := .joined o.span (j.flushed o).reverse

end Joining

/-- A string token that starts on the first line of a field's source and ends on a later one starts at its column in
that source. -/
def unshiftToken (pos : Pos) (t : Token) : Token :=
  if t.span.start.line == pos.line && t.span.stop.line != pos.line then
    { t with span := ⟨⟨pos.line, t.span.start.column - pos.column⟩, t.span.stop⟩ }
  else t

/-- The tokens of a field's expression, in parentheses of which the first stands at `pos`. -/
def fieldTokens (source : List Char) (pos : Pos) : Option (List Token) :=
  (lex pos ('(' :: source ++ [')', '\n'])).map (·.map (unshiftToken pos))

/-- The number of a conversion. With no conversion and no specification, a repeated expression is shown quoted. -/
def conversionCode (echo : Bool) (conversion : Option Char) (spec : Bool) : Int :=
  match conversion with
  | some c => c.toNat
  | none => if echo && !spec then 'r'.toNat else -1

section Parts

variable (read : List Char → Pos → Option Expr) (whole token : Origin)

mutual

/-- Adds a part of a format string. -/
def joinPart : FormatPart → Joining → Option Joining
  | .literal t, j => some (j.addText t)
  | .field source pos echo conversion spec, j =>
    match read source pos, joinSpec spec with
    | some value, some spec =>
      let code := conversionCode echo.isSome conversion spec.isSome
      some ((j.addText (echo.getD [])).addExpr whole (.formatted whole.span value code spec))
    | _, _ => none

/-- The expression of a format specification. -/
def joinSpec : Option (List FormatPart) → Option (Option Expr)
  | none => some none
  | some parts => (joinParts parts .empty).map fun j => some (j.finish token)

/-- Adds parts of a format string. -/
def joinParts : List FormatPart → Joining → Option Joining
  | [], j => some j
  | p :: ps, j =>
    match joinPart p j with
    | none => none
    | some j => joinParts ps j

end

end Parts

/-- Adds a string literal to those before it. -/
def joinToken (read : List Char → Pos → Option Expr) (whole : Origin) (j : Joining) (s : StringToken) (span : Span) :
    Option Joining :=
  if s.isFormat then
    match s.parts span.start with
    | none => none
    | some parts => joinParts read whole ⟨span, s.isUnicode⟩ parts j
  else s.text?.map j.addText

/-- The expression of adjacent string literals; `read` reads the source of a field. Byte literals stand only beside
byte literals. -/
def stringsExpr (read : List Char → Pos → Option Expr) (span : Span) (tokens : List (StringToken × Span)) :
    Option Expr :=
  let whole : Origin := ⟨span, (tokens.head?.map (·.1.isUnicode)).getD false⟩
  if tokens.all (·.1.isBytes) then
    (tokens.mapM fun t : StringToken × Span => t.1.bytes?).map fun bss => .constant span (.bytes bss.flatten) false
  else if tokens.any (·.1.isBytes) then none
  else match tokens.foldlM (fun j t => joinToken read whole j t.1 t.2) Joining.empty with
    | none => none
    | some j =>
      if tokens.any (·.1.isFormat) then some (j.finish whole)
      else some (.constant span (.text j.pending) whole.unicode)

end Grammar

end CallLint.Source

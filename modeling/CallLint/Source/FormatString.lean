import CallLint.Source.Lexer
import CallLint.Text.Escape

/-!
# Format strings

The body of a format string is a sequence of literal parts and fields. A field holds the source of an expression, a
conversion and a format specification, which may hold fields again but no deeper ones. The expressions are not read
here, only found; each is kept with the place where its parenthesised source is to be read.
-/

namespace CallLint.Source

open CallLint

/-- A part of a format string: a literal text, or a field. A field keeps the source of its expression, the place of the
opening brace, the text that `=` asks to repeat, its conversion and its specification. -/
inductive FormatPart where
  | literal (t : Text)
  | field (source : List Char) (pos : Pos) (echo : Option Text) (conversion : Option Char)
      (spec : Option (List FormatPart))

/-- Where the scan of a literal part stands: outside escapes, behind a backslash, behind `\N`, inside a name. -/
inductive LiteralMode where
  | plain | escaped | nameOpen | named
deriving DecidableEq

/-- A literal part: its characters, whether it ended with a doubled brace, and the rest. A doubled brace stands for one
brace, and only outside specifications; there a single closing brace is refused. -/
def scanLiteralPart (raw top : Bool) : LiteralMode → List Char → Option (List Char × Bool × List Char)
  | _, [] => some ([], false, [])
  | mode, c :: cs =>
    let keep (m : LiteralMode) := (scanLiteralPart raw top m cs).map fun p => (c :: p.1, p.2)
    let brace := c == '\x7b' || c == '\x7d'
    match mode with
    | .named => keep (if c == '\x7d' then .plain else .named)
    | .nameOpen => keep (if c == '\x7b' then .named else .plain)
    | mode =>
      if mode == .escaped && c == 'N' then keep .nameOpen
      else if mode == .plain && c == '\\' && !raw then keep .escaped
      else if brace then
        if top && cs.head? == some c then some ([c], true, cs.tail)
        else if top && c == '\x7d' then none
        else some ([], false, c :: cs)
      else keep .plain

/-- The quote of a string inside an expression, and whether it is tripled. -/
abbrev OpenQuote := Option (Char × Bool)

/-- The source of the expression of a field and the rest, which starts with the character that ends it. Quotes and
brackets hide such characters; a backslash or a comment is refused. -/
def scanFieldSource (quote : OpenQuote) (stack : List Char) : List Char → Option (List Char × List Char)
  | [] => none
  | c :: cs =>
    let keep (r : Option (List Char × List Char)) := r.map fun p => (c :: p.1, p.2)
    if c == '\\' then none
    else match quote with
      | some (q, long) =>
        if c != q then keep (scanFieldSource quote stack cs)
        else if !long then keep (scanFieldSource none stack cs)
        else match cs with
          | d :: e :: rest =>
            if d == q && e == q then (scanFieldSource none stack rest).map fun p => (c :: d :: e :: p.1, p.2)
            else keep (scanFieldSource quote stack (d :: e :: rest))
          | rest => keep (scanFieldSource quote stack rest)
      | none =>
        if c == '\'' || c == '"' then
          match cs with
          | d :: e :: rest =>
            if d == c && e == c then
              (scanFieldSource (some (c, true)) stack rest).map fun p => (c :: d :: e :: p.1, p.2)
            else keep (scanFieldSource (some (c, false)) stack (d :: e :: rest))
          | rest => keep (scanFieldSource (some (c, false)) stack rest)
        else if c == '(' || c == '[' || c == '\x7b' then
          if maxBrackets ≤ stack.length then none else keep (scanFieldSource none (c :: stack) cs)
        else if c == '#' then none
        else if stack.isEmpty && (c == '!' || c == ':' || c == '\x7d' || c == '=' || c == '<' || c == '>') then
          match cs with
          | d :: rest =>
            if d == '=' && (c == '!' || c == '=' || c == '<' || c == '>') then
              (scanFieldSource none stack rest).map fun p => (c :: d :: p.1, p.2)
            else if c == '<' || c == '>' then keep (scanFieldSource none stack (d :: rest))
            else some ([], c :: d :: rest)
          | [] => if c == '<' || c == '>' then none else some ([], [c])
        else if c == ')' || c == ']' || c == '\x7d' then
          match stack with
          | [] => none
          | opening :: stack =>
            if (opening == '(' && c == ')') || (opening == '[' && c == ']') || (opening == '\x7b' && c == '\x7d') then
              keep (scanFieldSource none stack cs)
            else none
        else keep (scanFieldSource none stack cs)

/-- Blanks between tokens. -/
def isSpacing (c : Char) : Bool := c == ' ' || c == '\t' || c == '\n' || c == '\x0c'

/-- Blanks that may follow the `=` of a field. -/
def isEchoBlank (c : Char) : Bool := isSpacing c || c == '\r' || c == '\x0b'

/-- The place from which the parenthesised source of a field is read: that of the opening brace, or the start of the
line (the string, on its first line) when a line break follows the brace. -/
def fieldPos (opening brace : Pos) (source : List Char) : Pos :=
  match source.find? (fun c => !(c == ' ' || c == '\t' || c == '\x0c')) with
  | some '\n' => ⟨brace.line, if brace.line == opening.line then opening.column else 0⟩
  | _ => brace

/-- A literal part as text, whether it ended with a doubled brace, and the rest. -/
def literalPart (raw top : Bool) (cs : List Char) : Option (Text × Bool × List Char) :=
  match scanLiteralPart raw top .plain cs with
  | none => none
  | some (literal, doubled, rest) =>
    (if raw then some (Text.ofChars literal) else Text.unescape literal).map fun t => (t, doubled, rest)

/-- The text that `=` behind the source of a field asks to repeat, and what follows. -/
def echoOf (source : List Char) : List Char → Option Text × List Char
  | '=' :: tail =>
    let (blanks, tail) := tail.span isEchoBlank
    (some (Text.ofChars (source ++ '=' :: blanks)), tail)
  | tail => (none, tail)

/-- The conversion of a field, and what follows. -/
def conversionOf : List Char → Option (Option Char × List Char)
  | '!' :: c :: tail => if c == 's' || c == 'r' || c == 'a' then some (some c, tail) else none
  | '!' :: [] => none
  | tail => some (none, tail)

/-- What a field holds before its specification. -/
structure FieldHead where
  source : List Char
  echo : Option Text
  conversion : Option Char

/-- The head of the field behind an opening brace, and what follows. The source must not be blank. -/
def fieldHead (body : List Char) : Option (FieldHead × List Char) :=
  match scanFieldSource none [] body with
  | none => none
  | some (source, tail) =>
    if source.all isSpacing then none
    else (conversionOf (echoOf source tail).2).map fun p => (⟨source, (echoOf source tail).1, p.1⟩, p.2)

/-- Parts behind a literal text, which is left out if it is empty. -/
def behindLiteral (t : Text) (r : List FormatPart × List Char) : List FormatPart × List Char :=
  (if t.isEmpty then r.1 else .literal t :: r.1, r.2)

/-- The specification behind a colon, if there is one, and what follows; `inner` reads its parts. -/
def specOf (inner : List Char → Option (List FormatPart × List Char)) : List Char → Option (Option (List FormatPart) × List Char)
  | ':' :: tail => (inner tail).map fun p => (some p.1, p.2)
  | tail => some (none, tail)

/-- The parts from here on, at nesting depth `level`, and the rest: nothing at the top, else what starts with the
closing brace. `opening` is the place of the string, `pos` that of the text. -/
def formatParts (raw : Bool) (opening : Pos) : Nat → Nat → Pos → List Char → Option (List FormatPart × List Char)
  | 0, _, _, _ => none
  | fuel + 1, level, pos, cs =>
    match literalPart raw (level == 0) cs with
    | none => none
    | some (t, doubled, rest) =>
      let pos := pos.afterAll (cs.take (cs.length - rest.length))
      if doubled then (formatParts raw opening fuel level pos rest).map (behindLiteral t)
      else match rest with
        | [] => some (behindLiteral t ([], []))
        | brace :: body =>
          if brace == '\x7d' then some (behindLiteral t ([], rest))
          else if 2 ≤ level then none
          else match fieldHead body with
            | none => none
            | some (head, tail) =>
              let posOf (tail : List Char) := pos.afterAll (rest.take (rest.length - tail.length))
              match specOf (fun tail => formatParts raw opening fuel (level + 1) (posOf tail) tail) tail with
              | some (spec, '\x7d' :: tail) =>
                let field := FormatPart.field head.source (fieldPos opening pos body) head.echo head.conversion spec
                (formatParts raw opening fuel level (posOf tail) tail).map fun p => behindLiteral t (field :: p.1, p.2)
              | _ => none

/-- The parts of a format string token. -/
def StringToken.parts (s : StringToken) (start : Pos) : Option (List FormatPart) :=
  match formatParts s.isRaw start (s.body.length + 1) 0 (start.afterAll s.opening) s.body with
  | some (parts, []) => some parts
  | _ => none

end CallLint.Source

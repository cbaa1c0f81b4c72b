import CallLint.Source.Number
import CallLint.Source.Token
import CallLint.Text.Identifier
import CallLint.Text.Lines

/-!
# From characters to tokens

The lexer reads a source whose line breaks are all line feeds. At the start of a logical line it compares the
indentation with the enclosing blocks; inside brackets line breaks do not count. It fails on what is no token, on
inconsistent indentation, on brackets that do not match, and on too deep nesting.
-/

namespace CallLint.Source

/-- The most brackets that may be open. -/
def maxBrackets : Nat := 200

/-- The most blocks that may be open. -/
def maxIndents : Nat := 100

/-- The place behind `c`. -/
def Pos.after (p : Pos) (c : Char) : Pos :=
  if c == '\n' then ⟨p.line + 1, 0⟩ else ⟨p.line, p.column + c.utf8Size⟩

/-- The place behind a list of characters. -/
def Pos.afterAll (p : Pos) (cs : List Char) : Pos := cs.foldl Pos.after p

/-- The indentation of a line, with tabs to the next multiple of eight, and with tabs as one column. -/
structure Indent where
  column : Nat
  alternative : Nat
deriving DecidableEq, Repr, Inhabited

/-- What the lexer knows between tokens: the rest, its place, whether a line starts there, the indentations of the open
blocks, innermost first, and the open brackets, innermost first. -/
structure LexState where
  rest : List Char
  pos : Pos
  lineStart : Bool
  indents : List Indent
  brackets : List Char
deriving Repr, Inhabited

/-- Reads the blanks at the start of a line. A backslash at the end of a line of blanks joins the next line; the first
such line with blanks, `joined`, decides the indentation. -/
def readIndent (pos : Pos) (here : Indent) (joined : Nat) : List Char → Option (Indent × Pos × List Char)
  | [] => some (settle here joined, pos, [])
  | c :: cs =>
    if c == ' ' then readIndent (pos.after c) ⟨here.column + 1, here.alternative + 1⟩ joined cs
    else if c == '\t' then
      readIndent (pos.after c) ⟨(here.column / 8 + 1) * 8, here.alternative + 1⟩ joined cs
    else if c == '\x0c' then readIndent (pos.after c) ⟨0, 0⟩ joined cs
    else if c == '\\' then
      match cs with
      | d :: ds =>
        if d == '\n' && !ds.isEmpty then
          readIndent ((pos.after c).after d) here (if joined == 0 then here.column else joined) ds
        else none
      | [] => none
    else some (settle here joined, pos, c :: cs)
where
  /-- The indentation that counts. -/
  settle (here : Indent) (joined : Nat) : Indent := if joined == 0 then here else ⟨joined, joined⟩

/-- Closes blocks until the innermost is not deeper than `column`: how many were closed, and what is left. -/
def closeBlocks (column : Nat) : List Indent → Nat × List Indent
  | [] => (0, [])
  | [base] => (0, [base])
  | top :: below =>
    if column < top.column then ((closeBlocks column below).1 + 1, (closeBlocks column below).2)
    else (0, top :: below)

/-- The marks for a line with the given indentation, and the open blocks behind them. -/
def applyIndent (line : Indent) (indents : List Indent) : Option (List TokenKind × List Indent) :=
  let top := indents.headD ⟨0, 0⟩
  if line.column == top.column then
    if line.alternative == top.alternative then some ([], indents) else none
  else if top.column < line.column then
    if maxIndents ≤ indents.length || line.alternative ≤ top.alternative then none
    else some ([.indent], line :: indents)
  else
    let (closed, left) := closeBlocks line.column indents
    if left.head? == some line then some (List.replicate closed .dedent, left) else none

/-- The body of a string literal in single quotes, and what follows the closing quote. -/
def scanShort (quote : Char) : List Char → Option (List Char × List Char)
  | [] => none
  | c :: cs =>
    if c == quote then some ([], cs)
    else if c == '\n' then none
    else if c == '\\' then
      match cs with
      | d :: ds => (scanShort quote ds).map fun p => (c :: d :: p.1, p.2)
      | [] => none
    else (scanShort quote cs).map fun p => (c :: p.1, p.2)

/-- The body of a string literal in triple quotes, and what follows the closing quotes. -/
def scanLong (quote : Char) : List Char → Option (List Char × List Char)
  | [] => none
  | c :: cs =>
    if c == quote && [quote, quote].isPrefixOf cs then some ([], cs.drop 2)
    else if c == '\\' then
      match cs with
      | d :: ds => (scanLong quote ds).map fun p => (c :: d :: p.1, p.2)
      | [] => none
    else (scanLong quote cs).map fun p => (c :: p.1, p.2)

/-- The prefixes of string literals, in lower case. -/
def stringPrefixes : List (List Char) :=
  [[], ['b'], ['u'], ['r'], ['f'], ['b', 'r'], ['r', 'b'], ['f', 'r'], ['r', 'f']]

/-- A string literal whose prefix has been read; `rest` starts with its quote. -/
def scanString (letters rest : List Char) : Option (StringToken × List Char) :=
  match rest with
  | [] => none
  | quote :: cs =>
    let long := [quote, quote].isPrefixOf cs
    let scanned := if long then scanLong quote (cs.drop 2) else scanShort quote cs
    let lower := letters.map Char.toLower
    scanned.map fun p =>
      ({ isRaw := lower.contains 'r', isBytes := lower.contains 'b', isFormat := lower.contains 'f'
         isUnicode := letters.head? == some 'u'
         opening := letters ++ List.replicate (if long then 3 else 1) quote
         body := p.1 }, p.2)

/-- A name, a reserved word or a string literal with a prefix. -/
def scanWord (cs : List Char) : Option (TokenKind × List Char) :=
  let (word, rest) := cs.span isNameChar
  if stringPrefixes.contains (word.map Char.toLower) && (rest.head?.any fun c => c == '\'' || c == '"') then
    (scanString word rest).map fun p => (.string p.1, p.2)
  else if word.any (128 ≤ ·.toNat) && !Text.isIdentifier (Text.ofChars word) then none
  else match Reserved.ofChars? word with
    | some w => some (.word w, rest)
    | none => some (.name word, rest)

/-- The longest punctuation that a text starts with. -/
def scanPunct : List Char → Option (Punct × List Char)
  | a :: b :: c :: rest =>
    match Punct.ofThree? a b c, Punct.ofTwo? a b with
    | some p, _ => some (p, rest)
    | none, some p => some (p, c :: rest)
    | none, none => (Punct.ofOne? a).map (·, b :: c :: rest)
  | [a, b] =>
    match Punct.ofTwo? a b with
    | some p => some (p, [])
    | none => (Punct.ofOne? a).map (·, [b])
  | [a] => (Punct.ofOne? a).map (·, [])
  | [] => none

/-- The token that a text starts with. -/
def scanToken (cs : List Char) : Option (TokenKind × List Char) :=
  match cs with
  | [] => none
  | c :: rest =>
    if isDigit c || (c == '.' && rest.head?.any isDigit) then
      (scanNumber cs).map fun p => (.number p.1, p.2)
    else if isNameChar c then scanWord cs
    else if c == '\'' || c == '"' then (scanString [] cs).map fun p => (.string p.1, p.2)
    else (scanPunct cs).map fun p => (.punct p.1, p.2)

/-- The open brackets behind a token. -/
def nestBrackets (brackets : List Char) : TokenKind → Option (List Char)
  | .punct .leftParen => opened '('
  | .punct .leftBracket => opened '['
  | .punct .leftBrace => opened '\x7b'
  | .punct .rightParen => closed '('
  | .punct .rightBracket => closed '['
  | .punct .rightBrace => closed '\x7b'
  | _ => some brackets
where
  /-- One bracket more. -/
  opened (c : Char) : Option (List Char) :=
    if maxBrackets ≤ brackets.length then none else some (c :: brackets)
  /-- One bracket less; it has to be the innermost. -/
  closed (c : Char) : Option (List Char) :=
    match brackets with
    | d :: ds => if d == c then some ds else none
    | [] => none

/-- A mark of no width. -/
def markAt (pos : Pos) (k : TokenKind) : Token := ⟨k, ⟨pos, pos⟩⟩

/-- The start of a line: its indentation, unless it is blank or inside brackets. -/
def lexLineStart (s : LexState) : Option (List Token × LexState) :=
  match readIndent s.pos ⟨0, 0⟩ 0 s.rest with
  | none => none
  | some (line, pos, rest) =>
    let here := { s with pos := pos, rest := rest, lineStart := false }
    match rest.head? with
    | some '\n' => some ([], { here with pos := pos.after '\n', rest := rest.tail, lineStart := true })
    | some '#' =>
      let (comment, rest) := rest.span (· != '\n')
      some ([], { here with pos := (pos.afterAll comment).after '\n', rest := rest.tail, lineStart := !rest.isEmpty })
    | _ =>
      if s.brackets.isEmpty then
        (applyIndent line s.indents).map fun p => (p.1.map (markAt pos), { here with indents := p.2 })
      else some ([], here)

/-- A token inside a line, a blank stretch, a comment or the end of the line. -/
def lexInLine (s : LexState) : Option (List Token × LexState) :=
  match s.rest with
  | [] => none
  | c :: cs =>
    if c == ' ' || c == '\t' || c == '\x0c' then some ([], { s with pos := s.pos.after c, rest := cs })
    else if c == '#' then
      let (comment, rest) := s.rest.span (· != '\n')
      some ([], { s with pos := s.pos.afterAll comment, rest := rest })
    else if c == '\n' then
      let next := { s with pos := s.pos.after c, rest := cs, lineStart := true }
      some (if s.brackets.isEmpty then [markAt s.pos .newline] else [], next)
    else if c == '\\' then
      match cs with
      | d :: ds =>
        if d == '\n' && !ds.isEmpty then some ([], { s with pos := (s.pos.after c).after d, rest := ds }) else none
      | [] => none
    else match scanToken s.rest with
      | none => none
      | some (kind, rest) =>
        let stop := s.pos.afterAll (s.rest.take (s.rest.length - rest.length))
        (nestBrackets s.brackets kind).map fun brackets =>
          ([⟨kind, ⟨s.pos, stop⟩⟩], { s with pos := stop, rest := rest, brackets := brackets })

/-- The tokens from a state on. Each step takes a character or the start of a line. -/
def lexFrom : Nat → LexState → Option (List Token)
  | 0, _ => none
  | fuel + 1, s =>
    if s.lineStart then
      match lexLineStart s with
      | none => none
      | some (ts, s') => (lexFrom fuel s').map (ts ++ ·)
    else if s.rest.isEmpty then
      if s.brackets.isEmpty then some [markAt s.pos .stop] else none
    else match lexInLine s with
      | none => none
      | some (ts, s') => (lexFrom fuel s').map (ts ++ ·)

/-- The tokens of a source that starts at `pos`. -/
def lex (pos : Pos) (cs : List Char) : Option (List Token) :=
  lexFrom (2 * cs.length + 3) ⟨cs, pos, true, [⟨0, 0⟩], []⟩

/-- The source with a line feed at the end. -/
def endLine (cs : List Char) : List Char :=
  if cs.getLast? == some '\n' then cs else cs ++ ['\n']

end CallLint.Source

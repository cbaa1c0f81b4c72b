import CallLint.Text.Utf8
import CallLint.Yaml.Scalar

/-!
# Tokens of a settings text

`Token.ofText` cuts a text into tokens. Indentation becomes tokens of its own, which open and close block collections. A
word is known to be a key only at the colon after it, so the places where a key may have begun are kept, at most one for
each depth of brackets, and the token that marks a key is put there when the colon comes.
-/

namespace CallLint.Yaml

/-- A directive before a document: a version, a meaning of a tag handle, or one that is ignored. -/
inductive Directive where
  | version (major minor : Nat)
  | shorthand (mark : List Char) (meaning : List Char)
  | other
deriving DecidableEq, Repr, Inhabited

/-- A token. The last one may be the fault at which the text ceases to be cut. -/
inductive Token where
  | directive (d : Directive)
  | documentStart
  | documentEnd
  | blockSequence
  | blockMapping
  | blockEnd
  | flowSequence
  | flowMapping
  | flowSequenceEnd
  | flowMappingEnd
  | blockEntry
  | flowEntry
  | key
  | value
  | alias (name : List Char)
  | anchor (name : List Char)
  | tag (handle : Option (List Char)) (suffix : List Char)
  | scalar (text : Text) (isPlain : Bool)
  | fault (f : Fault)
deriving DecidableEq, Repr, Inhabited

namespace Tag

/-- Whether the character may stand in a tag as it is. -/
def isUriChar (c : Char) : Bool := c.isAlphanum || "-;/?:@&=+$,_.!~*'()[]".toList.contains c

/-- A handle: one exclamation mark, or a name between two. -/
def handle (c : Cursor) : Except Fault (List Char × Cursor) :=
  if c.peek != '!' then .error .malformed
  else if c.peekAt 1 == ' ' then .ok (['!'], c.next)
  else
    let name := c.next.run isNameChar
    let c := c.next.skip name.length
    if c.peek == '!' then .ok ('!' :: name ++ ['!'], c.next) else .error .malformed

/-- The bytes of the percent escapes from here. -/
def escapedBytes : List Char → Except Fault (List UInt8)
  | '%' :: a :: b :: rest =>
    match Text.hexValue? a, Text.hexValue? b with
    | some x, some y => do return UInt8.ofNat (x * 16 + y) :: (← escapedBytes rest)
    | _, _ => .error .malformed
  | '%' :: _ => .error .malformed
  | _ => .ok []

/-- The end of a tag; percent escapes are bytes of UTF-8. -/
def uri : Nat → List Char → Cursor → Except Fault (List Char × Cursor)
  | 0, acc, c => .ok (acc, c)
  | fuel + 1, acc, c =>
    if c.peek == '%' then do
      let bytes ← escapedBytes c.rest
      match Text.Utf8.decode? bytes with
      | some cs => uri fuel (acc ++ cs) (c.skip (3 * bytes.length))
      | none => .error .malformed
    else
      let word := c.run isUriChar
      if word.isEmpty then .ok (acc, c) else uri fuel (acc ++ word) (c.skip word.length)

/-- The end of a tag that is not left out. -/
def uriHere (c : Cursor) : Except Fault (List Char × Cursor) :=
  if c.peek == '%' || isUriChar c.peek then uri (c.rest.length + 1) [] c else .error .malformed

/-- The tag that begins here. -/
def read (c : Cursor) : Except Fault (Token × Cursor) := do
  let (t, c) ← body
  if isSpaceOrEnd c.peek then return (t, c) else .error .malformed
where
  /-- The tag without a check of what follows it. -/
  body : Except Fault (Token × Cursor) :=
    let first := c.peekAt 1
    if first == '<' then do
      let (suffix, c) ← uriHere (c.skip 2)
      if c.peek == '>' then return (.tag none suffix, c.next) else .error .malformed
    else if isBlankOrEnd first then .ok (.tag none ['!'], c.next)
    else if (c.next.run fun ch => !isSpaceOrEnd ch).contains '!' then do
      let (handle, c) ← handle c
      let (suffix, c) ← uriHere c
      return (.tag (some handle) suffix, c)
    else do
      let (suffix, c) ← uriHere c.next
      return (.tag (some ['!']) suffix, c)

end Tag

namespace Directive

/-- A number of a version. -/
def number (c : Cursor) : Except Fault (Nat × Cursor) :=
  let ds := c.run Char.isDigit
  if ds.isEmpty then .error .malformed
  else .ok (ds.foldl (fun n d => n * 10 + (d.toNat - '0'.toNat)) 0, c.skip ds.length)

/-- A version: two numbers with a point between. -/
def readVersion (c : Cursor) : Except Fault (Directive × Cursor) := do
  let (major, c) ← number (c.skipRun (· == ' '))
  if c.peek == '.' then
    let (minor, c) ← number c.next
    if isSpaceOrEnd c.peek then return (.version major minor, c) else .error .malformed
  else .error .malformed

/-- A tag handle and what it stands for. -/
def readHandle (c : Cursor) : Except Fault (Directive × Cursor) := do
  let (mark, c) ← Tag.handle (c.skipRun (· == ' '))
  if c.peek == ' ' then
    let (meaning, c) ← Tag.uriHere (c.skipRun (· == ' '))
    if isSpaceOrEnd c.peek then return (.shorthand mark meaning, c) else .error .malformed
  else .error .malformed

/-- The directive whose percent sign stands here, with the rest of its line. -/
def read (c : Cursor) : Except Fault (Directive × Cursor) := do
  let name := c.next.run isNameChar
  let c := c.next.skip name.length
  if name.isEmpty || !isSpaceOrEnd c.peek then .error .malformed
  else
    let (d, c) ←
      if name == "YAML".toList then readVersion c
      else if name == "TAG".toList then readHandle c
      else .ok (other, c.skipRun (!isBreak ·))
    return (d, ← c.finishLine)

end Directive

/-- A place where a key may have begun: the depth of brackets, the number of the token there, whether a key has to be there,
and the position. -/
structure KeyPlace where
  depth : Nat
  number : Nat
  required : Bool
  index : Nat
  line : Nat
  column : Nat
deriving Repr, Inhabited

/-- A text that is partly cut into tokens, which are gathered last first. -/
structure Cutting where
  cursor : Cursor
  depth : Nat := 0
  indent : Int := -1
  outer : List Int := []
  keyAllowed : Bool := true
  places : List KeyPlace := []
  tokens : List Token := []
deriving Repr, Inhabited

namespace Cutting

/-- Whether brackets are open. -/
def inFlow (s : Cutting) : Bool := s.depth != 0

/-- Adds a token. -/
def push (s : Cutting) (t : Token) : Cutting := { s with tokens := t :: s.tokens }

/-- Adds a token and steps over its `n` characters. -/
def take (s : Cutting) (t : Token) (n : Nat) : Cutting := { s.push t with cursor := s.cursor.skip n }

/-- A key lies on one line and is at most this many characters long. -/
def maxKeyLength : Nat := 1024

/-- Forgets places where it is too late for a key. -/
def dropStale (s : Cutting) : Except Fault Cutting :=
  let isStale (k : KeyPlace) : Bool :=
    k.line != s.cursor.line || decide (maxKeyLength < s.cursor.index - k.index)
  if s.places.any fun k => isStale k && k.required then .error .malformed
  else .ok { s with places := s.places.filter fun k => !isStale k }

/-- Forgets the place at this depth. -/
def dropPlace (s : Cutting) : Except Fault Cutting :=
  if s.places.any fun k => k.depth == s.depth && k.required then .error .malformed
  else .ok { s with places := s.places.filter fun k => k.depth != s.depth }

/-- Remembers that a key may begin here. -/
def savePlace (s : Cutting) : Except Fault Cutting :=
  if s.keyAllowed then do
    let c := s.cursor
    let required := !s.inFlow && s.indent == c.column
    let s ← s.dropPlace
    let place := ⟨s.depth, s.tokens.length, required, c.index, c.line, c.column⟩
    return { s with places := place :: s.places }
  else .ok s

/-- Closes the block collections that are indented deeper than `column`. -/
def unwind (column : Int) : Nat → Cutting → Cutting
  | 0, s => s
  | fuel + 1, s =>
    if !s.inFlow && decide (column < s.indent) then
      match s.outer with
      | [] => s
      | indent :: outer => unwind column fuel { s.push .blockEnd with indent, outer }
    else s

/-- Closes block collections down to `column`. -/
def unwindTo (s : Cutting) (column : Int) : Cutting := unwind column (s.outer.length + 1) s

/-- Opens a block collection at `column`, if none is open there; says whether it did. -/
def deepen (s : Cutting) (column : Nat) : Bool × Cutting :=
  if s.indent < column then (true, { s with indent := column, outer := s.indent :: s.outer }) else (false, s)

/-- Opens a block collection here, if none is open at this column. -/
def openBlock (s : Cutting) (t : Token) : Cutting :=
  match s.deepen s.cursor.column with
  | (true, s) => s.push t
  | (false, s) => s

/-- A mark that ends what came before it on its level: a separator of documents, or a directive. -/
def atDocument (s : Cutting) : Except Fault Cutting := do
  let s ← (s.unwindTo (-1)).dropPlace
  return { s with keyAllowed := false }

/-- An opening bracket. -/
def openFlow (s : Cutting) (t : Token) : Except Fault Cutting := do
  let s ← s.savePlace
  return { s.take t 1 with depth := s.depth + 1, keyAllowed := true }

/-- A closing bracket. -/
def closeFlow (s : Cutting) (t : Token) : Except Fault Cutting := do
  if s.inFlow then
    let s ← s.dropPlace
    return { s.take t 1 with depth := s.depth - 1, keyAllowed := false }
  else .error .malformed

/-- A comma. -/
def flowEntry (s : Cutting) : Except Fault Cutting := do
  let s ← s.dropPlace
  return { s.take .flowEntry 1 with keyAllowed := true }

/-- A dash before an item. -/
def blockEntry (s : Cutting) : Except Fault Cutting := do
  if !s.inFlow && !s.keyAllowed then .error .malformed
  else
    let s ← (if s.inFlow then s else s.openBlock .blockSequence).dropPlace
    return { s.take .blockEntry 1 with keyAllowed := true }

/-- A question mark before a key. -/
def explicitKey (s : Cutting) : Except Fault Cutting := do
  if !s.inFlow && !s.keyAllowed then .error .malformed
  else
    let s ← (if s.inFlow then s else s.openBlock .blockMapping).dropPlace
    return { s.take .key 1 with keyAllowed := !s.inFlow }

/-- Marks the token at the place as a key, and opens a mapping there if none is open. -/
def markKey (s : Cutting) (k : KeyPlace) : Cutting :=
  let s := { s with places := s.places.filter fun p => p.depth != s.depth }
  let (opened, s) := if s.inFlow then (false, s) else s.deepen k.column
  let later := s.tokens.length - k.number
  let marks := if opened then [.key, .blockMapping] else [.key]
  { s with tokens := s.tokens.take later ++ marks ++ s.tokens.drop later }

/-- A colon before a value. -/
def value (s : Cutting) : Except Fault Cutting := do
  match s.places.find? fun k => k.depth == s.depth with
  | some k => return { (s.markKey k).take .value 1 with keyAllowed := false }
  | none =>
    if !s.inFlow && !s.keyAllowed then .error .malformed
    else
      let s ← (if s.inFlow then s else s.openBlock .blockMapping).dropPlace
      return { s.take .value 1 with keyAllowed := !s.inFlow }

/-- What follows an anchor's or alias's name. -/
def endsName (c : Char) : Bool := isBlankOrEnd c || "?:,]\x7d%@\x60".toList.contains c

/-- An anchor or an alias. -/
def named (s : Cutting) (token : List Char → Token) : Except Fault Cutting := do
  let s ← s.savePlace
  let name := s.cursor.next.run isNameChar
  let cursor := s.cursor.next.skip name.length
  if name.isEmpty || !endsName cursor.peek then .error .malformed
  else return { s.push (token name) with cursor, keyAllowed := false }

/-- A tag. -/
def tagged (s : Cutting) : Except Fault Cutting := do
  let s ← s.savePlace
  let (t, cursor) ← Tag.read s.cursor
  return { s.push t with cursor, keyAllowed := false }

/-- A block scalar. -/
def blockText (s : Cutting) (folded : Bool) : Except Fault Cutting := do
  let s ← s.dropPlace
  let (text, cursor) ← blockScalar folded s.indent s.cursor
  return { s.push (.scalar (Text.ofChars text) false) with cursor, keyAllowed := true }

/-- A quoted scalar. -/
def quotedText (s : Cutting) (double : Bool) : Except Fault Cutting := do
  let s ← s.savePlace
  let (text, cursor) ← quotedScalar double s.cursor
  return { s.push (.scalar text false) with cursor, keyAllowed := false }

/-- A plain scalar. A key may follow it if it ends with its line. -/
def plainText (s : Cutting) : Except Fault Cutting := do
  let s ← s.savePlace
  let (text, crossed, cursor) := plain s.inFlow (s.indent + 1) s.cursor
  return { s.push (.scalar (Text.ofChars text) true) with cursor, keyAllowed := crossed }

/-- Whether a plain scalar can begin here. -/
def plainBegins (s : Cutting) : Bool :=
  let ch := s.cursor.peek
  let indicators := "-?:,[]\x7b\x7d#&*!|>'\"%@\x60".toList
  (!isBlankOrEnd ch && !indicators.contains ch) ||
    (!isBlankOrEnd (s.cursor.peekAt 1) && (ch == '-' || (!s.inFlow && (ch == '?' || ch == ':'))))

/-- Cuts the next token, which begins here; nothing at the end of the text. -/
def token (s : Cutting) : Except Fault (Option Cutting) := do
  let c := s.cursor
  let ch := c.peek
  let blankNext := isBlankOrEnd (c.peekAt 1)
  let separator := c.column == 0 && c.atSeparator
  if ch == '\x00' then
    return none
  else if ch == '%' && c.column == 0 then
    let s ← s.atDocument
    let (d, cursor) ← Directive.read s.cursor
    return some { s.push (.directive d) with cursor }
  else if ch == '-' && separator then return some ((← s.atDocument).take .documentStart 3)
  else if ch == '.' && separator then return some ((← s.atDocument).take .documentEnd 3)
  else if ch == '[' then some <$> s.openFlow .flowSequence
  else if ch == '\x7b' then some <$> s.openFlow .flowMapping
  else if ch == ']' then some <$> s.closeFlow .flowSequenceEnd
  else if ch == '\x7d' then some <$> s.closeFlow .flowMappingEnd
  else if ch == ',' then some <$> s.flowEntry
  else if ch == '-' && blankNext then some <$> s.blockEntry
  else if ch == '?' && (s.inFlow || blankNext) then some <$> s.explicitKey
  else if ch == ':' && (s.inFlow || blankNext) then some <$> s.value
  else if ch == '*' then some <$> s.named .alias
  else if ch == '&' then some <$> s.named .anchor
  else if ch == '!' then some <$> s.tagged
  else if ch == '|' && !s.inFlow then some <$> s.blockText false
  else if ch == '>' && !s.inFlow then some <$> s.blockText true
  else if ch == '\'' then some <$> s.quotedText false
  else if ch == '"' then some <$> s.quotedText true
  else if s.plainBegins then some <$> s.plainText
  else .error .malformed

/-- Goes to the next token and cuts it; nothing at the end of the text, where all block collections are closed. -/
def step (s : Cutting) : Except Fault (Cutting × Bool) := do
  let cursor := if s.cursor.index == 0 && s.cursor.peek == '\ufeff' then s.cursor.next else s.cursor
  let (crossed, cursor) := cursor.toToken (cursor.rest.length + 1) false
  let s := { s with cursor, keyAllowed := s.keyAllowed || (crossed && !s.inFlow) }
  let s := (← s.dropStale).unwindTo cursor.column
  match ← s.token with
  | some s => return (s, true)
  | none => return (← (s.unwindTo (-1)).dropPlace, false)

/-- Cuts the rest of the text. -/
def run : Nat → Cutting → List Token
  | 0, s => s.tokens.reverse
  | fuel + 1, s =>
    match s.step with
    | .ok (s, true) => run fuel s
    | .ok (s, false) => s.tokens.reverse
    | .error f => (Token.fault f :: s.tokens).reverse

end Cutting

/-- The tokens of a text. -/
def Token.ofText (cs : List Char) : List Token :=
  if cs.all isReadable then Cutting.run (cs.length + 1) { cursor := { rest := cs } }
  else [.fault .malformed]

end CallLint.Yaml

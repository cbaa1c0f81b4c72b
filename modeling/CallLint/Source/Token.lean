import CallLint.Source.Ast

/-!
# Tokens

The tokens of a source: names, reserved words, literals, punctuation, and the marks that show logical lines and their
indentation. A string token keeps its spelling, since adjacent literals are read together later.
-/

namespace CallLint.Source

/-- Reserved words. -/
inductive Reserved where
  | kFalse | kNone | kTrue | kAnd | kAs | kAssert | kAsync | kAwait | kBreak | kClass | kContinue | kDef
  | kDel | kElif | kElse | kExcept | kFinally | kFor | kFrom | kGlobal | kIf | kImport | kIn | kIs
  | kLambda | kNonlocal | kNot | kOr | kPass | kRaise | kReturn | kTry | kWhile | kWith | kYield
deriving DecidableEq, Repr, Inhabited

/-- Every reserved word with its spelling. -/
def Reserved.spellings : List (List Char × Reserved) := [
  ("False".toList, .kFalse), ("None".toList, .kNone), ("True".toList, .kTrue), ("and".toList, .kAnd),
  ("as".toList, .kAs), ("assert".toList, .kAssert), ("async".toList, .kAsync), ("await".toList, .kAwait),
  ("break".toList, .kBreak), ("class".toList, .kClass), ("continue".toList, .kContinue),
  ("def".toList, .kDef), ("del".toList, .kDel), ("elif".toList, .kElif), ("else".toList, .kElse),
  ("except".toList, .kExcept), ("finally".toList, .kFinally), ("for".toList, .kFor),
  ("from".toList, .kFrom), ("global".toList, .kGlobal), ("if".toList, .kIf), ("import".toList, .kImport),
  ("in".toList, .kIn), ("is".toList, .kIs), ("lambda".toList, .kLambda), ("nonlocal".toList, .kNonlocal),
  ("not".toList, .kNot), ("or".toList, .kOr), ("pass".toList, .kPass), ("raise".toList, .kRaise),
  ("return".toList, .kReturn), ("try".toList, .kTry), ("while".toList, .kWhile), ("with".toList, .kWith),
  ("yield".toList, .kYield)]

/-- The reserved word with the given spelling. -/
def Reserved.ofChars? (cs : List Char) : Option Reserved := Reserved.spellings.lookup cs

/-- Punctuation and operators; `lessGreater` is a token that no rule uses. -/
inductive Punct where
  | leftParen | rightParen | leftBracket | rightBracket | leftBrace | rightBrace | colon | comma
  | semicolon | plus | minus | star | slash | bar | ampersand | less | greater | equal | dot | percent
  | tilde | caret | at | notEqual | percentEqual | ampersandEqual | doubleStar | starEqual | plusEqual
  | minusEqual | arrow | doubleSlash | slashEqual | colonEqual | leftShift | lessEqual | lessGreater
  | doubleEqual | greaterEqual | rightShift | atEqual | caretEqual | barEqual | doubleStarEqual | ellipsis
  | doubleSlashEqual | leftShiftEqual | rightShiftEqual
deriving DecidableEq, Repr, Inhabited

/-- Punctuation of three characters. -/
def Punct.ofThree? : Char → Char → Char → Option Punct
  | '*', '*', '=' => some .doubleStarEqual
  | '.', '.', '.' => some .ellipsis
  | '/', '/', '=' => some .doubleSlashEqual
  | '<', '<', '=' => some .leftShiftEqual
  | '>', '>', '=' => some .rightShiftEqual
  | _, _, _ => none

/-- Punctuation of two characters. -/
def Punct.ofTwo? : Char → Char → Option Punct
  | '!', '=' => some .notEqual
  | '%', '=' => some .percentEqual
  | '&', '=' => some .ampersandEqual
  | '*', '*' => some .doubleStar
  | '*', '=' => some .starEqual
  | '+', '=' => some .plusEqual
  | '-', '=' => some .minusEqual
  | '-', '>' => some .arrow
  | '/', '/' => some .doubleSlash
  | '/', '=' => some .slashEqual
  | ':', '=' => some .colonEqual
  | '<', '<' => some .leftShift
  | '<', '=' => some .lessEqual
  | '<', '>' => some .lessGreater
  | '=', '=' => some .doubleEqual
  | '>', '=' => some .greaterEqual
  | '>', '>' => some .rightShift
  | '@', '=' => some .atEqual
  | '^', '=' => some .caretEqual
  | '|', '=' => some .barEqual
  | _, _ => none

/-- Punctuation of one character. -/
def Punct.ofOne? : Char → Option Punct
  | '(' => some .leftParen
  | ')' => some .rightParen
  | '[' => some .leftBracket
  | ']' => some .rightBracket
  | '\x7b' => some .leftBrace
  | '\x7d' => some .rightBrace
  | ':' => some .colon
  | ',' => some .comma
  | ';' => some .semicolon
  | '+' => some .plus
  | '-' => some .minus
  | '*' => some .star
  | '/' => some .slash
  | '|' => some .bar
  | '&' => some .ampersand
  | '<' => some .less
  | '>' => some .greater
  | '=' => some .equal
  | '.' => some .dot
  | '%' => some .percent
  | '~' => some .tilde
  | '^' => some .caret
  | '@' => some .at
  | _ => none

/-- A string token: its prefix letters as flags, the prefix and opening quotes as written, and the body between the
quotes. -/
structure StringToken where
  isRaw : Bool
  isBytes : Bool
  isFormat : Bool
  isUnicode : Bool
  opening : List Char
  body : List Char
deriving DecidableEq, Repr, Inhabited

/-- What a token is. -/
inductive TokenKind where
  | name (spelling : List Char)
  | word (w : Reserved)
  | number (value : Literal)
  | string (s : StringToken)
  | punct (p : Punct)
  | newline
  | indent
  | dedent
  | stop
deriving DecidableEq, Repr, Inhabited

/-- A token with its span. -/
structure Token where
  kind : TokenKind
  span : Span
deriving DecidableEq, Repr, Inhabited

end CallLint.Source

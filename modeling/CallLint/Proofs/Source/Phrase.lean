import CallLint.Proofs.Source.Reading
import CallLint.Source.Grammar.Expr

/-!
# Phrases

The grammar of expressions as a relation: `Phrase f ts v` says that the tokens `ts` are a phrase of the form `f` that stands for `v`.
There is no order of alternatives, no looking ahead and no fuel in it. Operators are sorted by levels; a phrase of one level is one of
the next, so that a construct says only which level its operands need. Constructs carry the span of their tokens, except that
parentheses around an expression leave it as it is.
-/

namespace CallLint.Source

open Parse Grammar

/-- How tightly the constructs of an expression bind, from the tightest on. -/
inductive Level where
  | atom | primary | awaited | power | factor | term | sum | shift | bitAnd | bitXor | bitOr | comparison | inversion
  | conjunction | disjunction | expression | named
deriving DecidableEq

namespace Level

/-- The next tighter level. -/
def below : Level → Option Level
  | atom => none
  | primary => some atom
  | awaited => some primary
  | power => some awaited
  | factor => some power
  | term => some factor
  | sum => some term
  | shift => some sum
  | bitAnd => some shift
  | bitXor => some bitAnd
  | bitOr => some bitXor
  | comparison => some bitOr
  | inversion => some comparison
  | conjunction => some inversion
  | disjunction => some conjunction
  | expression => some disjunction
  | named => some expression

/-- The operators of a level that join two operands from the left. -/
def op? : Level → TokenKind → Option BinOp
  | term => termOp?
  | sum => sumOp?
  | shift => shiftOp?
  | bitAnd => onlyOp? .ampersand .bitAnd
  | bitXor => onlyOp? .caret .bitXor
  | bitOr => onlyOp? .bar .bitOr
  | _ => fun _ => none

/-- The connective of a level. -/
def connective? : Level → Option (Reserved × BoolOp)
  | conjunction => some (.kAnd, .and)
  | disjunction => some (.kOr, .or)
  | _ => none

end Level

/-- What may stand between the commas of a list of expressions: elements of displays, of expression lists, targets, indices, operands
that are deleted, and the parts of a source that is one expression. -/
inductive Element where
  | named | expression | target | index | operand | bare
deriving DecidableEq

namespace Element

/-- The level of an element that is not starred. -/
def level : Element → Level
  | named | index => .named
  | expression | bare => .expression
  | target | operand => .bitOr

/-- The level of what is starred, if an element may be. -/
def starLevel : Element → Option Level
  | named | expression | target => some .bitOr
  | index => some .expression
  | operand | bare => none

end Element

/-- The forms of phrases. -/
inductive Form where
  /-- An expression of a level. -/
  | expr (l : Level)
  /-- An element of a list. -/
  | element (k : Element)
  /-- Elements, each behind a comma. -/
  | elements (k : Element)
  /-- One or more elements between commas, possibly with a comma at the end; whether there is a comma. -/
  | series (k : Element)
  /-- An element, or a tuple of elements. -/
  | tupled (k : Element)
  /-- Operands, each behind a comparison operator. -/
  | links
  /-- Operands of a level, each behind a word. -/
  | operands (w : Reserved) (l : Level)
  /-- A `yield` expression. -/
  | yielding
  /-- A clause of a comprehension. -/
  | clause
  | clauses
  /-- Conditions of a clause, each behind `if`. -/
  | conditions
  /-- An item of a dictionary. -/
  | pair
  /-- Items of a dictionary, each behind a comma. -/
  | pairs
  /-- A bound of a slice that may be left out. -/
  | bound
  /-- The step of a slice behind its colon, both left out or not. -/
  | stride
  /-- What stands in the brackets of a subscript. -/
  | subscripts
  | argument
  /-- Arguments, each behind a comma. -/
  | furtherArguments
  /-- One or more arguments, possibly with a comma at the end. -/
  | argumentList
  /-- The arguments of a call with their parentheses. -/
  | callArguments
  /-- The annotation of a parameter behind its colon, both left out or not; it may be starred. -/
  | annot (starred : Bool)
  /-- A parameter, possibly with an annotation, which may be starred. -/
  | param (typed starred : Bool)
  | paramItem (typed : Bool)
  /-- Items of a parameter list, each behind a comma. -/
  | paramItems (typed : Bool)
  | params (typed : Bool)

/-- What phrases of a form stand for. -/
@[reducible] def Form.Value : Form → Type
  | expr _ | element _ | tupled _ | yielding | subscripts => Expr
  | elements _ | operands .. | conditions => List Expr
  | series _ => List Expr × Bool
  | links => List (CompareOp × Expr)
  | clause => Comprehension
  | clauses => List Comprehension
  | pair => Option Expr × Expr
  | pairs => List (Option Expr × Expr)
  | bound | stride | annot _ => Option Expr
  | argument => Expr ⊕ Keyword
  | furtherArguments => List (Expr ⊕ Keyword)
  | argumentList | callArguments => List Expr × List Keyword
  | param .. => Param
  | paramItem _ => ParamItem
  | paramItems _ => List ParamItem
  | params _ => Params

/-- The value of a constant of one token. -/
def constantOf? : TokenKind → Option Literal
  | .word .kTrue => some (.bool true)
  | .word .kFalse => some (.bool false)
  | .word .kNone => some .none
  | .punct .ellipsis => some .ellipsis
  | .number v => some v
  | _ => none

/-- The comparison operators of one token. -/
def compareOp? : TokenKind → Option CompareOp
  | .punct .doubleEqual => some .eq
  | .punct .notEqual => some .notEq
  | .punct .less => some .lt
  | .punct .lessEqual => some .ltE
  | .punct .greater => some .gt
  | .punct .greaterEqual => some .gtE
  | .word .kIn => some .contained
  | .word .kIs => some .is
  | _ => none

/-- The tokens of a comparison operator. -/
inductive Comparator : List Token → CompareOp → Prop where
  | single {k : TokenKind} {op : CompareOp} (p : Span) (h : compareOp? k = some op) : Comparator [⟨k, p⟩] op
  | isNot (p q : Span) : Comparator [⟨.word .kIs, p⟩, ⟨.word .kNot, q⟩] .isNot
  | notIn (p q : Span) : Comparator [⟨.word .kNot, p⟩, ⟨.word .kIn, q⟩] .notContained

/-- The tokens of string literals. -/
def stringTokens (ss : List (StringToken × Span)) : List Token := ss.map fun s => ⟨.string s.1, s.2⟩

/-- A token of a kind, or nothing, and whether it is there. -/
inductive Mark (k : TokenKind) : List Token → Bool → Prop where
  | none : Mark k [] false
  | some (p : Span) : Mark k [⟨k, p⟩] true

/-- A comma, or nothing. -/
def Trailing (ts : List Token) : Prop := ∃ b, Mark (.punct .comma) ts b

/-- One argument more, if it may stand behind those before it. -/
def Grammar.Arguments.add? (a : Arguments) : Expr ⊕ Keyword → Option Arguments
  | .inl e =>
    if a.stage == .positional || (isStarred e && a.stage != .mapping) then some { a with args := e :: a.args } else none
  | .inr (.mk s (some n) v) =>
    some ⟨if a.stage == .positional then .keyword else a.stage, a.args, .mk s (some n) v :: a.keywords⟩
  | .inr (.mk s none v) => some ⟨.mapping, a.args, .mk s none v :: a.keywords⟩

/-- The tokens of a phrase, its form, and what it stands for. -/
inductive Phrase : (f : Form) → List Token → f.Value → Prop where
  -- Operands of one token, and strings with the phrases of their fields.
  | name (w : List Char) (p : Span) :
      Phrase (.expr .atom) [⟨.name w, p⟩] (.name p (Text.ofChars (Text.normalForm w)) .load)
  | constant {k : TokenKind} {v : Literal} (p : Span) (h : constantOf? k = some v) :
      Phrase (.expr .atom) [⟨k, p⟩] (.constant p v false)
  | strings {ss : List (StringToken × Span)} {e : Expr} {read : List Char → Pos → Option Expr}
      {field : List Char → Pos → Expr → List Token} (some_string : ss ≠ [])
      (reads : ∀ source pos v, read source pos = some v → Phrase (.tupled .expression) (field source pos v) v)
      (lexes : ∀ source pos v, read source pos = some v →
        ∃ p rest, fieldTokens source pos = some (field source pos v ++ ⟨.newline, p⟩ :: rest))
      (join : stringsExpr read (spanOf (stringTokens ss)) ss = some e) : Phrase (.expr .atom) (stringTokens ss) e
  -- Parentheses.
  | unit (p q : Span) :
      Phrase (.expr .atom) [⟨.punct .leftParen, p⟩, ⟨.punct .rightParen, q⟩]
        (.tuple (spanOf [⟨.punct .leftParen, p⟩, ⟨.punct .rightParen, q⟩]) [] .load)
  | group {ts : List Token} {e : Expr} (p q : Span) (inner : Phrase (.expr .named) ts e) :
      Phrase (.expr .atom) (⟨.punct .leftParen, p⟩ :: (ts ++ [⟨.punct .rightParen, q⟩])) e
  | yielded {ts : List Token} {e : Expr} (p q : Span) (inner : Phrase .yielding ts e) :
      Phrase (.expr .atom) (⟨.punct .leftParen, p⟩ :: (ts ++ [⟨.punct .rightParen, q⟩])) e
  | tuple {ts : List Token} {es : List Expr} (p q : Span) (inner : Phrase (.series .named) ts (es, true)) :
      Phrase (.expr .atom) (⟨.punct .leftParen, p⟩ :: (ts ++ [⟨.punct .rightParen, q⟩]))
        (.tuple (spanOf (⟨.punct .leftParen, p⟩ :: (ts ++ [⟨.punct .rightParen, q⟩]))) es .load)
  | generator {ts us : List Token} {e : Expr} {gs : List Comprehension} (p q : Span) (elt : Phrase (.expr .named) ts e)
      (for_ : Phrase .clauses us gs) (some_clause : gs ≠ []) :
      Phrase (.expr .atom) (⟨.punct .leftParen, p⟩ :: (ts ++ (us ++ [⟨.punct .rightParen, q⟩])))
        (.generator (spanOf (⟨.punct .leftParen, p⟩ :: (ts ++ (us ++ [⟨.punct .rightParen, q⟩])))) e gs)
  -- Brackets.
  | nil (p q : Span) :
      Phrase (.expr .atom) [⟨.punct .leftBracket, p⟩, ⟨.punct .rightBracket, q⟩]
        (.list (spanOf [⟨.punct .leftBracket, p⟩, ⟨.punct .rightBracket, q⟩]) [] .load)
  | list {ts : List Token} {es : List Expr} {comma : Bool} (p q : Span) (inner : Phrase (.series .named) ts (es, comma)) :
      Phrase (.expr .atom) (⟨.punct .leftBracket, p⟩ :: (ts ++ [⟨.punct .rightBracket, q⟩]))
        (.list (spanOf (⟨.punct .leftBracket, p⟩ :: (ts ++ [⟨.punct .rightBracket, q⟩]))) es .load)
  | listComp {ts us : List Token} {e : Expr} {gs : List Comprehension} (p q : Span) (elt : Phrase (.expr .named) ts e)
      (for_ : Phrase .clauses us gs) (some_clause : gs ≠ []) :
      Phrase (.expr .atom) (⟨.punct .leftBracket, p⟩ :: (ts ++ (us ++ [⟨.punct .rightBracket, q⟩])))
        (.listComp (spanOf (⟨.punct .leftBracket, p⟩ :: (ts ++ (us ++ [⟨.punct .rightBracket, q⟩])))) e gs)
  -- Braces.
  | emptyDict (p q : Span) :
      Phrase (.expr .atom) [⟨.punct .leftBrace, p⟩, ⟨.punct .rightBrace, q⟩]
        (.dict (spanOf [⟨.punct .leftBrace, p⟩, ⟨.punct .rightBrace, q⟩]) [] [])
  | dict {ts us cs : List Token} {i : Option Expr × Expr} {is : List (Option Expr × Expr)} (p q : Span)
      (first : Phrase .pair ts i) (rest : Phrase .pairs us is) (comma : Trailing cs) :
      Phrase (.expr .atom) (⟨.punct .leftBrace, p⟩ :: (ts ++ (us ++ (cs ++ [⟨.punct .rightBrace, q⟩]))))
        (.dict (spanOf (⟨.punct .leftBrace, p⟩ :: (ts ++ (us ++ (cs ++ [⟨.punct .rightBrace, q⟩])))))
          ((i :: is).map (·.1)) ((i :: is).map (·.2)))
  | dictComp {ts us vs : List Token} {k v : Expr} {gs : List Comprehension} (p q r : Span)
      (key : Phrase (.expr .expression) ts k) (value : Phrase (.expr .expression) us v) (for_ : Phrase .clauses vs gs)
      (some_clause : gs ≠ []) :
      Phrase (.expr .atom)
        (⟨.punct .leftBrace, p⟩ :: (ts ++ ⟨.punct .colon, r⟩ :: (us ++ (vs ++ [⟨.punct .rightBrace, q⟩]))))
        (.dictComp (spanOf (⟨.punct .leftBrace, p⟩ :: (ts ++ ⟨.punct .colon, r⟩ :: (us ++ (vs ++ [⟨.punct .rightBrace, q⟩])))))
          k v gs)
  | set {ts : List Token} {es : List Expr} {comma : Bool} (p q : Span) (inner : Phrase (.series .named) ts (es, comma)) :
      Phrase (.expr .atom) (⟨.punct .leftBrace, p⟩ :: (ts ++ [⟨.punct .rightBrace, q⟩]))
        (.set (spanOf (⟨.punct .leftBrace, p⟩ :: (ts ++ [⟨.punct .rightBrace, q⟩]))) es)
  | setComp {ts us : List Token} {e : Expr} {gs : List Comprehension} (p q : Span) (elt : Phrase (.expr .named) ts e)
      (for_ : Phrase .clauses us gs) (some_clause : gs ≠ []) :
      Phrase (.expr .atom) (⟨.punct .leftBrace, p⟩ :: (ts ++ (us ++ [⟨.punct .rightBrace, q⟩])))
        (.setComp (spanOf (⟨.punct .leftBrace, p⟩ :: (ts ++ (us ++ [⟨.punct .rightBrace, q⟩])))) e gs)
  -- Operations, from the tightest on.
  | lift {l m : Level} {ts : List Token} {e : Expr} (below : l.below = some m) (inner : Phrase (.expr m) ts e) :
      Phrase (.expr l) ts e
  | member {ts : List Token} {e : Expr} (w : List Char) (p q : Span) (value : Phrase (.expr .primary) ts e) :
      Phrase (.expr .primary) (ts ++ [⟨.punct .dot, p⟩, ⟨.name w, q⟩])
        (.member (spanOf (ts ++ [⟨.punct .dot, p⟩, ⟨.name w, q⟩])) e (Text.ofChars (Text.normalForm w)) .load)
  | call {ts us : List Token} {f : Expr} {as : List Expr × List Keyword} (func : Phrase (.expr .primary) ts f)
      (args : Phrase .callArguments us as) :
      Phrase (.expr .primary) (ts ++ us) (.call (spanOf (ts ++ us)) f as.1 as.2)
  | subscript {ts us : List Token} {e i : Expr} (p q : Span) (value : Phrase (.expr .primary) ts e)
      (index : Phrase .subscripts us i) :
      Phrase (.expr .primary) (ts ++ ⟨.punct .leftBracket, p⟩ :: (us ++ [⟨.punct .rightBracket, q⟩]))
        (.subscript (spanOf (ts ++ ⟨.punct .leftBracket, p⟩ :: (us ++ [⟨.punct .rightBracket, q⟩]))) e i .load)
  | await {ts : List Token} {e : Expr} (p : Span) (value : Phrase (.expr .primary) ts e) :
      Phrase (.expr .awaited) (⟨.word .kAwait, p⟩ :: ts) (.await (spanOf (⟨.word .kAwait, p⟩ :: ts)) e)
  | power {ts us : List Token} {b e : Expr} (p : Span) (base : Phrase (.expr .awaited) ts b)
      (exponent : Phrase (.expr .factor) us e) :
      Phrase (.expr .power) (ts ++ ⟨.punct .doubleStar, p⟩ :: us)
        (.binOp (spanOf (ts ++ ⟨.punct .doubleStar, p⟩ :: us)) b .pow e)
  | sign {k : TokenKind} {op : UnaryOp} {ts : List Token} {e : Expr} (p : Span) (h : signOp? k = some op)
      (operand : Phrase (.expr .factor) ts e) :
      Phrase (.expr .factor) (⟨k, p⟩ :: ts) (.unaryOp (spanOf (⟨k, p⟩ :: ts)) op e)
  | binary {l m : Level} {k : TokenKind} {op : BinOp} {ts us : List Token} {a b : Expr} (p : Span) (h : l.op? k = some op)
      (below : l.below = some m) (left : Phrase (.expr l) ts a) (right : Phrase (.expr m) us b) :
      Phrase (.expr l) (ts ++ ⟨k, p⟩ :: us) (.binOp (spanOf (ts ++ ⟨k, p⟩ :: us)) a op b)
  | compare {ts us : List Token} {e : Expr} {ls : List (CompareOp × Expr)} (left : Phrase (.expr .bitOr) ts e)
      (right : Phrase .links us ls) (some_link : ls ≠ []) :
      Phrase (.expr .comparison) (ts ++ us) (.compare (spanOf (ts ++ us)) e (ls.map (·.1)) (ls.map (·.2)))
  | negation {ts : List Token} {e : Expr} (p : Span) (operand : Phrase (.expr .inversion) ts e) :
      Phrase (.expr .inversion) (⟨.word .kNot, p⟩ :: ts) (.unaryOp (spanOf (⟨.word .kNot, p⟩ :: ts)) .not e)
  | connected {l m : Level} {w : Reserved} {op : BoolOp} {ts us : List Token} {e : Expr} {es : List Expr}
      (h : l.connective? = some (w, op)) (below : l.below = some m) (first : Phrase (.expr m) ts e)
      (rest : Phrase (.operands w m) us es) (some_operand : es ≠ []) :
      Phrase (.expr l) (ts ++ us) (.boolOp (spanOf (ts ++ us)) op (e :: es))
  | lambda {ts us : List Token} {ps : Params} {e : Expr} (p q : Span) (parameters : Phrase (.params false) ts ps)
      (body : Phrase (.expr .expression) us e) :
      Phrase (.expr .expression) (⟨.word .kLambda, p⟩ :: (ts ++ ⟨.punct .colon, q⟩ :: us))
        (.lambda (spanOf (⟨.word .kLambda, p⟩ :: (ts ++ ⟨.punct .colon, q⟩ :: us))) ps e)
  | conditional {ts us vs : List Token} {b t o : Expr} (p q : Span) (body : Phrase (.expr .disjunction) ts b)
      (test : Phrase (.expr .disjunction) us t) (orelse : Phrase (.expr .expression) vs o) :
      Phrase (.expr .expression) (ts ++ ⟨.word .kIf, p⟩ :: (us ++ ⟨.word .kElse, q⟩ :: vs))
        (.ifExp (spanOf (ts ++ ⟨.word .kIf, p⟩ :: (us ++ ⟨.word .kElse, q⟩ :: vs))) t b o)
  | assigned {ts : List Token} {e : Expr} (w : List Char) (p q : Span) (value : Phrase (.expr .expression) ts e) :
      Phrase (.expr .named) (⟨.name w, p⟩ :: ⟨.punct .colonEqual, q⟩ :: ts)
        (.named (spanOf (⟨.name w, p⟩ :: ⟨.punct .colonEqual, q⟩ :: ts))
          (.name p (Text.ofChars (Text.normalForm w)) .store) e)
  -- The parts of chains.
  | noLink : Phrase .links [] []
  | link {os ts us : List Token} {op : CompareOp} {e : Expr} {ls : List (CompareOp × Expr)} (operator : Comparator os op)
      (operand : Phrase (.expr .bitOr) ts e) (rest : Phrase .links us ls) : Phrase .links (os ++ (ts ++ us)) ((op, e) :: ls)
  | noOperand {w : Reserved} {l : Level} : Phrase (.operands w l) [] []
  | operand {w : Reserved} {l : Level} {ts us : List Token} {e : Expr} {es : List Expr} (p : Span)
      (first : Phrase (.expr l) ts e) (rest : Phrase (.operands w l) us es) :
      Phrase (.operands w l) (⟨.word w, p⟩ :: (ts ++ us)) (e :: es)
  -- Lists of expressions.
  | plain {k : Element} {ts : List Token} {e : Expr} (inner : Phrase (.expr k.level) ts e) : Phrase (.element k) ts e
  | starred {k : Element} {l : Level} {ts : List Token} {e : Expr} (p : Span) (h : k.starLevel = some l)
      (inner : Phrase (.expr l) ts e) :
      Phrase (.element k) (⟨.punct .star, p⟩ :: ts) (.starred (spanOf (⟨.punct .star, p⟩ :: ts)) e .load)
  | slice {ts us vs : List Token} {lower upper step : Option Expr} (p : Span) (first : Phrase .bound ts lower)
      (second : Phrase .bound us upper) (third : Phrase .stride vs step) :
      Phrase (.element .index) (ts ++ ⟨.punct .colon, p⟩ :: (us ++ vs))
        (.slice (spanOf (ts ++ ⟨.punct .colon, p⟩ :: (us ++ vs))) lower upper step)
  | noElement {k : Element} : Phrase (.elements k) [] []
  | furtherElement {k : Element} {ts us : List Token} {e : Expr} {es : List Expr} (p : Span) (first : Phrase (.element k) ts e)
      (rest : Phrase (.elements k) us es) : Phrase (.elements k) (⟨.punct .comma, p⟩ :: (ts ++ us)) (e :: es)
  | series {k : Element} {ts us cs : List Token} {e : Expr} {es : List Expr} (first : Phrase (.element k) ts e)
      (rest : Phrase (.elements k) us es) (comma : Trailing cs) :
      Phrase (.series k) (ts ++ (us ++ cs)) (e :: es, !(us ++ cs).isEmpty)
  | alone {k : Element} {ts : List Token} {e : Expr} (inner : Phrase (.element k) ts e) : Phrase (.tupled k) ts e
  | together {k : Element} {ts : List Token} {es : List Expr} (inner : Phrase (.series k) ts (es, true)) :
      Phrase (.tupled k) ts (.tuple (spanOf ts) es .load)
  | noBound : Phrase .bound [] none
  | bound {ts : List Token} {e : Expr} (inner : Phrase (.expr .expression) ts e) : Phrase .bound ts (some e)
  | noStride : Phrase .stride [] none
  | stride {ts : List Token} {e : Option Expr} (p : Span) (inner : Phrase .bound ts e) :
      Phrase .stride (⟨.punct .colon, p⟩ :: ts) e
  | index {ts : List Token} {e : Expr} (inner : Phrase (.element .index) ts e) (h : isStarred e = false) :
      Phrase .subscripts ts e
  | indices {ts : List Token} {es : List Expr} {comma : Bool} (inner : Phrase (.series .index) ts (es, comma))
      (h : comma = true ∨ ∀ e ∈ es, isStarred e = true) : Phrase .subscripts ts (.tuple (spanOf ts) es .load)
  -- `yield`.
  | yieldNone (p : Span) : Phrase .yielding [⟨.word .kYield, p⟩] (.yield (spanOf [⟨.word .kYield, p⟩]) none)
  | yieldValue {ts : List Token} {e : Expr} (p : Span) (value : Phrase (.tupled .expression) ts e) :
      Phrase .yielding (⟨.word .kYield, p⟩ :: ts) (.yield (spanOf (⟨.word .kYield, p⟩ :: ts)) (some e))
  | yieldFrom {ts : List Token} {e : Expr} (p q : Span) (value : Phrase (.expr .expression) ts e) :
      Phrase .yielding (⟨.word .kYield, p⟩ :: ⟨.word .kFrom, q⟩ :: ts)
        (.yieldFrom (spanOf (⟨.word .kYield, p⟩ :: ⟨.word .kFrom, q⟩ :: ts)) e)
  -- Comprehensions and dictionaries.
  | clause {as ts us vs : List Token} {isAsync : Bool} {e t i : Expr} {ifs : List Expr} (p q : Span)
      (mark : Mark (.word .kAsync) as isAsync) (targets : Phrase (.tupled .target) ts e) (h : e.toTarget? .store = some t)
      (iter : Phrase (.expr .disjunction) us i) (tests : Phrase .conditions vs ifs) :
      Phrase .clause (as ++ ⟨.word .kFor, p⟩ :: (ts ++ ⟨.word .kIn, q⟩ :: (us ++ vs))) (.mk t i ifs isAsync)
  | noClause : Phrase .clauses [] []
  | furtherClause {ts us : List Token} {g : Comprehension} {gs : List Comprehension} (first : Phrase .clause ts g)
      (rest : Phrase .clauses us gs) : Phrase .clauses (ts ++ us) (g :: gs)
  | noCondition : Phrase .conditions [] []
  | condition {ts us : List Token} {e : Expr} {es : List Expr} (p : Span) (first : Phrase (.expr .disjunction) ts e)
      (rest : Phrase .conditions us es) : Phrase .conditions (⟨.word .kIf, p⟩ :: (ts ++ us)) (e :: es)
  | entry {ts us : List Token} {k v : Expr} (p : Span) (key : Phrase (.expr .expression) ts k)
      (value : Phrase (.expr .expression) us v) : Phrase .pair (ts ++ ⟨.punct .colon, p⟩ :: us) (some k, v)
  | unpacked {ts : List Token} {v : Expr} (p : Span) (value : Phrase (.expr .bitOr) ts v) :
      Phrase .pair (⟨.punct .doubleStar, p⟩ :: ts) (none, v)
  | noPair : Phrase .pairs [] []
  | furtherPair {ts us : List Token} {i : Option Expr × Expr} {is : List (Option Expr × Expr)} (p : Span)
      (first : Phrase .pair ts i) (rest : Phrase .pairs us is) :
      Phrase .pairs (⟨.punct .comma, p⟩ :: (ts ++ us)) (i :: is)
  -- Arguments.
  | positional {ts : List Token} {e : Expr} (value : Phrase (.expr .named) ts e) : Phrase .argument ts (.inl e)
  | starredArgument {ts : List Token} {e : Expr} (p : Span) (value : Phrase (.expr .expression) ts e) :
      Phrase .argument (⟨.punct .star, p⟩ :: ts) (.inl (.starred (spanOf (⟨.punct .star, p⟩ :: ts)) e .load))
  | keyword {ts : List Token} {e : Expr} (w : List Char) (p q : Span) (value : Phrase (.expr .expression) ts e) :
      Phrase .argument (⟨.name w, p⟩ :: ⟨.punct .equal, q⟩ :: ts)
        (.inr (.mk (spanOf (⟨.name w, p⟩ :: ⟨.punct .equal, q⟩ :: ts)) (some (Text.ofChars (Text.normalForm w))) e))
  | mapping {ts : List Token} {e : Expr} (p : Span) (value : Phrase (.expr .expression) ts e) :
      Phrase .argument (⟨.punct .doubleStar, p⟩ :: ts) (.inr (.mk (spanOf (⟨.punct .doubleStar, p⟩ :: ts)) none e))
  | noArgument : Phrase .furtherArguments [] []
  | furtherArgument {ts us : List Token} {a : Expr ⊕ Keyword} {as : List (Expr ⊕ Keyword)} (p : Span)
      (first : Phrase .argument ts a) (rest : Phrase .furtherArguments us as) :
      Phrase .furtherArguments (⟨.punct .comma, p⟩ :: (ts ++ us)) (a :: as)
  | argumentList {ts us cs : List Token} {a : Expr ⊕ Keyword} {as : List (Expr ⊕ Keyword)} {all : Arguments}
      (first : Phrase .argument ts a) (rest : Phrase .furtherArguments us as) (comma : Trailing cs)
      (h : (a :: as).foldlM Arguments.add? ⟨.positional, [], []⟩ = some all) :
      Phrase .argumentList (ts ++ (us ++ cs)) (all.args.reverse, all.keywords.reverse)
  | noArguments (p q : Span) : Phrase .callArguments [⟨.punct .leftParen, p⟩, ⟨.punct .rightParen, q⟩] ([], [])
  | arguments {ts : List Token} {as : List Expr × List Keyword} (p q : Span) (inner : Phrase .argumentList ts as) :
      Phrase .callArguments (⟨.punct .leftParen, p⟩ :: (ts ++ [⟨.punct .rightParen, q⟩])) as
  | generatorArgument {ts us : List Token} {e : Expr} {gs : List Comprehension} (p q : Span)
      (elt : Phrase (.expr .named) ts e) (for_ : Phrase .clauses us gs) (some_clause : gs ≠ []) :
      Phrase .callArguments (⟨.punct .leftParen, p⟩ :: (ts ++ (us ++ [⟨.punct .rightParen, q⟩])))
        ([.generator (spanOf (⟨.punct .leftParen, p⟩ :: (ts ++ (us ++ [⟨.punct .rightParen, q⟩])))) e gs], [])
  -- Parameters.
  | noAnnot {starred : Bool} : Phrase (.annot starred) [] none
  | annot {ts : List Token} {e : Expr} (p : Span) (inner : Phrase (.expr .expression) ts e) :
      Phrase (.annot false) (⟨.punct .colon, p⟩ :: ts) (some e)
  | starredAnnot {ts : List Token} {e : Expr} (p : Span) (inner : Phrase (.element .expression) ts e) :
      Phrase (.annot true) (⟨.punct .colon, p⟩ :: ts) (some e)
  | param {typed starred : Bool} {ts : List Token} {a : Option Expr} (w : List Char) (p : Span)
      (inner : Phrase (.annot starred) ts a) (h : typed = false → a = none) :
      Phrase (.param typed starred) (⟨.name w, p⟩ :: ts)
        (.mk (spanOf (⟨.name w, p⟩ :: ts)) (Text.ofChars (Text.normalForm w)) a)
  | slashItem {typed : Bool} (p : Span) : Phrase (.paramItem typed) [⟨.punct .slash, p⟩] .slash
  | starItem {typed : Bool} (p : Span) : Phrase (.paramItem typed) [⟨.punct .star, p⟩] .star
  | starredItem {typed : Bool} {ts : List Token} {n : Param} (p : Span) (inner : Phrase (.param typed true) ts n) :
      Phrase (.paramItem typed) (⟨.punct .star, p⟩ :: ts) (.starred n)
  | doubleStarredItem {typed : Bool} {ts : List Token} {n : Param} (p : Span) (inner : Phrase (.param typed false) ts n) :
      Phrase (.paramItem typed) (⟨.punct .doubleStar, p⟩ :: ts) (.doubleStarred n)
  | plainItem {typed : Bool} {ts : List Token} {n : Param} (inner : Phrase (.param typed false) ts n) :
      Phrase (.paramItem typed) ts (.plain n none)
  | defaultItem {typed : Bool} {ts us : List Token} {n : Param} {e : Expr} (p : Span) (inner : Phrase (.param typed false) ts n)
      (value : Phrase (.expr .expression) us e) :
      Phrase (.paramItem typed) (ts ++ ⟨.punct .equal, p⟩ :: us) (.plain n (some e))
  | noItem {typed : Bool} : Phrase (.paramItems typed) [] []
  | furtherItem {typed : Bool} {ts us : List Token} {i : ParamItem} {is : List ParamItem} (p : Span)
      (first : Phrase (.paramItem typed) ts i) (rest : Phrase (.paramItems typed) us is) :
      Phrase (.paramItems typed) (⟨.punct .comma, p⟩ :: (ts ++ us)) (i :: is)
  | noParams {typed : Bool} : Phrase (.params typed) [] (.mk [] [] none [] [] none [])
  | params {typed : Bool} {ts us cs : List Token} {i : ParamItem} {is : List ParamItem} {ps : Params}
      (first : Phrase (.paramItem typed) ts i) (rest : Phrase (.paramItems typed) us is) (comma : Trailing cs)
      (h : assembleParams (i :: is) = some ps) : Phrase (.params typed) (ts ++ (us ++ cs)) ps

end CallLint.Source

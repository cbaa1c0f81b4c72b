import CallLint.Proofs.Source.PatternPhrase
import CallLint.Source.Grammar.Stmt

/-!
# Statements as phrases

The grammar of statements as a relation over that of expressions and patterns. Simple statements do not contain others, so they have
a relation of their own; compound statements and blocks are the forms of `StmtPhrase`. The span of a definition does not include its
decorators.
-/

namespace CallLint.Source

open Parse Grammar

section Lists

variable {α : Type}

/-- Something behind a token, both left out or not. -/
inductive Behind (k : TokenKind) (P : List Token → α → Prop) : List Token → Option α → Prop where
  | none : Behind k P [] none
  | some {ts : List Token} {a : α} (p : Span) (h : P ts a) : Behind k P (⟨k, p⟩ :: ts) (some a)

/-- Things, each behind a token. -/
inductive Each (k : TokenKind) (P : List Token → α → Prop) : List Token → List α → Prop where
  | nil : Each k P [] []
  | cons {ts us : List Token} {a : α} {as : List α} (p : Span) (first : P ts a) (rest : Each k P us as) :
      Each k P (⟨k, p⟩ :: (ts ++ us)) (a :: as)

/-- One or more things with a token between them. -/
inductive Listed (k : TokenKind) (P : List Token → α → Prop) : List Token → List α → Prop where
  | mk {ts us : List Token} {a : α} {as : List α} (first : P ts a) (rest : Each k P us as) : Listed k P (ts ++ us) (a :: as)

end Lists

/-! ### Simple statements -/

/-- A name in its normal form. -/
inductive NamePhrase : List Token → Text → Prop where
  | mk (w : List Char) (p : Span) : NamePhrase [⟨.name w, p⟩] (Text.ofChars (Text.normalForm w))

/-- The name of a module, with dots. -/
inductive ModuleName : List Token → Text → Prop where
  | mk {ts : List Token} {ns : List Text} (h : Listed (.punct .dot) NamePhrase ts ns) : ModuleName ts (joinDots ns)

/-- A name that is imported, with its local name. -/
inductive AliasPhrase (P : List Token → Text → Prop) : List Token → Alias → Prop where
  | mk {ts us : List Token} {n : Text} {a : Option Text} (imported : P ts n) (asname : Behind (.word .kAs) NamePhrase us a) :
      AliasPhrase P (ts ++ us) ⟨spanOf (ts ++ us), n, a⟩

/-- The dots before the name of a module, and how many there are. -/
inductive ImportLevel : List Token → Nat → Prop where
  | none : ImportLevel [] 0
  | dot {ts : List Token} {n : Nat} (p : Span) (rest : ImportLevel ts n) : ImportLevel (⟨.punct .dot, p⟩ :: ts) (1 + n)
  | ellipsis {ts : List Token} {n : Nat} (p : Span) (rest : ImportLevel ts n) : ImportLevel (⟨.punct .ellipsis, p⟩ :: ts) (3 + n)

/-- The names that are imported from a module. -/
inductive ImportedNames : List Token → List Alias → Prop where
  | star (p : Span) : ImportedNames [⟨.punct .star, p⟩] [⟨spanOf [⟨.punct .star, p⟩], [.scalar '*'], none⟩]
  | parens {ts cs : List Token} {ns : List Alias} (p q : Span) (names : Listed (.punct .comma) (AliasPhrase NamePhrase) ts ns)
      (comma : Trailing cs) : ImportedNames (⟨.punct .leftParen, p⟩ :: (ts ++ (cs ++ [⟨.punct .rightParen, q⟩]))) ns
  | plain {ts : List Token} {ns : List Alias} (names : Listed (.punct .comma) (AliasPhrase NamePhrase) ts ns) : ImportedNames ts ns

/-- What may stand to the right of an assignment. -/
inductive AssignedPhrase : List Token → Expr → Prop where
  | yielding {ts : List Token} {e : Expr} (h : Phrase .yielding ts e) : AssignedPhrase ts e
  | expressions {ts : List Token} {e : Expr} (h : Phrase (.tupled .expression) ts e) : AssignedPhrase ts e

/-- Targets, each before an equals sign. -/
inductive TargetsPhrase : List Token → List Expr → Prop where
  | nil : TargetsPhrase [] []
  | cons {ts us : List Token} {e t : Expr} {rest : List Expr} (p : Span) (first : Phrase (.tupled .expression) ts e)
      (h : e.toTarget? .store = some t) (further : TargetsPhrase us rest) :
      TargetsPhrase (ts ++ ⟨.punct .equal, p⟩ :: us) (t :: rest)

/-- The statements of one word. -/
def wordStmt? : Reserved → Option (Span → Stmt)
  | .kPass => some .passStmt
  | .kBreak => some .breakStmt
  | .kContinue => some .continueStmt
  | _ => none

/-- The statements that declare names. -/
def declaration? : Reserved → Option (Span → List Text → Stmt)
  | .kGlobal => some .globalStmt
  | .kNonlocal => some .nonlocalStmt
  | _ => none

/-- Whether a colon is the second of some tokens. -/
def colonSecond (ts : List Token) : Bool := (ts[1]?.map (·.kind)).getD .stop == .punct .colon

/-- Simple statements. -/
inductive SimplePhrase : List Token → Stmt → Prop where
  | word {w : Reserved} {f : Span → Stmt} (p : Span) (h : wordStmt? w = some f) : SimplePhrase [⟨.word w, p⟩] (f p)
  | declaration {w : Reserved} {f : Span → List Text → Stmt} {ts : List Token} {ns : List Text} (p : Span)
      (h : declaration? w = some f) (names : Listed (.punct .comma) NamePhrase ts ns) :
      SimplePhrase (⟨.word w, p⟩ :: ts) (f (spanOf (⟨.word w, p⟩ :: ts)) ns)
  | returnNone (p : Span) : SimplePhrase [⟨.word .kReturn, p⟩] (.returnStmt (spanOf [⟨.word .kReturn, p⟩]) none)
  | returnValue {ts : List Token} {e : Expr} (p : Span) (value : Phrase (.tupled .expression) ts e) :
      SimplePhrase (⟨.word .kReturn, p⟩ :: ts) (.returnStmt (spanOf (⟨.word .kReturn, p⟩ :: ts)) (some e))
  | importModules {ts : List Token} {ns : List Alias} (p : Span) (names : Listed (.punct .comma) (AliasPhrase ModuleName) ts ns) :
      SimplePhrase (⟨.word .kImport, p⟩ :: ts) (.importStmt (spanOf (⟨.word .kImport, p⟩ :: ts)) ns)
  | importFrom {ls ms ts : List Token} {l : Nat} {m : Text} {ns : List Alias} (p q : Span) (level : ImportLevel ls l)
      (source : ModuleName ms m) (names : ImportedNames ts ns) :
      SimplePhrase (⟨.word .kFrom, p⟩ :: (ls ++ (ms ++ ⟨.word .kImport, q⟩ :: ts)))
        (.importFrom (spanOf (⟨.word .kFrom, p⟩ :: (ls ++ (ms ++ ⟨.word .kImport, q⟩ :: ts)))) (some m) ns l)
  | importRelative {ls ts : List Token} {l : Nat} {ns : List Alias} (p q : Span) (level : ImportLevel ls l) (some_dot : l ≠ 0)
      (names : ImportedNames ts ns) :
      SimplePhrase (⟨.word .kFrom, p⟩ :: (ls ++ ⟨.word .kImport, q⟩ :: ts))
        (.importFrom (spanOf (⟨.word .kFrom, p⟩ :: (ls ++ ⟨.word .kImport, q⟩ :: ts))) none ns l)
  | raiseNone (p : Span) : SimplePhrase [⟨.word .kRaise, p⟩] (.raiseStmt (spanOf [⟨.word .kRaise, p⟩]) none none)
  | raiseValue {ts us : List Token} {e : Expr} {c : Option Expr} (p : Span) (exc : Phrase (.expr .expression) ts e)
      (cause : Behind (.word .kFrom) (Phrase (.expr .expression)) us c) :
      SimplePhrase (⟨.word .kRaise, p⟩ :: (ts ++ us)) (.raiseStmt (spanOf (⟨.word .kRaise, p⟩ :: (ts ++ us))) (some e) c)
  | delete {ts : List Token} {es targets : List Expr} {comma : Bool} (p : Span) (values : Phrase (.series .operand) ts (es, comma))
      (h : Expr.toTargets? .del es = some targets) :
      SimplePhrase (⟨.word .kDel, p⟩ :: ts) (.delete (spanOf (⟨.word .kDel, p⟩ :: ts)) targets)
  | assertion {ts us : List Token} {e : Expr} {m : Option Expr} (p : Span) (test : Phrase (.expr .expression) ts e)
      (msg : Behind (.punct .comma) (Phrase (.expr .expression)) us m) :
      SimplePhrase (⟨.word .kAssert, p⟩ :: (ts ++ us)) (.assertStmt (spanOf (⟨.word .kAssert, p⟩ :: (ts ++ us))) e m)
  | expression {ts : List Token} {e : Expr} (h : AssignedPhrase ts e) : SimplePhrase ts (.exprStmt (spanOf ts) e)
  | augmented {ts us : List Token} {e t v : Expr} {k : TokenKind} {op : BinOp} (p : Span)
      (target : Phrase (.tupled .expression) ts e) (h : e.toSingleTarget? = some t) (operator : augmentedOp? k = some op)
      (value : AssignedPhrase us v) :
      SimplePhrase (ts ++ ⟨k, p⟩ :: us) (.augAssign (spanOf (ts ++ ⟨k, p⟩ :: us)) t op v)
  | annotated {ts us vs : List Token} {e t a : Expr} {v : Option Expr} (p : Span) (target : Phrase (.tupled .expression) ts e)
      (h : e.toSingleTarget? = some t) (annot : Phrase (.expr .expression) us a)
      (value : Behind (.punct .equal) AssignedPhrase vs v) :
      SimplePhrase (ts ++ ⟨.punct .colon, p⟩ :: (us ++ vs))
        (.annAssign (spanOf (ts ++ ⟨.punct .colon, p⟩ :: (us ++ vs))) t a v (colonSecond (ts ++ [⟨.punct .colon, p⟩])))
  | assign {ts us : List Token} {t v : Expr} {further : List Expr} (targets : TargetsPhrase ts (t :: further))
      (value : AssignedPhrase us v) : SimplePhrase (ts ++ us) (.assign (spanOf (ts ++ us)) t further v)

/-- The simple statements of a line. -/
inductive LinePhrase : List Token → List Stmt → Prop where
  | mk {ts cs : List Token} {ss : List Stmt} {b : Bool} (p : Span) (stmts : Listed (.punct .semicolon) SimplePhrase ts ss)
      (semicolon : Mark (.punct .semicolon) cs b) : LinePhrase (ts ++ (cs ++ [⟨.newline, p⟩])) ss

/-! ### Compound statements -/

/-- A context manager with its target. -/
inductive WithItemPhrase : List Token → WithItem → Prop where
  | bare {ts : List Token} {e : Expr} (context : Phrase (.expr .expression) ts e) : WithItemPhrase ts ⟨e, none⟩
  | bound {ts us : List Token} {e x t : Expr} (p : Span) (context : Phrase (.expr .expression) ts e)
      (target : Phrase (.element .target) us x) (h : x.toTarget? .store = some t) :
      WithItemPhrase (ts ++ ⟨.word .kAs, p⟩ :: us) ⟨e, some t⟩

/-- The context managers of a `with` statement, in parentheses or not. -/
inductive WithItems : List Token → List WithItem → Prop where
  | parens {ts cs : List Token} {is : List WithItem} (p q : Span) (items : Listed (.punct .comma) WithItemPhrase ts is)
      (comma : Trailing cs) : WithItems (⟨.punct .leftParen, p⟩ :: (ts ++ (cs ++ [⟨.punct .rightParen, q⟩]))) is
  | plain {ts : List Token} {is : List WithItem} (items : Listed (.punct .comma) WithItemPhrase ts is) : WithItems ts is

/-- The arguments of a class definition, with their parentheses if there are any. -/
inductive BasesPhrase : List Token → List Expr × List Keyword → Prop where
  | none : BasesPhrase [] ([], [])
  | empty (p q : Span) : BasesPhrase [⟨.punct .leftParen, p⟩, ⟨.punct .rightParen, q⟩] ([], [])
  | some {ts : List Token} {as : List Expr × List Keyword} (p q : Span) (inner : Phrase .argumentList ts as) :
      BasesPhrase (⟨.punct .leftParen, p⟩ :: (ts ++ [⟨.punct .rightParen, q⟩])) as

/-- Decorators, each on its line. -/
inductive Decorators : List Token → List Expr → Prop where
  | nil : Decorators [] []
  | cons {ts us : List Token} {e : Expr} {es : List Expr} (p q : Span) (first : Phrase (.expr .named) ts e)
      (rest : Decorators us es) : Decorators (⟨.punct .at, p⟩ :: (ts ++ ⟨.newline, q⟩ :: us)) (e :: es)

/-- The forms of statements. -/
inductive StmtForm where
  /-- A compound statement, or the simple statements of a line. -/
  | statement
  | statements
  /-- What stands behind the colon of a compound statement. -/
  | block
  /-- A compound statement. -/
  | compound
  /-- A definition behind its decorators. -/
  | definition (decorators : List Expr)
  /-- A block behind a word and a colon, all left out or not. -/
  | orelse (w : Reserved)
  /-- What follows the first branch of a conditional. -/
  | branches
  /-- A handler, for groups or not. -/
  | handler (star : Bool)
  | handlers (star : Bool)
  | case
  | cases

/-- What statements of a form stand for. -/
@[reducible] def StmtForm.Value : StmtForm → Type
  | statement | statements | block | orelse _ | branches => List Stmt
  | compound | definition _ => Stmt
  | handler _ => Handler
  | handlers _ => List Handler
  | case => Case
  | cases => List Case

/-- The tokens of statements, their form, and what they stand for. -/
inductive StmtPhrase : (f : StmtForm) → List Token → f.Value → Prop where
  -- Lines and blocks.
  | line {ts : List Token} {ss : List Stmt} (h : LinePhrase ts ss) : StmtPhrase .statement ts ss
  | compound {ts : List Token} {s : Stmt} (h : StmtPhrase .compound ts s) : StmtPhrase .statement ts [s]
  | noStatement : StmtPhrase .statements [] []
  | furtherStatement {ts us : List Token} {ss rs : List Stmt} (first : StmtPhrase .statement ts ss)
      (rest : StmtPhrase .statements us rs) : StmtPhrase .statements (ts ++ us) (ss ++ rs)
  | inline {ts : List Token} {ss : List Stmt} (h : LinePhrase ts ss) : StmtPhrase .block ts ss
  | indented {ts us : List Token} {ss rs : List Stmt} (p q r : Span) (first : StmtPhrase .statement ts ss)
      (rest : StmtPhrase .statements us rs) :
      StmtPhrase .block (⟨.newline, p⟩ :: ⟨.indent, q⟩ :: (ts ++ (us ++ [⟨.dedent, r⟩]))) (ss ++ rs)
  | noOrelse {w : Reserved} : StmtPhrase (.orelse w) [] []
  | orelse {w : Reserved} {ts : List Token} {ss : List Stmt} (p q : Span) (body : StmtPhrase .block ts ss) :
      StmtPhrase (.orelse w) (⟨.word w, p⟩ :: ⟨.punct .colon, q⟩ :: ts) ss
  -- Definitions.
  | definition {ts us : List Token} {es : List Expr} {s : Stmt} (decorators : Decorators ts es)
      (inner : StmtPhrase (.definition es) us s) : StmtPhrase .compound (ts ++ us) s
  | function {as ts rs bs : List Token} {es : List Expr} {isAsync : Bool} {ps : Params} {r : Option Expr} {body : List Stmt}
      (w : List Char) (p q o c d : Span) (mark : Mark (.word .kAsync) as isAsync) (parameters : Phrase (.params true) ts ps)
      (returns : Behind (.punct .arrow) (Phrase (.expr .expression)) rs r) (block : StmtPhrase .block bs body) :
      StmtPhrase (.definition es)
        (as ++ ⟨.word .kDef, p⟩ :: ⟨.name w, q⟩ :: ⟨.punct .leftParen, o⟩ ::
          (ts ++ ⟨.punct .rightParen, c⟩ :: (rs ++ ⟨.punct .colon, d⟩ :: bs)))
        (.functionDef
          (spanOf (as ++ ⟨.word .kDef, p⟩ :: ⟨.name w, q⟩ :: ⟨.punct .leftParen, o⟩ ::
            (ts ++ ⟨.punct .rightParen, c⟩ :: (rs ++ ⟨.punct .colon, d⟩ :: bs))))
          isAsync (Text.ofChars (Text.normalForm w)) ps body es r)
  | ofClass {ts bs : List Token} {es : List Expr} {as : List Expr × List Keyword} {body : List Stmt} (w : List Char) (p q d : Span)
      (bases : BasesPhrase ts as) (block : StmtPhrase .block bs body) :
      StmtPhrase (.definition es) (⟨.word .kClass, p⟩ :: ⟨.name w, q⟩ :: (ts ++ ⟨.punct .colon, d⟩ :: bs))
        (.classDef (spanOf (⟨.word .kClass, p⟩ :: ⟨.name w, q⟩ :: (ts ++ ⟨.punct .colon, d⟩ :: bs)))
          (Text.ofChars (Text.normalForm w)) as.1 as.2 body es)
  -- Conditionals: each further branch is a conditional inside the one before.
  | conditional {ts bs us : List Token} {e : Expr} {body rest : List Stmt} (p d : Span) (test : Phrase (.expr .named) ts e)
      (block : StmtPhrase .block bs body) (further : StmtPhrase .branches us rest) :
      StmtPhrase .compound (⟨.word .kIf, p⟩ :: (ts ++ ⟨.punct .colon, d⟩ :: (bs ++ us)))
        (.ifStmt (spanOf (⟨.word .kIf, p⟩ :: (ts ++ ⟨.punct .colon, d⟩ :: (bs ++ us)))) e body rest)
  | lastBranch {ts : List Token} {ss : List Stmt} (h : StmtPhrase (.orelse .kElse) ts ss) : StmtPhrase .branches ts ss
  | branch {ts bs us : List Token} {e : Expr} {body rest : List Stmt} (p d : Span) (test : Phrase (.expr .named) ts e)
      (block : StmtPhrase .block bs body) (further : StmtPhrase .branches us rest) :
      StmtPhrase .branches (⟨.word .kElif, p⟩ :: (ts ++ ⟨.punct .colon, d⟩ :: (bs ++ us)))
        [.ifStmt (spanOf (⟨.word .kElif, p⟩ :: (ts ++ ⟨.punct .colon, d⟩ :: (bs ++ us)))) e body rest]
  -- Loops.
  | whileLoop {ts bs us : List Token} {e : Expr} {body rest : List Stmt} (p d : Span) (test : Phrase (.expr .named) ts e)
      (block : StmtPhrase .block bs body) (orelse : StmtPhrase (.orelse .kElse) us rest) :
      StmtPhrase .compound (⟨.word .kWhile, p⟩ :: (ts ++ ⟨.punct .colon, d⟩ :: (bs ++ us)))
        (.whileStmt (spanOf (⟨.word .kWhile, p⟩ :: (ts ++ ⟨.punct .colon, d⟩ :: (bs ++ us)))) e body rest)
  | forLoop {as ts us bs vs : List Token} {isAsync : Bool} {e t i : Expr} {body rest : List Stmt} (p q d : Span)
      (mark : Mark (.word .kAsync) as isAsync) (targets : Phrase (.tupled .target) ts e) (h : e.toTarget? .store = some t)
      (iter : Phrase (.tupled .expression) us i) (block : StmtPhrase .block bs body)
      (orelse : StmtPhrase (.orelse .kElse) vs rest) :
      StmtPhrase .compound (as ++ ⟨.word .kFor, p⟩ :: (ts ++ ⟨.word .kIn, q⟩ :: (us ++ ⟨.punct .colon, d⟩ :: (bs ++ vs))))
        (.forStmt (spanOf (as ++ ⟨.word .kFor, p⟩ :: (ts ++ ⟨.word .kIn, q⟩ :: (us ++ ⟨.punct .colon, d⟩ :: (bs ++ vs)))))
          isAsync t i body rest)
  -- Context managers.
  | withBlock {as ts bs : List Token} {isAsync : Bool} {is : List WithItem} {body : List Stmt} (p d : Span)
      (mark : Mark (.word .kAsync) as isAsync) (items : WithItems ts is) (block : StmtPhrase .block bs body) :
      StmtPhrase .compound (as ++ ⟨.word .kWith, p⟩ :: (ts ++ ⟨.punct .colon, d⟩ :: bs))
        (.withStmt (spanOf (as ++ ⟨.word .kWith, p⟩ :: (ts ++ ⟨.punct .colon, d⟩ :: bs))) isAsync is body)
  -- Exceptions.
  | tryExcept {bs hs us vs : List Token} {star : Bool} {body rest final : List Stmt} {handlers : List Handler} (p d : Span)
      (block : StmtPhrase .block bs body) (handled : StmtPhrase (.handlers star) hs handlers) (some_handler : handlers ≠ [])
      (orelse : StmtPhrase (.orelse .kElse) us rest) (finally_ : StmtPhrase (.orelse .kFinally) vs final) :
      StmtPhrase .compound (⟨.word .kTry, p⟩ :: ⟨.punct .colon, d⟩ :: (bs ++ (hs ++ (us ++ vs))))
        (.tryStmt (spanOf (⟨.word .kTry, p⟩ :: ⟨.punct .colon, d⟩ :: (bs ++ (hs ++ (us ++ vs))))) star body handlers rest final)
  | tryFinally {bs vs : List Token} {body final : List Stmt} (p d : Span) (block : StmtPhrase .block bs body)
      (finally_ : StmtPhrase (.orelse .kFinally) vs final) (some_finally : vs ≠ []) :
      StmtPhrase .compound (⟨.word .kTry, p⟩ :: ⟨.punct .colon, d⟩ :: (bs ++ vs))
        (.tryStmt (spanOf (⟨.word .kTry, p⟩ :: ⟨.punct .colon, d⟩ :: (bs ++ vs))) false body [] [] final)
  | catchAll {bs : List Token} {body : List Stmt} (p d : Span) (block : StmtPhrase .block bs body) :
      StmtPhrase (.handler false) (⟨.word .kExcept, p⟩ :: ⟨.punct .colon, d⟩ :: bs)
        (.mk (spanOf (⟨.word .kExcept, p⟩ :: ⟨.punct .colon, d⟩ :: bs)) none none body)
  | catch_ {ms ts us bs : List Token} {star : Bool} {e : Expr} {n : Option Text} {body : List Stmt} (p d : Span)
      (mark : Mark (.punct .star) ms star) (type : Phrase (.expr .expression) ts e)
      (asname : Behind (.word .kAs) NamePhrase us n) (block : StmtPhrase .block bs body) :
      StmtPhrase (.handler star) (⟨.word .kExcept, p⟩ :: (ms ++ (ts ++ (us ++ ⟨.punct .colon, d⟩ :: bs))))
        (.mk (spanOf (⟨.word .kExcept, p⟩ :: (ms ++ (ts ++ (us ++ ⟨.punct .colon, d⟩ :: bs))))) (some e) n body)
  | noHandler {star : Bool} : StmtPhrase (.handlers star) [] []
  | furtherHandler {star : Bool} {ts us : List Token} {h : Handler} {hs : List Handler} (first : StmtPhrase (.handler star) ts h)
      (rest : StmtPhrase (.handlers star) us hs) : StmtPhrase (.handlers star) (ts ++ us) (h :: hs)
  -- `match`.
  | matching {ts us vs : List Token} {e : Expr} {c : Case} {cs : List Case} (p d n i r : Span)
      (subject : Phrase (.tupled .named) ts e) (notStarred : isStarred e = false) (first : StmtPhrase .case us c)
      (rest : StmtPhrase .cases vs cs) :
      StmtPhrase .compound
        (⟨.name "match".toList, p⟩ :: (ts ++ ⟨.punct .colon, d⟩ :: ⟨.newline, n⟩ :: ⟨.indent, i⟩ :: (us ++ (vs ++ [⟨.dedent, r⟩]))))
        (.matchStmt
          (spanOf (⟨.name "match".toList, p⟩ ::
            (ts ++ ⟨.punct .colon, d⟩ :: ⟨.newline, n⟩ :: ⟨.indent, i⟩ :: (us ++ (vs ++ [⟨.dedent, r⟩])))))
          e (c :: cs))
  | case {ts us bs : List Token} {x : Pattern} {g : Option Expr} {body : List Stmt} (p d : Span)
      (pattern : PatternPhrase .case ts x) (guard : Behind (.word .kIf) (Phrase (.expr .named)) us g)
      (block : StmtPhrase .block bs body) :
      StmtPhrase .case (⟨.name "case".toList, p⟩ :: (ts ++ (us ++ ⟨.punct .colon, d⟩ :: bs))) (.mk x g body)
  | noCase : StmtPhrase .cases [] []
  | furtherCase {ts us : List Token} {c : Case} {cs : List Case} (first : StmtPhrase .case ts c)
      (rest : StmtPhrase .cases us cs) : StmtPhrase .cases (ts ++ us) (c :: cs)

end CallLint.Source

import CallLint.Source.Ast
import CallLint.Tree.Basic

/-!
# The tree of a parsed source

Analyses work on trees, which may also be made by hand; a parsed source becomes a tree in which every node has all
fields of its class and, where the class has one, a position.
-/

namespace CallLint.Source

open CallLint.Tree

/-- A node with a position. -/
def located (s : Span) (c : NodeClass) (fs : List (Field × Tree)) : Tree :=
  .node c (fs ++ [(.lineno, .int s.start.line), (.colOffset, .int s.start.column),
    (.endLineno, .int s.stop.line), (.endColOffset, .int s.stop.column)])

/-- A node without fields. -/
def marker (c : NodeClass) : Tree := .node c []

/-- An optional text. -/
def optText : Option Text → Tree
  | none => .null
  | some t => .text t

/-- The node of a context. -/
def Context.toTree : Context → Tree
  | .load => marker .load
  | .store => marker .store
  | .del => marker .del

/-- The node of a connective. -/
def BoolOp.toTree : BoolOp → Tree
  | .and => marker .andOp
  | .or => marker .orOp

/-- The node of a binary operator. -/
def BinOp.toTree : BinOp → Tree
  | .add => marker .addOp
  | .sub => marker .subOp
  | .mult => marker .multOp
  | .matMult => marker .matMultOp
  | .div => marker .divOp
  | .mod => marker .modOp
  | .pow => marker .powOp
  | .lShift => marker .lShiftOp
  | .rShift => marker .rShiftOp
  | .bitOr => marker .bitOrOp
  | .bitXor => marker .bitXorOp
  | .bitAnd => marker .bitAndOp
  | .floorDiv => marker .floorDivOp

/-- The node of a unary operator. -/
def UnaryOp.toTree : UnaryOp → Tree
  | .invert => marker .invertOp
  | .not => marker .notOp
  | .plus => marker .uAddOp
  | .minus => marker .uSubOp

/-- The node of a comparison operator. -/
def CompareOp.toTree : CompareOp → Tree
  | .eq => marker .eqOp
  | .notEq => marker .notEqOp
  | .lt => marker .ltOp
  | .ltE => marker .ltEOp
  | .gt => marker .gtOp
  | .gtE => marker .gtEOp
  | .is => marker .isOp
  | .isNot => marker .isNotOp
  | .contained => marker .inOp
  | .notContained => marker .notInOp

/-- The value of a constant. -/
def Literal.toTree : Literal → Tree
  | .none => .null
  | .bool b => .bool b
  | .ellipsis => .ellipsis
  | .int n => .int n
  | .real x => .real x
  | .imaginary x => .imaginary x
  | .text t => .text t
  | .bytes bs => .bytes bs

mutual

/-- The tree of an expression. -/
def Expr.toTree : Expr → Tree
  | .boolOp s op vs => located s .boolOp [(.op, op.toTree), (.values, .list (exprTrees vs))]
  | .named s t v => located s .namedExpr [(.target, t.toTree), (.value, v.toTree)]
  | .binOp s l op r => located s .binOp [(.left, l.toTree), (.op, op.toTree), (.right, r.toTree)]
  | .unaryOp s op e => located s .unaryOp [(.op, op.toTree), (.operand, e.toTree)]
  | .lambda s ps b => located s .lambda [(.args, ps.toTree), (.body, b.toTree)]
  | .ifExp s t b o => located s .ifExp [(.test, t.toTree), (.body, b.toTree), (.orelse, o.toTree)]
  | .dict s ks vs => located s .dict [(.keys, .list (optExprTrees ks)), (.values, .list (exprTrees vs))]
  | .set s es => located s .set [(.elts, .list (exprTrees es))]
  | .listComp s e gs => located s .listComp [(.elt, e.toTree), (.generators, .list (comprehensionTrees gs))]
  | .setComp s e gs => located s .setComp [(.elt, e.toTree), (.generators, .list (comprehensionTrees gs))]
  | .dictComp s k v gs =>
    located s .dictComp [(.key, k.toTree), (.value, v.toTree), (.generators, .list (comprehensionTrees gs))]
  | .generator s e gs => located s .generatorExp [(.elt, e.toTree), (.generators, .list (comprehensionTrees gs))]
  | .await s e => located s .await [(.value, e.toTree)]
  | .yield s e => located s .yield [(.value, optExprTree e)]
  | .yieldFrom s e => located s .yieldFrom [(.value, e.toTree)]
  | .compare s l ops cs =>
    located s .compare [(.left, l.toTree), (.ops, .list (ops.map CompareOp.toTree)),
      (.comparators, .list (exprTrees cs))]
  | .call s f as ks =>
    located s .call [(.func, f.toTree), (.args, .list (exprTrees as)), (.keywords, .list (keywordTrees ks))]
  | .formatted s e conversion spec =>
    located s .formattedValue [(.value, e.toTree), (.conversion, .int conversion), (.formatSpec, optExprTree spec)]
  | .joined s vs => located s .joinedStr [(.values, .list (exprTrees vs))]
  | .constant s v unicode =>
    located s .constant [(.value, v.toTree), (.kind, if unicode then .text [.scalar 'u'] else .null)]
  | .member s e a c => located s .member [(.value, e.toTree), (.attr, .text a), (.ctx, c.toTree)]
  | .subscript s e i c => located s .subscript [(.value, e.toTree), (.slice, i.toTree), (.ctx, c.toTree)]
  | .starred s e c => located s .starred [(.value, e.toTree), (.ctx, c.toTree)]
  | .name s i c => located s .name [(.id, .text i), (.ctx, c.toTree)]
  | .list s es c => located s .list [(.elts, .list (exprTrees es)), (.ctx, c.toTree)]
  | .tuple s es c => located s .tuple [(.elts, .list (exprTrees es)), (.ctx, c.toTree)]
  | .slice s l u t => located s .slice [(.lower, optExprTree l), (.upper, optExprTree u), (.step, optExprTree t)]

/-- The tree of a keyword argument. -/
def Keyword.toTree : Keyword → Tree
  | .mk s a v => located s .keyword [(.arg, optText a), (.value, v.toTree)]

/-- The tree of a clause of a comprehension. -/
def Comprehension.toTree : Comprehension → Tree
  | .mk t i ifs isAsync =>
    .node .comprehension [(.target, t.toTree), (.iter, i.toTree), (.ifs, .list (exprTrees ifs)),
      (.isAsync, .int (if isAsync then 1 else 0))]

/-- The tree of a parameter. -/
def Param.toTree : Param → Tree
  | .mk s n a => located s .arg [(.arg, .text n), (.annot, optExprTree a), (.typeComment, .null)]

/-- The tree of a parameter list. -/
def Params.toTree : Params → Tree
  | .mk posonly args vararg kwonly kwDefaults kwarg defaults =>
    .node .arguments [(.posonlyargs, .list (paramTrees posonly)), (.args, .list (paramTrees args)),
      (.vararg, optParamTree vararg), (.kwonlyargs, .list (paramTrees kwonly)),
      (.kwDefaults, .list (optExprTrees kwDefaults)), (.kwarg, optParamTree kwarg),
      (.defaults, .list (exprTrees defaults))]

/-- The trees of expressions. -/
def exprTrees : List Expr → List Tree
  | [] => []
  | e :: es => e.toTree :: exprTrees es

/-- The tree of an optional expression. -/
def optExprTree : Option Expr → Tree
  | none => .null
  | some e => e.toTree

/-- The trees of optional expressions. -/
def optExprTrees : List (Option Expr) → List Tree
  | [] => []
  | e :: es => optExprTree e :: optExprTrees es

/-- The trees of keyword arguments. -/
def keywordTrees : List Keyword → List Tree
  | [] => []
  | k :: ks => k.toTree :: keywordTrees ks

/-- The trees of clauses. -/
def comprehensionTrees : List Comprehension → List Tree
  | [] => []
  | g :: gs => g.toTree :: comprehensionTrees gs

/-- The trees of parameters. -/
def paramTrees : List Param → List Tree
  | [] => []
  | p :: ps => p.toTree :: paramTrees ps

/-- The tree of an optional parameter. -/
def optParamTree : Option Param → Tree
  | none => .null
  | some p => p.toTree

end

mutual

/-- The tree of a pattern. -/
def Pattern.toTree : Pattern → Tree
  | .value s e => located s .matchValue [(.value, e.toTree)]
  | .singleton s v => located s .matchSingleton [(.value, v.toTree)]
  | .sequence s ps => located s .matchSequence [(.patterns, .list (patternTrees ps))]
  | .mapping s ks ps rest =>
    located s .matchMapping [(.keys, .list (exprTrees ks)), (.patterns, .list (patternTrees ps)),
      (.rest, optText rest)]
  | .ofClass s c ps attrs aps =>
    located s .matchClass [(.cls, c.toTree), (.patterns, .list (patternTrees ps)),
      (.kwdAttrs, .list (attrs.map .text)), (.kwdPatterns, .list (patternTrees aps))]
  | .star s n => located s .matchStar [(.name, optText n)]
  | .alias s p n => located s .matchAs [(.pattern, optPatternTree p), (.name, optText n)]
  | .either s ps => located s .matchOr [(.patterns, .list (patternTrees ps))]

/-- The trees of patterns. -/
def patternTrees : List Pattern → List Tree
  | [] => []
  | p :: ps => p.toTree :: patternTrees ps

/-- The tree of an optional pattern. -/
def optPatternTree : Option Pattern → Tree
  | none => .null
  | some p => p.toTree

end

/-- The tree of a name in an import. -/
def Alias.toTree (a : Alias) : Tree :=
  located a.span .alias [(.name, .text a.name), (.asname, optText a.asname)]

/-- The tree of a context manager. -/
def WithItem.toTree (w : WithItem) : Tree :=
  .node .withitem [(.contextExpr, w.context.toTree), (.optionalVars, optExprTree w.target)]

mutual

/-- The tree of a statement. -/
def Stmt.toTree : Stmt → Tree
  | .functionDef s isAsync n ps b ds r =>
    located s (if isAsync then .asyncFunctionDef else .functionDef)
      [(.name, .text n), (.args, ps.toTree), (.body, .list (stmtTrees b)), (.decoratorList, .list (exprTrees ds)),
        (.returns, optExprTree r), (.typeComment, .null)]
  | .classDef s n bs ks b ds =>
    located s .classDef [(.name, .text n), (.bases, .list (exprTrees bs)), (.keywords, .list (keywordTrees ks)),
      (.body, .list (stmtTrees b)), (.decoratorList, .list (exprTrees ds))]
  | .returnStmt s e => located s .returnStmt [(.value, optExprTree e)]
  | .delete s ts => located s .deleteStmt [(.targets, .list (exprTrees ts))]
  | .assign s t ts e =>
    located s .assign [(.targets, .list (t.toTree :: exprTrees ts)), (.value, e.toTree), (.typeComment, .null)]
  | .augAssign s t op e => located s .augAssign [(.target, t.toTree), (.op, op.toTree), (.value, e.toTree)]
  | .annAssign s t a e simple =>
    located s .annAssign [(.target, t.toTree), (.annot, a.toTree), (.value, optExprTree e),
      (.simple, .int (if simple then 1 else 0))]
  | .forStmt s isAsync t i b o =>
    located s (if isAsync then .asyncFor else .forStmt)
      [(.target, t.toTree), (.iter, i.toTree), (.body, .list (stmtTrees b)), (.orelse, .list (stmtTrees o)),
        (.typeComment, .null)]
  | .whileStmt s t b o =>
    located s .whileStmt [(.test, t.toTree), (.body, .list (stmtTrees b)), (.orelse, .list (stmtTrees o))]
  | .ifStmt s t b o =>
    located s .ifStmt [(.test, t.toTree), (.body, .list (stmtTrees b)), (.orelse, .list (stmtTrees o))]
  | .withStmt s isAsync is b =>
    located s (if isAsync then .asyncWith else .withStmt)
      [(.items, .list (is.map WithItem.toTree)), (.body, .list (stmtTrees b)), (.typeComment, .null)]
  | .matchStmt s e cs => located s .matchStmt [(.subject, e.toTree), (.cases, .list (caseTrees cs))]
  | .raiseStmt s e c => located s .raiseStmt [(.exc, optExprTree e), (.cause, optExprTree c)]
  | .tryStmt s star b hs o f =>
    located s (if star then .tryStar else .tryStmt)
      [(.body, .list (stmtTrees b)), (.handlers, .list (handlerTrees hs)), (.orelse, .list (stmtTrees o)),
        (.finalbody, .list (stmtTrees f))]
  | .assertStmt s t m => located s .assertStmt [(.test, t.toTree), (.msg, optExprTree m)]
  | .importStmt s ns => located s .importStmt [(.names, .list (ns.map Alias.toTree))]
  | .importFrom s m ns level =>
    located s .importFrom [(.module, optText m), (.names, .list (ns.map Alias.toTree)), (.level, .int level)]
  | .globalStmt s ns => located s .globalStmt [(.names, .list (ns.map .text))]
  | .nonlocalStmt s ns => located s .nonlocalStmt [(.names, .list (ns.map .text))]
  | .exprStmt s e => located s .exprStmt [(.value, e.toTree)]
  | .passStmt s => located s .passStmt []
  | .breakStmt s => located s .breakStmt []
  | .continueStmt s => located s .continueStmt []

/-- The tree of a handler. -/
def Handler.toTree : Handler → Tree
  | .mk s t n b => located s .exceptHandler [(.excType, optExprTree t), (.name, optText n), (.body, .list (stmtTrees b))]

/-- The tree of a case. -/
def Case.toTree : Case → Tree
  | .mk p g b => .node .matchCase [(.pattern, p.toTree), (.guard, optExprTree g), (.body, .list (stmtTrees b))]

/-- The trees of statements. -/
def stmtTrees : List Stmt → List Tree
  | [] => []
  | s :: ss => s.toTree :: stmtTrees ss

/-- The trees of handlers. -/
def handlerTrees : List Handler → List Tree
  | [] => []
  | h :: hs => h.toTree :: handlerTrees hs

/-- The trees of cases. -/
def caseTrees : List Case → List Tree
  | [] => []
  | c :: cs => c.toTree :: caseTrees cs

end

/-- The tree of a parsed source. -/
def Program.toTree : Program → Tree
  | .module body => .node .module [(.body, .list (stmtTrees body)), (.typeIgnores, .list [])]
  | .expression body => .node .expression [(.body, body.toTree)]

end CallLint.Source

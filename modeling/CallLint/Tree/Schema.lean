/-!
# Node classes and their fields

The classes of syntax nodes of a module, and for each class its fields in the order in which they are visited.
A field may be optional, and then reads as absent; classes of statements, expressions and patterns carry a position.
-/

namespace CallLint.Tree

/-- The classes of syntax nodes. -/
inductive NodeClass where
  | module | interactive | expression | functionType | functionDef | asyncFunctionDef | classDef
  | returnStmt | deleteStmt | assign | augAssign | annAssign | forStmt | asyncFor | whileStmt | ifStmt
  | withStmt | asyncWith | matchStmt | raiseStmt | tryStmt | tryStar | assertStmt | importStmt | importFrom
  | globalStmt | nonlocalStmt | exprStmt | passStmt | breakStmt | continueStmt | boolOp | namedExpr | binOp
  | unaryOp | lambda | ifExp | dict | set | listComp | setComp | dictComp | generatorExp | await | yield
  | yieldFrom | compare | call | formattedValue | joinedStr | constant | member | subscript | starred
  | name | list | tuple | slice | matchValue | matchSingleton | matchSequence | matchMapping | matchClass
  | matchStar | matchAs | matchOr | load | store | del | andOp | orOp | addOp | subOp | multOp | matMultOp
  | divOp | modOp | powOp | lShiftOp | rShiftOp | bitOrOp | bitXorOp | bitAndOp | floorDivOp | invertOp
  | notOp | uAddOp | uSubOp | eqOp | notEqOp | ltOp | ltEOp | gtOp | gtEOp | isOp | isNotOp | inOp
  | notInOp | comprehension | exceptHandler | arguments | arg | keyword | alias | withitem | matchCase
deriving DecidableEq, Repr, Inhabited

/-- The fields and positions of nodes. -/
inductive Field where
  | body | typeIgnores | argtypes | returns | name | args | decoratorList | typeComment | bases | keywords
  | value | targets | target | op | annot | simple | iter | orelse | test | items | subject | cases
  | exc | cause | handlers | finalbody | msg | names | module | level | values | left | right | operand
  | keys | elts | elt | generators | key | ops | comparators | func | conversion | formatSpec | kind | attr
  | ctx | slice | id | lower | upper | step | patterns | rest | cls | kwdAttrs | kwdPatterns | pattern
  | ifs | isAsync | excType | posonlyargs | vararg | kwonlyargs | kwDefaults | kwarg | defaults | arg
  | asname | contextExpr | optionalVars | guard | lineno | colOffset | endLineno | endColOffset
deriving DecidableEq, Repr, Inhabited

/-- Every class with its label. -/
def NodeClass.labels : List (NodeClass × String) := [
  (.module, "Module"), (.interactive, "Interactive"), (.expression, "Expression"),
  (.functionType, "FunctionType"), (.functionDef, "FunctionDef"), (.asyncFunctionDef, "AsyncFunctionDef"),
  (.classDef, "ClassDef"), (.returnStmt, "Return"), (.deleteStmt, "Delete"), (.assign, "Assign"),
  (.augAssign, "AugAssign"), (.annAssign, "AnnAssign"), (.forStmt, "For"), (.asyncFor, "AsyncFor"),
  (.whileStmt, "While"), (.ifStmt, "If"), (.withStmt, "With"), (.asyncWith, "AsyncWith"),
  (.matchStmt, "Match"), (.raiseStmt, "Raise"), (.tryStmt, "Try"), (.tryStar, "TryStar"),
  (.assertStmt, "Assert"), (.importStmt, "Import"), (.importFrom, "ImportFrom"), (.globalStmt, "Global"),
  (.nonlocalStmt, "Nonlocal"), (.exprStmt, "Expr"), (.passStmt, "Pass"), (.breakStmt, "Break"),
  (.continueStmt, "Continue"), (.boolOp, "BoolOp"), (.namedExpr, "NamedExpr"), (.binOp, "BinOp"),
  (.unaryOp, "UnaryOp"), (.lambda, "Lambda"), (.ifExp, "IfExp"), (.dict, "Dict"), (.set, "Set"),
  (.listComp, "ListComp"), (.setComp, "SetComp"), (.dictComp, "DictComp"), (.generatorExp, "GeneratorExp"),
  (.await, "Await"), (.yield, "Yield"), (.yieldFrom, "YieldFrom"), (.compare, "Compare"), (.call, "Call"),
  (.formattedValue, "FormattedValue"), (.joinedStr, "JoinedStr"), (.constant, "Constant"),
  (.member, "Attribute"), (.subscript, "Subscript"), (.starred, "Starred"), (.name, "Name"),
  (.list, "List"), (.tuple, "Tuple"), (.slice, "Slice"), (.matchValue, "MatchValue"),
  (.matchSingleton, "MatchSingleton"), (.matchSequence, "MatchSequence"), (.matchMapping, "MatchMapping"),
  (.matchClass, "MatchClass"), (.matchStar, "MatchStar"), (.matchAs, "MatchAs"), (.matchOr, "MatchOr"),
  (.load, "Load"), (.store, "Store"), (.del, "Del"), (.andOp, "And"), (.orOp, "Or"), (.addOp, "Add"),
  (.subOp, "Sub"), (.multOp, "Mult"), (.matMultOp, "MatMult"), (.divOp, "Div"), (.modOp, "Mod"),
  (.powOp, "Pow"), (.lShiftOp, "LShift"), (.rShiftOp, "RShift"), (.bitOrOp, "BitOr"),
  (.bitXorOp, "BitXor"), (.bitAndOp, "BitAnd"), (.floorDivOp, "FloorDiv"), (.invertOp, "Invert"),
  (.notOp, "Not"), (.uAddOp, "UAdd"), (.uSubOp, "USub"), (.eqOp, "Eq"), (.notEqOp, "NotEq"), (.ltOp, "Lt"),
  (.ltEOp, "LtE"), (.gtOp, "Gt"), (.gtEOp, "GtE"), (.isOp, "Is"), (.isNotOp, "IsNot"), (.inOp, "In"),
  (.notInOp, "NotIn"), (.comprehension, "comprehension"), (.exceptHandler, "ExceptHandler"),
  (.arguments, "arguments"), (.arg, "arg"), (.keyword, "keyword"), (.alias, "alias"),
  (.withitem, "withitem"), (.matchCase, "match_case")]

/-- Every field with its label. -/
def Field.labels : List (Field × String) := [
  (.body, "body"), (.typeIgnores, "type_ignores"), (.argtypes, "argtypes"), (.returns, "returns"),
  (.name, "name"), (.args, "args"), (.decoratorList, "decorator_list"), (.typeComment, "type_comment"),
  (.bases, "bases"), (.keywords, "keywords"), (.value, "value"), (.targets, "targets"),
  (.target, "target"), (.op, "op"), (.annot, "annotation"), (.simple, "simple"), (.iter, "iter"),
  (.orelse, "orelse"), (.test, "test"), (.items, "items"), (.subject, "subject"), (.cases, "cases"),
  (.exc, "exc"), (.cause, "cause"), (.handlers, "handlers"), (.finalbody, "finalbody"), (.msg, "msg"),
  (.names, "names"), (.module, "module"), (.level, "level"), (.values, "values"), (.left, "left"),
  (.right, "right"), (.operand, "operand"), (.keys, "keys"), (.elts, "elts"), (.elt, "elt"),
  (.generators, "generators"), (.key, "key"), (.ops, "ops"), (.comparators, "comparators"),
  (.func, "func"), (.conversion, "conversion"), (.formatSpec, "format_spec"), (.kind, "kind"),
  (.attr, "attr"), (.ctx, "ctx"), (.slice, "slice"), (.id, "id"), (.lower, "lower"), (.upper, "upper"),
  (.step, "step"), (.patterns, "patterns"), (.rest, "rest"), (.cls, "cls"), (.kwdAttrs, "kwd_attrs"),
  (.kwdPatterns, "kwd_patterns"), (.pattern, "pattern"), (.ifs, "ifs"), (.isAsync, "is_async"),
  (.excType, "type"), (.posonlyargs, "posonlyargs"), (.vararg, "vararg"), (.kwonlyargs, "kwonlyargs"),
  (.kwDefaults, "kw_defaults"), (.kwarg, "kwarg"), (.defaults, "defaults"), (.arg, "arg"),
  (.asname, "asname"), (.contextExpr, "context_expr"), (.optionalVars, "optional_vars"), (.guard, "guard"),
  (.lineno, "lineno"), (.colOffset, "col_offset"), (.endLineno, "end_lineno"),
  (.endColOffset, "end_col_offset")]

/-- The label of a class. -/
def NodeClass.label (c : NodeClass) : String := (NodeClass.labels.lookup c).getD ""

/-- The class with the given label. -/
def NodeClass.ofLabel? (s : String) : Option NodeClass := (NodeClass.labels.find? (·.2 == s)).map (·.1)

/-- The field with the given label. -/
def Field.ofLabel? (s : String) : Option Field := (Field.labels.find? (·.2 == s)).map (·.1)

/-- The fields of a class in visiting order. -/
def NodeClass.fields : NodeClass → List Field
  | .module => [.body, .typeIgnores]
  | .interactive | .expression => [.body]
  | .functionType => [.argtypes, .returns]
  | .functionDef | .asyncFunctionDef => [.name, .args, .body, .decoratorList, .returns, .typeComment]
  | .classDef => [.name, .bases, .keywords, .body, .decoratorList]
  | .returnStmt | .exprStmt | .await | .yield | .yieldFrom | .matchValue | .matchSingleton => [.value]
  | .deleteStmt => [.targets]
  | .assign => [.targets, .value, .typeComment]
  | .augAssign => [.target, .op, .value]
  | .annAssign => [.target, .annot, .value, .simple]
  | .forStmt | .asyncFor => [.target, .iter, .body, .orelse, .typeComment]
  | .whileStmt | .ifStmt | .ifExp => [.test, .body, .orelse]
  | .withStmt | .asyncWith => [.items, .body, .typeComment]
  | .matchStmt => [.subject, .cases]
  | .raiseStmt => [.exc, .cause]
  | .tryStmt | .tryStar => [.body, .handlers, .orelse, .finalbody]
  | .assertStmt => [.test, .msg]
  | .importStmt | .globalStmt | .nonlocalStmt => [.names]
  | .importFrom => [.module, .names, .level]
  | .boolOp => [.op, .values]
  | .namedExpr => [.target, .value]
  | .binOp => [.left, .op, .right]
  | .unaryOp => [.op, .operand]
  | .lambda => [.args, .body]
  | .dict => [.keys, .values]
  | .set => [.elts]
  | .listComp | .setComp | .generatorExp => [.elt, .generators]
  | .dictComp => [.key, .value, .generators]
  | .compare => [.left, .ops, .comparators]
  | .call => [.func, .args, .keywords]
  | .formattedValue => [.value, .conversion, .formatSpec]
  | .joinedStr => [.values]
  | .constant => [.value, .kind]
  | .member => [.value, .attr, .ctx]
  | .subscript => [.value, .slice, .ctx]
  | .starred => [.value, .ctx]
  | .name => [.id, .ctx]
  | .list | .tuple => [.elts, .ctx]
  | .slice => [.lower, .upper, .step]
  | .matchSequence | .matchOr => [.patterns]
  | .matchMapping => [.keys, .patterns, .rest]
  | .matchClass => [.cls, .patterns, .kwdAttrs, .kwdPatterns]
  | .matchStar => [.name]
  | .matchAs => [.pattern, .name]
  | .comprehension => [.target, .iter, .ifs, .isAsync]
  | .exceptHandler => [.excType, .name, .body]
  | .arguments => [.posonlyargs, .args, .vararg, .kwonlyargs, .kwDefaults, .kwarg, .defaults]
  | .arg => [.arg, .annot, .typeComment]
  | .keyword => [.arg, .value]
  | .alias => [.name, .asname]
  | .withitem => [.contextExpr, .optionalVars]
  | .matchCase => [.pattern, .guard, .body]
  | _ => []

/-- The fields of a class that may be missing and then read as absent. -/
def NodeClass.optional : NodeClass → List Field
  | .functionDef | .asyncFunctionDef => [.returns, .typeComment]
  | .returnStmt | .annAssign | .yield => [.value]
  | .assign | .forStmt | .asyncFor | .withStmt | .asyncWith => [.typeComment]
  | .raiseStmt => [.exc, .cause]
  | .assertStmt => [.msg]
  | .importFrom => [.module, .level]
  | .formattedValue => [.formatSpec]
  | .constant => [.kind]
  | .slice => [.lower, .upper, .step]
  | .matchMapping => [.rest]
  | .matchStar => [.name]
  | .matchAs => [.pattern, .name]
  | .exceptHandler => [.excType, .name]
  | .arguments => [.vararg, .kwarg]
  | .arg => [.annot, .typeComment]
  | .keyword => [.arg]
  | .alias => [.asname]
  | .withitem => [.optionalVars]
  | .matchCase => [.guard]
  | _ => []

/-- Whether nodes of a class carry a position. -/
def NodeClass.positioned : NodeClass → Bool
  | .module | .interactive | .expression | .functionType | .comprehension | .arguments | .withitem | .matchCase => false
  | .load | .store | .del | .andOp | .orOp | .addOp | .subOp | .multOp | .matMultOp | .divOp | .modOp
  | .powOp | .lShiftOp | .rShiftOp | .bitOrOp | .bitXorOp | .bitAndOp | .floorDivOp | .invertOp | .notOp
  | .uAddOp | .uSubOp | .eqOp | .notEqOp | .ltOp | .ltEOp | .gtOp | .gtEOp | .isOp | .isNotOp | .inOp
  | .notInOp => false
  | _ => true

/-- Whether reading a missing field of a class gives "absent" instead of failing. -/
def NodeClass.defaults (c : NodeClass) (f : Field) : Bool :=
  c.optional.contains f || (c.positioned && (f == .endLineno || f == .endColOffset))

end CallLint.Tree

import CallLint.Source.Parse

/-!
# Parameter lists

A parameter list is read as a flat list of items; how they may follow each other is checked afterwards.
-/

namespace CallLint.Source.Grammar

open Parse

/-- What may stand between the commas of a parameter list. -/
inductive ParamItem where
  | plain (p : Param) (default : Option Expr)
  | slash
  | star
  | starred (p : Param)
  | doubleStarred (p : Param)

/-- The plain parameters at the front, and the rest. -/
def takePlain : List ParamItem → List (Param × Option Expr) × List ParamItem
  | .plain p d :: items => ((p, d) :: (takePlain items).1, (takePlain items).2)
  | items => ([], items)

/-- The defaults of positional parameters: behind the first parameter with one, each has one. -/
def trailingDefaults (ps : List (Param × Option Expr)) : Option (List Expr) :=
  (ps.dropWhile (·.2.isNone)).mapM (·.2)

/-- The double-starred parameter at the end, if any. -/
def closingParam : List ParamItem → Option (Option Param)
  | [] => some none
  | [.doubleStarred p] => some (some p)
  | _ => none

/-- The positional-only and the other positional parameters, and the rest. A slash needs a parameter before it. -/
def splitSlash (items : List ParamItem) :
    Option (List (Param × Option Expr) × List (Param × Option Expr) × List ParamItem) :=
  let (first, rest) := takePlain items
  match rest with
  | .slash :: rest => if first.isEmpty then none else some (first, takePlain rest)
  | rest => some ([], first, rest)

/-- The starred parameter, the keyword-only parameters, and the rest. A star alone needs a parameter behind it. -/
def splitStar : List ParamItem → Option (Option Param × List (Param × Option Expr) × List ParamItem)
  | .star :: rest => if (takePlain rest).1.isEmpty then none else some (none, takePlain rest)
  | .starred p :: rest => some (some p, takePlain rest)
  | rest => some (none, [], rest)

/-- The parameters that a list of items declares. -/
def assembleParams (items : List ParamItem) : Option Params :=
  match splitSlash items with
  | none => none
  | some (posonly, args, rest) =>
    match trailingDefaults (posonly ++ args), splitStar rest with
    | some defaults, some (vararg, kwonly, rest) =>
      (closingParam rest).map fun kwarg =>
        .mk (posonly.map (·.1)) (args.map (·.1)) vararg (kwonly.map (·.1)) (kwonly.map (·.2)) kwarg defaults
    | _, _ => none

/-- A parameter; `annot` reads what follows its name. -/
def param (annot : Parse (Option Expr)) : Parse Param := spanned do
  let id ← name
  let a ← annot
  return fun span => .mk span id a

/-- An item of a parameter list. Plain parameters may have a default. -/
def paramItem (annot starAnnot : Parse (Option Expr)) (default : Parse Expr) : Parse ParamItem := do
  match ← peek with
  | .punct .slash =>
    let _ ← next
    return .slash
  | .punct .star =>
    let _ ← next
    if ← atPunct .comma then return .star
    return .starred (← param starAnnot)
  | .punct .doubleStar =>
    let _ ← next
    return .doubleStarred (← param annot)
  | _ =>
    let p ← param annot
    if ← acceptPunct .equal then return .plain p (some (← default))
    return .plain p none

/-- A parameter list up to `closing`, which is not taken. -/
def params (annot starAnnot : Parse (Option Expr)) (default : Parse Expr) (closing : Punct) : Parse Params := do
  if ← atPunct closing then return .mk [] [] none [] [] none []
  let item := paramItem annot starAnnot default
  let first ← item
  let (rest, _) ← commaTail item
  match assembleParams (first :: rest) with
  | some ps => return ps
  | none => fail

end CallLint.Source.Grammar

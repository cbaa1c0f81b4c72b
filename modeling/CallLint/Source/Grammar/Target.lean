import CallLint.Source.Ast

/-!
# Targets

What may stand to the left of an assignment or behind `del`. Targets are read as expressions first and turned into
targets afterwards.
-/

namespace CallLint.Source

/-- Where an expression stands. -/
def Expr.span : Expr → Span
  | .boolOp s .. | .named s .. | .binOp s .. | .unaryOp s .. | .lambda s .. | .ifExp s .. | .dict s .. | .set s ..
  | .listComp s .. | .setComp s .. | .dictComp s .. | .generator s .. | .await s .. | .yield s .. | .yieldFrom s ..
  | .compare s .. | .call s .. | .formatted s .. | .joined s .. | .constant s .. | .member s .. | .subscript s ..
  | .starred s .. | .name s .. | .list s .. | .tuple s .. | .slice s .. => s

mutual

/-- The expression as a target. Only assigned targets may be starred. -/
def Expr.toTarget? (ctx : Context) : Expr → Option Expr
  | .name s id _ => some (.name s id ctx)
  | .member s value attr _ => some (.member s value attr ctx)
  | .subscript s value index _ => some (.subscript s value index ctx)
  | .starred s value _ =>
    if ctx == .store then (value.toTarget? ctx).map (.starred s · ctx) else none
  | .tuple s elts _ => (Expr.toTargets? ctx elts).map (.tuple s · ctx)
  | .list s elts _ => (Expr.toTargets? ctx elts).map (.list s · ctx)
  | _ => none

/-- The expressions as targets. -/
def Expr.toTargets? (ctx : Context) : List Expr → Option (List Expr)
  | [] => some []
  | e :: es =>
    match e.toTarget? ctx, Expr.toTargets? ctx es with
    | some e, some es => some (e :: es)
    | _, _ => none

end

/-- The expression as a target that is no sequence, as augmented and annotated assignments need it. -/
def Expr.toSingleTarget? : Expr → Option Expr
  | .name s id _ => some (.name s id .store)
  | .member s value attr _ => some (.member s value attr .store)
  | .subscript s value index _ => some (.subscript s value index .store)
  | _ => none

end CallLint.Source

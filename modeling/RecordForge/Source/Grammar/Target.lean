import RecordForge.Source.Grammar.Expression

/-!
# Targets in the grammar

What values can be assigned to and what can be deleted: names, attributes, items, and groups of
targets. The owner of an attribute or an item is an operand of which more follows.
-/

namespace RecordForge.Source.Grammar

open Reader

variable (call : Call)

/-- The signs that an operand goes on with. -/
def moreAhead : Reader Token :=
  markOf ["(", "[", "."]

/-- An operand of which more follows. -/
def targetOwner : Reader Expr :=
  firstOf <| ([attributeOf (call .targetOwner), itemOf call (call .targetOwner)]
    ++ primarySteps call (call .targetOwner) ++ [atom call]).map fun r => do
      let a ← r
      ahead moreAhead
      return a

/-- An attribute or an item as a target. -/
def memberTargets : List (Reader Expr) :=
  [attributeOf (call .targetOwner), itemOf call (call .targetOwner)].map fun r => do
    let a ← r
    notAhead moreAhead
    return a

/-- A group of targets between brackets. -/
def targetGroup (opening closing : String) (form : List Expr → ExprForm)
    (items : Reader (List Expr)) : Reader Expr :=
  located do
    pass opening
    let a ← attempt items
    pass closing
    return form (a.getD [])

/-- A target that is no spread one. -/
def attributeTarget : Reader Expr :=
  firstOf <| memberTargets call ++ [
    nameExpr,
    do
      pass "("
      let a ← call .attributeTarget
      pass ")"
      return a,
    targetGroup "(" ")" .tuple <| firstOf [
      do
        let a ← call .starTarget
        let b ← oneOrMore (do pass ","; call .starTarget)
        passAny (mark ",")
        return a :: b,
      do
        let a ← call .starTarget
        pass ","
        return [a]],
    targetGroup "[" "]" .list do
      let a ← separated "," (call .starTarget)
      passAny (mark ",")
      return a]

/-- A target. -/
def starTarget : Reader Expr :=
  firstOf [
    located do
      pass "*"
      notAhead (mark "*")
      return .starred (← call .starTarget),
    call .attributeTarget]

/-- A single target. -/
def singleTarget : Reader Expr :=
  firstOf <| memberTargets call ++ [
    nameExpr,
    do
      pass "("
      let a ← call .singleTarget
      pass ")"
      return a]

/-- Targets of a deletion. -/
def deleteTargets : Reader (List Expr) := do
  let a ← separated "," (call .deleteTarget)
  passAny (mark ",")
  return a

/-- A target of a deletion. -/
def deleteTarget : Reader Expr :=
  firstOf <| memberTargets call ++ [
    nameExpr,
    do
      pass "("
      let a ← call .deleteTarget
      pass ")"
      return a,
    targetGroup "(" ")" .tuple (deleteTargets call),
    targetGroup "[" "]" .list (deleteTargets call)]

/-- A group for which a type is declared by mistake. -/
def declaredGroup : Reader Expr :=
  firstOf [
    list call,
    tuple call,
    do
      pass "("
      let a ← call .declaredGroup
      pass ")"
      return a]

end RecordForge.Source.Grammar

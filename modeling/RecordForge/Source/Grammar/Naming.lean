import RecordForge.Source.Tree

/-!
# What expressions are called

The words by which faults call expressions, and the part of an expression that keeps it from being a
target.
-/

namespace RecordForge.Source

/-- What a constant is called. -/
def Constant.word : Constant → String
  | .none => "None"
  | .bool true => "True"
  | .bool false => "False"
  | .ellipsis => "ellipsis"
  | _ => "literal"

/-- What a comprehension is called. -/
def ComprehensionKind.word : ComprehensionKind → String
  | .list => "list comprehension"
  | .set => "set comprehension"
  | .dict => "dict comprehension"
  | .generator => "generator expression"

/-- What an expression is called. -/
def ExprForm.word : ExprForm → String
  | .name _ => "name"
  | .constant c => c.word
  | .joined _ | .formatted .. => "f-string expression"
  | .tuple _ => "tuple"
  | .list _ => "list"
  | .set _ => "set display"
  | .dict _ => "dict literal"
  | .attribute .. => "attribute"
  | .subscript .. => "subscript"
  | .slice .. => "slice"
  | .call .. => "function call"
  | .unary .. | .binary .. | .conjunction _ | .disjunction _ => "expression"
  | .compare .. => "comparison"
  | .conditional .. => "conditional expression"
  | .lambda .. => "lambda"
  | .comprehension kind .. => kind.word
  | .await _ => "await expression"
  | .yield _ | .yieldFrom _ => "yield expression"
  | .starred _ => "starred"
  | .named .. => "named expression"

/-- What an expression is called. -/
def Expr.word (e : Expr) : String :=
  e.form.word

/-- The places for targets. -/
inductive TargetPlace where
  | assignment
  | loop
  | deletion
deriving DecidableEq, Repr

mutual

/-- The first part of an expression that is no target. A loop is cut off at the word in front of its
source, which an expression can hold as well. -/
def Expr.badTarget? (place : TargetPlace) : Expr → Option Expr
  | .mk line form => form.badTarget? place (.mk line form)

/-- The first part of a form that is no target, given the whole expression. -/
def ExprForm.badTarget? (place : TargetPlace) (whole : Expr) : ExprForm → Option Expr
  | .list items | .tuple items => badTargetIn? place items
  | .starred value => if place = .deletion then some whole else value.badTarget? place
  | .compare left (.mk op _ :: _) =>
    if place = .loop then if op = .isIn then left.badTarget? place else none else some whole
  | .name _ | .subscript .. | .attribute .. => none
  | _ => some whole

/-- The first part of a list of expressions that is no target. -/
def badTargetIn? (place : TargetPlace) : List Expr → Option Expr
  | [] => none
  | e :: rest =>
    match e.badTarget? place with
    | some bad => some bad
    | none => badTargetIn? place rest

end

end RecordForge.Source

import RecordForge.Source.Tree

/-!
# Rules of the grammar

The rules of the grammar through which it refers to itself, and what each of them reads.
-/

namespace RecordForge.Source

/-- The arguments of a call. -/
structure Arguments where
  positional : List Expr := []
  keywords : List Keyword := []
deriving Inhabited

/-- The rules that others refer to, or that are worth remembering. -/
inductive Rule where
  | expression
  | starExpression
  | disjunction
  | conjunction
  | inversion
  | bitOr
  | bitXor
  | bitAnd
  | shift
  | sum
  | term
  | factor
  | awaited
  | primary
  | strings
  | arguments
  /-- Says why a value cannot be named. -/
  | namedFault
  | starTarget
  | attributeTarget
  /-- What an attribute or an item of it is a target. -/
  | targetOwner
  | deleteTarget
  | singleTarget
  /-- A list or a tuple for which a type is declared. -/
  | declaredGroup
  | simpleStatement
  | block
  | elseBranch
  | closedPattern
  | starPattern
deriving DecidableEq, Repr, Hashable, Inhabited

namespace Rule

/-- What a rule reads. -/
abbrev Result : Rule → Type
  | .arguments => Arguments
  | .namedFault => Unit
  | .simpleStatement => Stmt
  | .elseBranch => Stmt
  | .block => List Stmt
  | .closedPattern => Pattern
  | .starPattern => Pattern
  | _ => Expr

/-- Whether the rule begins with itself. -/
def isLeftRecursive : Rule → Bool
  | .bitOr | .bitXor | .bitAnd | .shift | .sum | .term | .primary | .targetOwner => true
  | _ => false

/-- Whether what the rule reads at a place is read once only. -/
def isRemembered : Rule → Bool
  | .singleTarget | .declaredGroup | .elseBranch => false
  | _ => true

end Rule

end RecordForge.Source

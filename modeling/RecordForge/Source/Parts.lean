import RecordForge.Source.Tree

/-!
# The parts of a source

The expressions that make up an expression or a statement, and the statements within a statement.
Only parts that belong to the scope of the whole are listed: the body of a function, of a type or of
a comprehension has a scope of its own.
-/

namespace RecordForge.Source

/-- The name of a constant that is never bound. -/
def constantWord : String := "__debug__"

namespace Parameters

/-- All parameters: those with a position, those with a name only, then the ones for what is
left. -/
def all : Parameters → List Param
  | .mk positional plain rest named others =>
    (positional ++ plain ++ named).map ParamDefault.param ++ rest.toList ++ others.toList

/-- All parameters, those that take several values where they are written. -/
def written : Parameters → List Param
  | .mk positional plain rest named others =>
    (positional ++ plain).map ParamDefault.param ++ rest.toList ++ named.map ParamDefault.param
      ++ others.toList

/-- The default values. -/
def defaults : Parameters → List Expr
  | .mk positional plain _ named _ => (positional ++ plain ++ named).filterMap ParamDefault.value

end Parameters

/-- The type that is declared for a parameter. -/
def Param.declared : Param → Option Expr
  | .mk _ _ declared => declared

/-- The declared types in the order in which they are looked at. -/
def Parameters.declared : Parameters → List Expr
  | .mk positional plain rest named others =>
    let typesOf := fun (ps : List ParamDefault) => ps.filterMap fun p => p.param.declared
    typesOf plain ++ typesOf positional ++ (rest.bind Param.declared).toList ++ typesOf named
      ++ (others.bind Param.declared).toList

/-- The expressions of an item of a dictionary. -/
def DictItem.parts : DictItem → List Expr
  | .mk key value => key.toList ++ [value]

/-- The right side of a comparison. -/
def Comparison.right : Comparison → Expr
  | .mk _ right => right

/-- The value of a named argument. -/
def Keyword.value : Keyword → Expr
  | .mk _ _ value => value

/-- The name of a named argument. -/
def Keyword.name? : Keyword → Option String
  | .mk _ name _ => name

/-- The line of a named argument. -/
def Keyword.line : Keyword → Nat
  | .mk line _ _ => line

/-- What a loop of a comprehension goes through. -/
def Clause.source : Clause → Expr
  | .mk _ _ source _ => source

/-- Whether a loop of a comprehension waits for its values. -/
def Clause.waits : Clause → Bool
  | .mk waits _ _ _ => waits

/-- The parts of an expression. -/
def ExprForm.parts : ExprForm → List Expr
  | .name _ | .constant _ => []
  | .joined parts => parts
  | .formatted value _ layout => value :: layout.toList
  | .tuple items | .list items | .set items => items
  | .dict items => items.flatMap DictItem.parts
  | .attribute value _ => [value]
  | .subscript value index => [value, index]
  | .slice first last step => first.toList ++ last.toList ++ step.toList
  | .call function arguments keywords => function :: arguments ++ keywords.map Keyword.value
  | .unary _ operand => [operand]
  | .binary _ left right => [left, right]
  | .conjunction operands | .disjunction operands => operands
  | .compare left rest => left :: rest.map Comparison.right
  | .conditional test whenTrue whenFalse => [test, whenTrue, whenFalse]
  | .lambda parameters _ => parameters.defaults
  | .comprehension _ _ _ clauses => (clauses.head?.map Clause.source).toList
  | .await value | .yieldFrom value | .starred value => [value]
  | .yield value => value.toList
  | .named target value => [value, target]

/-- The parts of a comprehension that have its own scope. -/
def comprehensionParts (element : Expr) (value : Option Expr) (clauses : List Clause) :
    List Expr :=
  let later := (clauses.drop 1).map Clause.source
  let others := clauses.flatMap fun
    | .mk _ target _ conditions => target :: conditions
  later ++ others ++ element :: value.toList

/-- The expressions of a pattern. -/
def Pattern.parts : Nat → Pattern → List Expr
  | 0, _ => []
  | n + 1, p =>
    match p with
    | .value e => [e]
    | .constant _ | .rest _ _ => []
    | .capture _ pattern _ => pattern.toList.flatMap (parts n)
    | .sequence _ patterns | .anyOf _ patterns => patterns.flatMap (parts n)
    | .mapping _ keys patterns _ => keys ++ patterns.flatMap (parts n)
    | .ofClass _ type patterns _ named => type :: (patterns ++ named).flatMap (parts n)

namespace StmtForm

/-- The expressions of a statement, without those of the statements within it. -/
def parts (depth : Nat) : StmtForm → List Expr
  | .expr value => [value]
  | .assign targets value => targets ++ [value]
  | .augment target _ value => [target, value]
  | .declare target declared value _ => target :: declared :: value.toList
  | .delete targets => targets
  | .pass | .leave | .next | .global _ | .nonlocal _ | .importModules _ | .importFrom .. => []
  | .result value => value.toList
  | .raise error cause => error.toList ++ cause.toList
  | .assert test message => test :: message.toList
  | .branch test _ _ | .loop test _ _ => [test]
  | .each _ target source _ _ => [target, source]
  | .within _ items _ => items.flatMap fun (value, target) => value :: target.toList
  | .attempt _ handlers _ _ _ => handlers.flatMap fun
    | .mk _ type _ _ => type.toList
  | .select subject cases => subject :: cases.flatMap fun
    | .mk pattern guard _ => pattern.parts depth ++ guard.toList
  | .function _ _ parameters returns decorators _ =>
    decorators ++ parameters.defaults ++ parameters.declared ++ returns.toList
  | .typeDef _ bases keywords decorators _ => decorators ++ bases ++ keywords.map Keyword.value

/-- The statements within a statement. -/
def blocks : StmtForm → List Stmt
  | .branch _ body otherwise | .loop _ body otherwise | .each _ _ _ body otherwise =>
    body ++ otherwise
  | .within _ _ body => body
  | .attempt body handlers otherwise final _ =>
    body ++ (handlers.flatMap fun | .mk _ _ _ body => body) ++ otherwise ++ final
  | .select _ cases => cases.flatMap fun | .mk _ _ body => body
  | _ => []

end StmtForm

/-! ## What a scope does -/

namespace Expr

/-- Whether some part of an expression has a property. -/
def anyPart (holds : ExprForm → Bool) : Nat → Expr → Bool
  | 0, _ => false
  | n + 1, e => holds e.form || e.form.parts.any (anyPart holds n)

/-- Whether the value of an expression gives out values in between. -/
def yields : Nat → Expr → Bool :=
  anyPart fun
    | .yield _ | .yieldFrom _ => true
    | _ => false

/-- Whether an expression waits for something. A comprehension that is made at once waits if one of
its parts does. -/
def waits : Nat → Expr → Bool
  | 0, _ => false
  | n + 1, e =>
    e.form.parts.any (waits n) ||
      match e.form with
      | .await _ => true
      | .comprehension kind element value clauses =>
        kind ≠ .generator
          && (clauses.any Clause.waits
            || (comprehensionParts element value clauses).any (waits n))
      | _ => false

end Expr

/-- Whether some expression of the statements has a property. -/
def Stmt.anyPart (holds : Expr → Bool) : Nat → Stmt → Bool
  | 0, _ => false
  | n + 1, s => (s.form.parts n).any holds || s.form.blocks.any (anyPart holds n)

end RecordForge.Source

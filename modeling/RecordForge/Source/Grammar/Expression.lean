import RecordForge.Source.Grammar.Naming
import RecordForge.Source.Grammar.Parameter
import RecordForge.Source.Spelling

/-!
# Expressions in the grammar

Expressions from conditions down to operands, each level in terms of the one below it. Where none of
them fits, some of what is written instead is known.
-/

namespace RecordForge.Source.Grammar

open Reader

/-- An expression that begins here. -/
def located (r : Reader ExprForm) : Reader Expr := do
  let line ← line
  return .mk line (← r)

variable (call : Call)

/-! ## Lists of expressions -/

/-- One expression, or several as a tuple. -/
def tupled (r : Reader Expr) : Reader Expr :=
  firstOf [
    located do
      let a ← r
      let b ← oneOrMore (do pass ","; r)
      passAny (mark ",")
      return .tuple (a :: b),
    located do
      let a ← r
      pass ","
      return .tuple [a],
    r]

/-- Expressions without stars. -/
def expressions : Reader Expr :=
  tupled (call .expression)

/-- Expressions, some of which may be spread. -/
def starExpressions : Reader Expr :=
  tupled (call .starExpression)

/-- An expression that is spread. -/
def spread : Reader Expr :=
  located do
    pass "*"
    return .starred (← call .bitOr)

/-- An expression or a spread one. -/
def starExpression : Reader Expr :=
  firstOf [spread call, call .expression]

/-- A value that is bound to a name as well. -/
def assignmentExpression : Reader Expr :=
  located do
    let a ← nameExpr
    pass ":="
    return .named a (← call .expression)

/-- An expression that may be named. -/
def namedExpression : Reader Expr :=
  firstOf [
    assignmentExpression call,
    explain (call .namedFault),
    do
      let a ← call .expression
      notAhead (mark ":=")
      return a]

/-- An expression that may be named or spread. -/
def starNamedExpression : Reader Expr :=
  firstOf [spread call, namedExpression call]

/-- Expressions that may be named or spread. -/
def starNamedExpressions : Reader (List Expr) := do
  let a ← separated "," (starNamedExpression call)
  passAny (mark ",")
  return a

/-- A value that is given out. -/
def yieldExpression : Reader Expr :=
  firstOf [
    located do
      pass "yield"
      pass "from"
      return .yieldFrom (← call .expression),
    located do
      pass "yield"
      return .yield (← attempt (starExpressions call))]

/-- An argument whose items are arguments. -/
def starredExpression : Reader Expr :=
  located do
    pass "*"
    return .starred (← call .expression)

/-! ## Conditions -/

/-- Whether an expression is the name of what was a statement once. -/
def isFormerStatement (e : Expr) : Bool :=
  match e.form with
  | .name id => id = "print" || id = "exec"
  | _ => false

/-- A condition that is chosen by a test. -/
def conditional : Reader Expr :=
  located do
    let a ← call .disjunction
    pass "if"
    let b ← call .disjunction
    pass "else"
    return .conditional b a (← call .expression)

/-- A function without a name. -/
def lambda : Reader Expr :=
  located do
    pass "lambda"
    let a ← attempt (lambdaParameters call)
    pass ":"
    return .lambda (a.getD default) (← call .expression)

/-- A word that begins one of those that are reserved in some places only. -/
def softWord : Reader Token :=
  tokenIf fun t =>
    t.kind == .name && ["_", "case", "match"].any fun w => t.text.toList.isPrefixOf w.toList

/-- What is wrong where two expressions stand side by side, or where a choice has one side. -/
def expressionFault : Reader Unit :=
  firstOf [
    do
      notAhead (firstOf [do let _ ← name; kind .string, softWord])
      let a ← call .disjunction
      let _ ← silently (firstOf [conditional call, call .disjunction, lambda call])
      if isFormerStatement a || (← depth) = 0 then return ()
      else refuse .forgottenComma a.line,
    do
      let a ← call .disjunction
      pass "if"
      let _ ← call .disjunction
      notAhead (markOf ["else", ":"])
      refuse .missingElse a.line]

/-- What is wrong where the name of a former statement stands in front of a value. -/
def formerStatementFault : Reader Unit := do
  let a ← nameExpr
  notAhead (mark "(")
  let _ ← starExpressions call
  match a.form with
  | .name id =>
    if isFormerStatement a then refuse (.missingParentheses id) a.line else return ()
  | _ => return ()

/-- An expression. -/
def expression : Reader Expr :=
  firstOf [
    explain (expressionFault call),
    explain (formerStatementFault call),
    conditional call,
    call .disjunction,
    lambda call]

/-- Values of which one is enough. -/
def disjunction : Reader Expr :=
  firstOf [
    located do
      let a ← call .conjunction
      let b ← oneOrMore (do pass "or"; call .conjunction)
      return .disjunction (a :: b),
    call .conjunction]

/-- Values all of which are needed. -/
def conjunction : Reader Expr :=
  firstOf [
    located do
      let a ← call .inversion
      let b ← oneOrMore (do pass "and"; call .inversion)
      return .conjunction (a :: b),
    call .inversion]

/-- The operators of comparisons. -/
def compareOps : List (List String × CompareOp) :=
  [(["=="], .equal), (["!="], .notEqual), (["<="], .lessEqual), (["<"], .less),
    ([">="], .greaterEqual), ([">"], .greater), (["not", "in"], .isNotIn), (["in"], .isIn),
    (["is", "not"], .isNotSame), (["is"], .isSame)]

/-- An operator and the right side of a comparison. -/
def comparisonStep : Reader Comparison :=
  firstOf <| compareOps.map fun (marks, op) => do
    marks.forM pass
    return .mk op (← call .bitOr)

/-- A comparison. -/
def comparison : Reader Expr :=
  firstOf [
    located do
      let a ← call .bitOr
      return .compare a (← oneOrMore (comparisonStep call)),
    call .bitOr]

/-- A value or its negation. -/
def inversion : Reader Expr :=
  firstOf [
    located do
      pass "not"
      return .unary .not (← call .inversion),
    comparison call]

/-! ## Operators -/

/-- An operator between what begins like this and an operand, or an operand. -/
def leftBinary (self operand : Reader Expr) (ops : List (String × BinaryOp)) : Reader Expr :=
  firstOf <| ops.map (fun (sign, op) => located do
      let a ← self
      pass sign
      return .binary op a (← operand))
    ++ [operand]

/-- A factor. -/
def factor : Reader Expr :=
  firstOf <| [("+", UnaryOp.plus), ("-", .minus), ("~", .invert)].map (fun (sign, op) => located do
      pass sign
      return .unary op (← call .factor))
    ++ [
      located do
        let a ← call .awaited
        pass "**"
        return .binary .power a (← call .factor),
      call .awaited]

/-- An operand that may be waited for. -/
def awaited : Reader Expr :=
  firstOf [
    located do
      pass "await"
      return .await (← call .primary),
    call .primary]

/-! ## Comprehensions -/

/-- Targets with commas between them, some of which may be spread. -/
def starTargets : Reader Expr :=
  firstOf [
    do
      let a ← call .starTarget
      notAhead (mark ",")
      return a,
    located do
      let a ← call .starTarget
      let b ← many (do pass ","; call .starTarget)
      passAny (mark ",")
      return .tuple (a :: b)]

/-- What is wrong with the target of a loop. -/
def loopTargetFault : Reader Unit := do
  passAny (mark "async")
  pass "for"
  let a ← starExpressions call
  match a.badTarget? .loop with
  | some bad => refuse (.notAssignable bad.word) bad.line
  | none => return ()

/-- A loop of a comprehension. -/
def clause : Reader Clause := do
  match ← attempt (do pass "async"; start) with
  | some target => rest true target
  | none =>
    match ← attempt start with
    | some target => rest false target
    | none => explain (loopTargetFault call)
where
  /-- The loop up to its source. -/
  start : Reader Expr := do
    pass "for"
    let a ← starTargets call
    pass "in"
    return a
  /-- The source and the conditions. -/
  rest (waits : Bool) (target : Expr) : Reader Clause := do
    let source ← call .disjunction
    return .mk waits target source (← many (do pass "if"; call .disjunction))

/-- The loops of a comprehension. -/
def clauses : Reader (List Clause) :=
  oneOrMore (clause call)

/-- What is wrong with a comprehension. -/
def comprehensionFault : Reader Unit :=
  firstOf [
    do
      let _ ← markOf ["[", "(", "\x7b"]
      let a ← starredExpression call
      let _ ← clauses call
      refuse .spreadInComprehension a.line,
    do
      let _ ← markOf ["[", "\x7b"]
      let a ← starNamedExpression call
      pass ","
      let _ ← starNamedExpressions call
      let _ ← clauses call
      refuse .bareComprehensionTarget a.line,
    do
      let _ ← markOf ["[", "\x7b"]
      let a ← starNamedExpression call
      pass ","
      let _ ← clauses call
      refuse .bareComprehensionTarget a.line]

/-- A comprehension between brackets. -/
def comprehension (opening closing : String) (kind : ComprehensionKind) (element : Reader Expr) :
    Reader Expr :=
  firstOf [
    located do
      pass opening
      let a ← element
      let b ← clauses call
      pass closing
      return .comprehension kind a none b,
    explain (comprehensionFault call)]

/-- An expression that is not followed by the sign of naming, or a named one. -/
def argumentExpression : Reader Expr :=
  firstOf [
    assignmentExpression call,
    do
      let a ← call .expression
      notAhead (mark ":=")
      return a]

/-- A comprehension that gives out its values one by one. -/
def generator : Reader Expr :=
  comprehension call "(" ")" .generator (argumentExpression call)

/-! ## Operands -/

/-- A part of a sequence, or one item of it. -/
def slice : Reader Expr :=
  firstOf [
    located do
      let first ← attempt (call .expression)
      pass ":"
      let last ← attempt (call .expression)
      let step ← attempt (do pass ":"; attempt (call .expression))
      return .slice first last step.join,
    namedExpression call]

/-- What stands between the brackets of a subscript. -/
def slices : Reader Expr :=
  firstOf [
    do
      let a ← slice call
      notAhead (mark ",")
      return a,
    located do
      let a ← separated "," (firstOf [slice call, starredExpression call])
      passAny (mark ",")
      return .tuple a]

/-- A number. -/
def number : Reader Expr := do
  let t ← kind .number
  match numberOf t.text with
  | .ok value => return .mk t.line (.constant value)
  | .error fault => stopAt (.literal fault) t.line

/-- A word or a sign that is a constant. -/
def constant (m : String) (value : Constant) : Reader Expr := do
  let t ← mark m
  return .mk t.line (.constant value)

/-- A tuple between brackets. -/
def tuple : Reader Expr :=
  located do
    pass "("
    let a ← attempt do
      let a ← starNamedExpression call
      pass ","
      return a :: ((← attempt (starNamedExpressions call)).getD [])
    pass ")"
    return .tuple (a.getD [])

/-- What is wrong with an expression between brackets. -/
def groupFault : Reader Unit :=
  firstOf [
    do
      pass "("
      let a ← starredExpression call
      pass ")"
      refuse .starredHere a.line,
    do
      pass "("
      let t ← mark "**"
      let _ ← call .expression
      pass ")"
      refuse .doubleStarredHere t.line]

/-- An expression between brackets. -/
def group : Reader Expr :=
  firstOf [
    do
      pass "("
      let a ← firstOf [yieldExpression call, namedExpression call]
      pass ")"
      return a,
    explain (groupFault call)]

/-- A list. -/
def list : Reader Expr :=
  located do
    pass "["
    let a ← attempt (starNamedExpressions call)
    pass "]"
    return .list (a.getD [])

/-- A key and a value. -/
def keyValue : Reader (Expr × Expr) := do
  let a ← call .expression
  pass ":"
  return (a, ← call .expression)

/-- An item of a dictionary. -/
def dictItem : Reader DictItem :=
  firstOf [
    do
      pass "**"
      return .mk none (← call .bitOr),
    do
      let (a, b) ← keyValue call
      return .mk (some a) b]

/-- What is wrong with the value of a key. -/
def valueFault : List (Reader Unit) :=
  [
    do
      let _ ← call .expression
      pass ":"
      let t ← mark "*"
      let _ ← call .bitOr
      refuse .starredValue t.line,
    do
      let _ ← call .expression
      let t ← mark ":"
      ahead (markOf ["\x7d", ","])
      refuse .valueExpected t.line]

/-- What is wrong with the items of a dictionary. -/
def dictFault : Reader Unit :=
  firstOf <| [
    do
      let _ ← separated "," (dictItem call)
      pass ","
      firstOf <| [
        do
          let a ← call .expression
          notAhead (mark ":")
          refuse .colonExpected a.line]
        ++ valueFault call]
    ++ valueFault call

/-- A dictionary. -/
def dict : Reader Expr :=
  firstOf [
    located do
      pass "\x7b"
      let a ← attempt do
        let a ← separated "," (dictItem call)
        passAny (mark ",")
        return a
      pass "\x7d"
      return .dict (a.getD []),
    do
      pass "\x7b"
      dictFault call
      failure]

/-- A set. -/
def set : Reader Expr :=
  located do
    pass "\x7b"
    let a ← starNamedExpressions call
    pass "\x7d"
    return .set a

/-- A dictionary that is made by loops. -/
def dictComprehension : Reader Expr :=
  firstOf [
    located do
      pass "\x7b"
      let (a, b) ← keyValue call
      let c ← clauses call
      pass "\x7d"
      return .comprehension .dict a (some b) c,
    explain do
      pass "\x7b"
      let t ← mark "**"
      let _ ← call .bitOr
      let _ ← clauses call
      pass "\x7d"
      refuse .dictSpreadInComprehension t.line]

/-- The smallest expressions. -/
def atom : Reader Expr :=
  firstOf [
    nameExpr,
    constant "True" (.bool true),
    constant "False" (.bool false),
    constant "None" .none,
    do
      ahead (kind .string)
      call .strings,
    number,
    do
      ahead (mark "(")
      firstOf [tuple call, group call, generator call],
    do
      ahead (mark "[")
      firstOf [list call, comprehension call "[" "]" .list (namedExpression call)],
    do
      ahead (mark "\x7b")
      firstOf [
        dict call,
        set call,
        dictComprehension call,
        comprehension call "\x7b" "\x7d" .set (namedExpression call)],
    constant "..." .ellipsis]

/-- What follows an operand: an attribute, a call or a subscript. -/
def primarySteps (self : Reader Expr) : List (Reader Expr) :=
  [
    located do
      let a ← self
      let b ← generator call
      return .call a [b] [],
    located do
      let a ← self
      pass "("
      let b := (← attempt (call .arguments)).getD {}
      pass ")"
      return .call a b.positional b.keywords]

/-- An attribute of an operand. -/
def attributeOf (self : Reader Expr) : Reader Expr :=
  located do
    let a ← self
    pass "."
    return .attribute a (← nameId)

/-- An item of an operand. -/
def itemOf (self : Reader Expr) : Reader Expr :=
  located do
    let a ← self
    pass "["
    let b ← slices call
    pass "]"
    return .subscript a b

/-- An operand. -/
def primary : Reader Expr :=
  firstOf <| [attributeOf (call .primary)] ++ primarySteps call (call .primary)
    ++ [itemOf call (call .primary), atom call]

/-- What is wrong with a value that is to be named. -/
def namedFault : Reader Unit :=
  firstOf [
    do
      let a ← call .expression
      pass ":="
      let _ ← call .expression
      refuse (.notNameable a.word) a.line,
    do
      let a ← name
      pass "="
      let _ ← call .bitOr
      notAhead (markOf ["=", ":="])
      refuse .equalsForTest a.line,
    do
      notAhead (firstOf [list call, tuple call, generator call, constant "True" (.bool true),
        constant "None" .none, constant "False" (.bool false)])
      let a ← call .bitOr
      pass "="
      let _ ← call .bitOr
      notAhead (markOf ["=", ":="])
      refuse (.notAssignableHere a.word) a.line]

end RecordForge.Source.Grammar

import RecordForge.Source.Grammar.Argument
import RecordForge.Source.Grammar.Target

/-!
# Simple statements in the grammar

Statements that stand on one line: assignments first of all, then expressions and what begins with a
word of its own.
-/

namespace RecordForge.Source.Grammar

open Reader

/-- A statement that begins here. -/
def statement (r : Reader StmtForm) : Reader Stmt := do
  let line ← line
  return .mk line (← r)

variable (call : Call)

/-- A value that is assigned. -/
def assigned : Reader Expr :=
  firstOf [yieldExpression call, starExpressions call]

/-- The operators that change a target. -/
def augmentOps : List (String × BinaryOp) :=
  [("+=", .add), ("-=", .subtract), ("*=", .multiply), ("@=", .matrixMultiply), ("/=", .divide),
    ("%=", .modulo), ("&=", .bitAnd), ("|=", .bitOr), ("^=", .bitXor), ("<<=", .shiftLeft),
    (">>=", .shiftRight), ("**=", .power), ("//=", .floorDivide)]

/-- An operator that changes a target. -/
def augmentOp : Reader BinaryOp :=
  firstOf <| augmentOps.map fun (sign, op) => do
    pass sign
    return op

/-- Stops if a target is none. -/
def checkTarget (place : TargetPlace) (fault : String → GrammarFault) (e : Expr) : Reader Unit :=
  match e.badTarget? place with
  | some bad => refuse (fault bad.word) bad.line
  | none => return ()

/-- What is wrong with an assignment. -/
def assignmentFault : Reader Unit :=
  firstOf [
    do
      let a ← call .declaredGroup
      pass ":"
      let _ ← call .expression
      refuse (.notDeclarable a.word) a.line,
    do
      let a ← starNamedExpression call
      pass ","
      let _ ← many (starNamedExpressions call)
      pass ":"
      let _ ← call .expression
      refuse (.notDeclarable "tuple") a.line,
    do
      let a ← call .expression
      pass ":"
      let _ ← call .expression
      refuse .illegalDeclaration a.line,
    do
      let _ ← many (do let _ ← starTargets call; pass "=")
      let a ← starExpressions call
      pass "="
      checkTarget .assignment .notAssignable a,
    do
      let _ ← many (do let _ ← starTargets call; pass "=")
      let a ← yieldExpression call
      pass "="
      refuse .yieldAsTarget a.line,
    do
      let a ← starExpressions call
      let _ ← augmentOp
      let _ ← assigned call
      refuse (.notAugmentable a.word) a.line]

/-- The value of a declaration. -/
def declaredValue : Reader (Option Expr) :=
  attempt (do pass "="; assigned call)

/-- An assignment that is no change of a target. -/
def plainAssignment : Reader Stmt :=
  firstOf [
    statement do
      let a ← nameExpr
      pass ":"
      let b ← call .expression
      return .declare a b (← declaredValue call) true,
    statement do
      let a ← firstOf <|
        (do
          pass "("
          let a ← call .singleTarget
          pass ")"
          return a)
        :: memberTargets call
      pass ":"
      let b ← call .expression
      return .declare a b (← declaredValue call) false,
    statement do
      let a ← oneOrMore do
        let a ← starTargets call
        pass "="
        return a
      let b ← assigned call
      notAhead (mark "=")
      return .assign a b]

/-- An assignment. Behind an operator that changes a target stands nothing but a value. -/
def assignment : Reader Stmt := do
  match ← attempt (plainAssignment call) with
  | some a => return a
  | none =>
    let line ← line
    let start ← attempt do
      let a ← call .singleTarget
      return (a, ← augmentOp)
    match start with
    | some (a, op) => return .mk line (.augment a op (← assigned call))
    | none => explain (assignmentFault call)

/-- What is wrong with a deletion. -/
def deletionFault : Reader Unit := do
  pass "del"
  checkTarget .deletion .notDeletable (← starExpressions call)

/-- A deletion. -/
def deletion : Reader Stmt :=
  firstOf [
    statement do
      pass "del"
      let a ← deleteTargets call
      ahead (firstOf [mark ";", kind .lineEnd])
      return .delete a,
    explain (deletionFault call)]

/-- An import of modules. -/
def moduleImport : Reader Stmt :=
  statement do
    pass "import"
    return .importModules (← separated "," do return ⟨← dottedName, ← nameBehind "as"⟩)

/-- Names to import. -/
def importedNames : Reader (List Imported) :=
  separated "," do return ⟨← nameId, ← nameBehind "as"⟩

/-- What is imported. -/
def importTargets : Reader (List Imported) :=
  firstOf [
    do
      pass "("
      let a ← importedNames
      passAny (mark ",")
      pass ")"
      return a,
    do
      let a ← importedNames
      notAhead (mark ",")
      return a,
    do
      pass "*"
      return [⟨"*", none⟩],
    explain do
      let _ ← importedNames
      pass ","
      let _ ← kind .lineEnd
      refuseHere .trailingComma]

/-- The number of points of marks. -/
def pointCount (marks : List Token) : Nat :=
  marks.foldl (fun n mark => n + mark.text.length) 0

/-- An import of names from a module. -/
def nameImport : Reader Stmt :=
  firstOf [
    statement do
      pass "from"
      let a ← many (markOf [".", "..."])
      let b ← dottedName
      pass "import"
      return .importFrom (some b) (← importTargets) (pointCount a),
    statement do
      pass "from"
      let a ← oneOrMore (markOf [".", "..."])
      pass "import"
      return .importFrom none (← importTargets) (pointCount a)]

/-- Statements that are one word. -/
def wordStatement (w : String) (form : StmtForm) : Reader Stmt :=
  statement do
    pass w
    return form

/-- A statement that begins with a word. -/
def worded (w : String) (r : Reader Stmt) : Reader Stmt := do
  ahead (mark w)
  r

/-- Names that belong to a scope around. -/
def outerNames (w : String) : Reader (List String) := do
  pass w
  separated "," nameId

/-- A raised error. -/
def raised : Reader Stmt :=
  firstOf [
    statement do
      pass "raise"
      let a ← call .expression
      return .raise (some a) (← attempt (do pass "from"; call .expression)),
    wordStatement "raise" (.raise none none)]

/-- A simple statement. -/
def simpleStatement : Reader Stmt :=
  firstOf [
    assignment call,
    statement do return .expr (← starExpressions call),
    worded "return" <| statement do
      pass "return"
      return .result (← attempt (starExpressions call)),
    do
      ahead (markOf ["import", "from"])
      firstOf [moduleImport, nameImport],
    worded "raise" (raised call),
    wordStatement "pass" .pass,
    worded "del" (deletion call),
    worded "yield" <| statement do return .expr (← yieldExpression call),
    worded "assert" <| statement do
      pass "assert"
      let a ← call .expression
      return .assert a (← attempt (do pass ","; call .expression)),
    wordStatement "break" .leave,
    wordStatement "continue" .next,
    worded "global" <| statement do return .global (← outerNames "global"),
    worded "nonlocal" <| statement do return .nonlocal (← outerNames "nonlocal")]

/-- Simple statements on a line. -/
def simpleStatements : Reader (List Stmt) :=
  firstOf [
    do
      let a ← call .simpleStatement
      notAhead (mark ";")
      let _ ← kind .lineEnd
      return [a],
    do
      let a ← separated ";" (call .simpleStatement)
      passAny (mark ";")
      let _ ← kind .lineEnd
      return a]

end RecordForge.Source.Grammar

import RecordForge.Source.Grammar.Pattern
import RecordForge.Source.Grammar.Statement

/-!
# Compound statements in the grammar

Statements that hold blocks of other ones. A block stands on the line of its opener, or on lines of
its own that are indented.
-/

namespace RecordForge.Source.Grammar

open Reader

variable (call : Call)

/-! ## Blocks -/

/-- What is wrong where an indented block does not follow a line that ends in a colon. -/
def unindented (opener : String) (head : Reader Nat) : Reader Unit := do
  let openerLine ← head
  pass ":"
  let _ ← kind .lineEnd
  notAhead (kind .indent)
  refuseHere (.expectedBlock (some (opener, openerLine)))

/-- What is wrong where a colon does not follow the head of a statement. -/
def colonless (head : Reader Unit) : Reader Unit := do
  head
  let _ ← kind .lineEnd
  refuseHere (.expected ":")

/-- The line of a word. -/
def lineOf (w : String) : Reader Nat :=
  return (← mark w).line

/-- A word that may stand behind the one that tells waiting. -/
def maybeWaiting (w : String) : Reader Nat := do
  passAny (mark "async")
  lineOf w

/-- A word with the expression of a test behind it. -/
def tested (w : String) : Reader Nat := do
  let line ← lineOf w
  let _ ← namedExpression call
  return line

/-- What another branch does. -/
def otherwise : Reader (List Stmt) :=
  firstOf [
    explain (unindented "'else' statement" (lineOf "else")),
    do
      pass "else"
      expect ":"
      call .block]

/-- What is done if nothing else is. -/
def otherwiseAny : Reader (List Stmt) :=
  return (← attempt (otherwise call)).getD []

/-! ## Branches and loops -/

/-- A branch that begins with a word. -/
def branch (w : String) : Reader Stmt :=
  firstOf [
    explain (firstOf [
      colonless (do let _ ← tested call w),
      unindented ("'" ++ w ++ "' statement") (tested call w)]),
    statement do
      let (a, b) ← start
      return .branch a b [← call .elseBranch],
    statement do
      let (a, b) ← start
      return .branch a b (← otherwiseAny call)]
where
  /-- The test and the block. -/
  start : Reader (Expr × List Stmt) := do
    pass w
    let a ← namedExpression call
    pass ":"
    return (a, ← call .block)

/-- A loop with a test. -/
def loop : Reader Stmt :=
  firstOf [
    explain (firstOf [
      colonless (do let _ ← tested call "while"),
      unindented "'while' statement" (tested call "while")]),
    statement do
      pass "while"
      let a ← namedExpression call
      pass ":"
      let b ← call .block
      return .loop a b (← otherwiseAny call)]

/-- The head of a loop over a source. -/
def eachHead : Reader Nat := do
  let line ← maybeWaiting "for"
  let _ ← starTargets call
  pass "in"
  let _ ← starExpressions call
  return line

/-- A loop over a source. Behind the word in front of the source stands nothing but that. -/
def each : Reader Stmt := do
  let line ← line
  tell (firstOf [
    colonless (do let _ ← eachHead call),
    unindented "'for' statement" (eachHead call)])
  match ← attempt (start (pass "for")) with
  | some a => rest line false a
  | none =>
    match ← attempt (start (do pass "async"; pass "for")) with
    | some a => rest line true a
    | none => explain (loopTargetFault call)
where
  /-- The target of the loop. -/
  start (opener : Reader Unit) : Reader Expr := do
    opener
    let a ← starTargets call
    pass "in"
    return a
  /-- The source and the blocks. -/
  rest (line : Nat) (waits : Bool) (target : Expr) : Reader Stmt := do
    let a ← starExpressions call
    pass ":"
    let b ← call .block
    return .mk line (.each waits target a b (← otherwiseAny call))

/-! ## Contexts -/

/-- A context and the target that it is bound to. -/
def context : Reader (Expr × Option Expr) :=
  firstOf [
    do
      let a ← call .expression
      pass "as"
      let b ← call .starTarget
      behind
      return (a, some b),
    explain do
      let _ ← call .expression
      pass "as"
      let a ← call .expression
      behind
      checkTarget .assignment .notAssignable a,
    do return (← call .expression, none)]
where
  /-- What has to follow a target. -/
  behind : Reader Unit :=
    ahead (markOf [",", ")", ":"])

/-- The heads of a statement with contexts. -/
def contextHeads : List (Reader Nat) :=
  [
    do
      let line ← maybeWaiting "with"
      let _ ← separated "," (item (call .expression))
      return line,
    do
      let line ← maybeWaiting "with"
      pass "("
      let _ ← separated "," (item (expressions call))
      passAny (mark ",")
      pass ")"
      return line]
where
  /-- A context that may have a target. -/
  item (r : Reader Expr) : Reader Unit := do
    let _ ← r
    passAny (do pass "as"; call .starTarget)

/-- The forms of a statement with contexts. -/
def contexts (waits : Bool) : List (Reader Stmt) :=
  let opener : Reader Unit := do
    if waits then pass "async"
    pass "with"
  [
    statement do
      opener
      pass "("
      let a ← separated "," (context call)
      passAny (mark ",")
      pass ")"
      pass ":"
      return .within waits a (← call .block),
    statement do
      opener
      let a ← separated "," (context call)
      pass ":"
      return .within waits a (← call .block)]

/-- A statement with contexts. -/
def within : Reader Stmt :=
  firstOf <|
    [explain (firstOf ((contextHeads call).map (unindented "'with' statement")))]
    ++ contexts call false ++ contexts call true
    ++ [explain (firstOf ((contextHeads call).map fun head =>
      colonless (do let _ ← head)))]

/-! ## Errors -/

/-- What is done at last. -/
def finalBlock : Reader (List Stmt) :=
  firstOf [
    explain (unindented "'finally' statement" (lineOf "finally")),
    do
      pass "finally"
      expect ":"
      call .block]

/-- What is wrong with the head of a handler. -/
def handlerFault : Reader Unit :=
  firstOf [
    do
      pass "except"
      passAny (mark "*")
      let a ← call .expression
      pass ","
      let _ ← expressions call
      passAny (nameBehind "as")
      pass ":"
      refuse .bareTypes a.line,
    colonless do
      pass "except"
      passAny (mark "*")
      let _ ← call .expression
      let _ ← nameBehind "as",
    colonless (pass "except"),
    do
      pass "except"
      pass "*"
      firstOf [do let _ ← kind .lineEnd, pass ":"]
      refuseHere .typesExpected]

/-- The head of a handler with a type. -/
def handlerHead (grouped : Bool) : Reader (Nat × Expr × Option String) := do
  let line ← lineOf "except"
  if grouped then pass "*"
  let a ← call .expression
  return (line, a, ← nameBehind "as")

/-- What is done about errors. -/
def handler : Reader Handler :=
  firstOf [
    explain (firstOf [
      unindented "'except' statement" (do return (← handlerHead call false).1),
      unindented "'except' statement" (lineOf "except")]),
    do
      let (line, a, b) ← handlerHead call false
      pass ":"
      return .mk line (some a) b (← call .block),
    do
      let line ← lineOf "except"
      pass ":"
      return .mk line none none (← call .block),
    explain (handlerFault call)]

/-- What is done about errors in a group. -/
def groupHandler : Reader Handler :=
  firstOf [
    explain (unindented "'except*' statement" (do return (← handlerHead call true).1)),
    do
      let (line, a, b) ← handlerHead call true
      pass ":"
      return .mk line (some a) b (← call .block),
    explain (handlerFault call)]

/-- What is wrong with an attempt. -/
def attemptFault : Reader Unit :=
  firstOf [
    unindented "'try' statement" (lineOf "try"),
    do
      pass "try"
      pass ":"
      let _ ← call .block
      notAhead (markOf ["except", "finally"])
      refuseHere .noHandler,
    do
      pass "try"
      pass ":"
      let _ ← many (call .block)
      let _ ← oneOrMore (handler call)
      let (line, _) ← handlerHead call true
      pass ":"
      refuse .mixedHandlers line,
    do
      pass "try"
      pass ":"
      let _ ← many (call .block)
      let _ ← oneOrMore (groupHandler call)
      let line ← lineOf "except"
      passAny (do let _ ← call .expression; nameBehind "as")
      pass ":"
      refuse .mixedHandlers line]

/-- A block whose errors are looked after. -/
def guarded : Reader Stmt :=
  firstOf [
    explain (attemptFault call),
    statement do
      let a ← start
      return .attempt a [] [] (← finalBlock call) false,
    handled false (handler call),
    handled true (groupHandler call)]
where
  /-- The block. -/
  start : Reader (List Stmt) := do
    pass "try"
    expect ":"
    call .block
  /-- The block with its handlers. -/
  handled (grouped : Bool) (r : Reader Handler) : Reader Stmt :=
    statement do
      let a ← start
      let b ← oneOrMore r
      let c ← otherwiseAny call
      return .attempt a b c ((← attempt (finalBlock call)).getD []) grouped

/-! ## Matches -/

/-- The value that is matched. -/
def subject : Reader Expr :=
  firstOf [
    located do
      let a ← starNamedExpression call
      pass ","
      return .tuple (a :: (← attempt (starNamedExpressions call)).getD []),
    namedExpression call]

/-- The test of a case. -/
def guard : Reader Expr := do
  pass "if"
  namedExpression call

/-- The head of a case. -/
def caseHead : Reader (Nat × Pattern × Option Expr) := do
  let t ← word "case"
  let a ← patterns call
  return (t.line, a, ← attempt (guard call))

/-- A case. -/
def matchCase : Reader Case :=
  firstOf [
    explain (firstOf [
      colonless (do let _ ← caseHead call),
      unindented "'case' statement" (do return (← caseHead call).1)]),
    do
      let (_, a, b) ← caseHead call
      pass ":"
      return .mk a b (← call .block)]

/-- The head of a match. -/
def matchHead : Reader (Nat × Expr) := do
  let t ← word "match"
  return (t.line, ← subject call)

/-- A match. -/
def selection : Reader Stmt :=
  firstOf [
    statement do
      let (_, a) ← matchHead call
      pass ":"
      let _ ← kind .lineEnd
      let _ ← kind .indent
      let b ← oneOrMore (matchCase call)
      let _ ← kind .dedent
      return .select a b,
    explain (firstOf [
      colonless (do let _ ← matchHead call),
      unindented "'match' statement" (do return (← matchHead call).1)])]

/-! ## Functions and classes -/

/-- The expressions in front of a definition. -/
def decorators : Reader (List Expr) :=
  oneOrMore do
    pass "@"
    let a ← namedExpression call
    let _ ← kind .lineEnd
    return a

/-- The result type of a function. -/
def returns : Reader (Option Expr) :=
  attempt (do pass "->"; call .expression)

/-- A function without what stands in front of it. -/
def bareFunction (decorators : List Expr) : Reader Stmt :=
  firstOf [
    explain (unindented "function definition" do
      let line ← maybeWaiting "def"
      let _ ← name
      pass "("
      passAny (functionParameters call)
      pass ")"
      let _ ← returns call
      return line),
    statement do
      pass "def"
      rest false,
    statement do
      pass "async"
      pass "def"
      rest true]
where
  /-- The function from its name on. -/
  rest (waits : Bool) : Reader StmtForm := do
    let id ← nameId
    expect "("
    let a ← attempt (functionParameters call)
    pass ")"
    let b ← returns call
    expect ":"
    return .function waits id (a.getD default) b decorators (← call .block)

/-- A function. -/
def function : Reader Stmt :=
  firstOf [
    do bareFunction call (← decorators call),
    bareFunction call []]

/-- The bases of a class. -/
def classArguments : Reader (Option Arguments) :=
  attempt do
    pass "("
    let a ← attempt (call .arguments)
    pass ")"
    return a.getD {}

/-- The head of a class. -/
def classHead : Reader (Nat × String × Arguments) := do
  let line ← lineOf "class"
  let id ← nameId
  return (line, id, (← classArguments call).getD {})

/-- A class without what stands in front of it. -/
def bareClass (decorators : List Expr) : Reader Stmt :=
  firstOf [
    explain (firstOf [
      colonless (do let _ ← classHead call),
      unindented "class definition" (do return (← classHead call).1)]),
    statement do
      let (_, id, a) ← classHead call
      pass ":"
      return .typeDef id a.positional a.keywords decorators (← call .block)]

/-- A class. -/
def classDefinition : Reader Stmt :=
  firstOf [
    do bareClass call (← decorators call),
    bareClass call []]

/-! ## Statements -/

/-- A statement that holds others. -/
def compound : Reader Stmt :=
  firstOf [
    opened ["def", "@", "async"] (function call),
    opened ["if"] (branch call "if"),
    opened ["class", "@"] (classDefinition call),
    opened ["with", "async"] (within call),
    opened ["for", "async"] (each call),
    opened ["try"] (guarded call),
    opened ["while"] (loop call),
    selection call]
where
  /-- A statement that begins with one of some words. -/
  opened (words : List String) (r : Reader Stmt) : Reader Stmt := do
    ahead (markOf words)
    r

/-- Statements. -/
def statements : Reader (List Stmt) :=
  return (← oneOrMore (firstOf [
    do return [← compound call],
    simpleStatements call])).flatten

/-- A block. -/
def block : Reader (List Stmt) :=
  firstOf [
    do
      let _ ← kind .lineEnd
      let _ ← kind .indent
      let a ← statements call
      let _ ← kind .dedent
      return a,
    simpleStatements call,
    explain do
      let _ ← kind .lineEnd
      notAhead (kind .indent)
      refuseHere (.expectedBlock none)]

/-- All statements of a source. -/
def file : Reader (List Stmt) := do
  let a ← attempt (statements call)
  let _ ← kind .endMark
  return a.getD []

end RecordForge.Source.Grammar

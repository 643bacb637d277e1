import RecordForge.Source.Grammar.Expression

/-!
# Arguments in the grammar

The arguments of a call: those by position in front, then those with names, and spread ones among
them.
-/

namespace RecordForge.Source.Grammar

open Reader

variable (call : Call)

/-- An argument without a name; it is not followed by the sign that gives names. -/
def positional : Reader Expr :=
  firstOf [
    starredExpression call,
    do
      let a ← argumentExpression call
      notAhead (mark "=")
      return a]

/-- What is wrong with an argument that has a name. -/
def keywordFault : Reader Unit :=
  firstOf [
    do
      let t ← markOf ["True", "False", "None"]
      pass "="
      refuse (.notAssignable t.text) t.line,
    do
      let a ← name
      pass "="
      let _ ← call .expression
      let _ ← clauses call
      refuse .equalsForTest a.line,
    do
      notAhead (do let _ ← name; pass "=")
      let a ← call .expression
      pass "="
      refuse .assignmentForTest a.line]

/-- An argument with a name. -/
def namedArgument : Reader Arguments := do
  let t ← name
  pass "="
  return { keywords := [.mk t.line (some (idOf t)) (← call .expression)] }

/-- A spread argument, or one with a name. -/
def keywordOrStarred : Reader Arguments :=
  firstOf [
    explain (keywordFault call),
    namedArgument call,
    do return { positional := [← starredExpression call] }]

/-- Spread arguments with names, or one with a name. -/
def keywordOrDoubleStarred : Reader Arguments :=
  firstOf [
    explain (keywordFault call),
    namedArgument call,
    do
      let t ← mark "**"
      return { keywords := [.mk t.line none (← call .expression)] }]

/-- Puts arguments together. -/
def joinArguments (parts : List Arguments) : Arguments where
  positional := parts.flatMap (·.positional)
  keywords := parts.flatMap (·.keywords)

/-- Arguments with names. -/
def keywords : Reader Arguments :=
  firstOf [
    do
      let a ← separated "," (keywordOrStarred call)
      pass ","
      let b ← separated "," (keywordOrDoubleStarred call)
      return joinArguments (a ++ b),
    do return joinArguments (← separated "," (keywordOrStarred call)),
    do return joinArguments (← separated "," (keywordOrDoubleStarred call))]

/-- Arguments. -/
def argumentList : Reader Arguments :=
  firstOf [
    do
      let a ← separated "," (positional call)
      let b ← attempt (do pass ","; keywords call)
      return joinArguments ({ positional := a } :: b.toList),
    keywords call]

/-- What is wrong with arguments. -/
def argumentFault : Reader Unit :=
  firstOf [
    do
      let line ← line
      let _ ← argumentList call
      pass ","
      pass "*"
      refuse .spreadAfterKeywords line,
    do
      let a ← call .expression
      let _ ← clauses call
      pass ","
      passAny (firstOf [
        do let _ ← argumentList call,
        do let _ ← call .expression; let _ ← clauses call])
      refuse .bareGenerator a.line,
    do
      let a ← name
      pass "="
      let _ ← call .expression
      let _ ← clauses call
      refuse .equalsForTest a.line,
    do
      let a ← argumentList call
      let _ ← clauses call
      match a.positional with
      | _ :: b :: rest => refuse .bareGenerator ((b :: rest).getLast?.getD b).line
      | _ => return (),
    do
      let _ ← argumentList call
      pass ","
      let a ← call .expression
      let _ ← clauses call
      refuse .bareGenerator a.line,
    do
      let a ← argumentList call
      pass ","
      let _ ← argumentList call
      let spreads := a.keywords.any fun
        | .mk _ none _ => true
        | _ => false
      refuseHere (if spreads then .positionalAfterSpread else .positionalAfterKeyword)]

/-- The arguments of a call, up to its end. -/
def arguments : Reader Arguments :=
  firstOf [
    do
      let a ← argumentList call
      passAny (mark ",")
      ahead (mark ")")
      return a,
    explain (argumentFault call)]

end RecordForge.Source.Grammar

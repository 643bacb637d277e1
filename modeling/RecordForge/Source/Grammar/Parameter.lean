import RecordForge.Source.Grammar.Name

/-!
# Parameters in the grammar

The parameters of a function stand between brackets and may have types; those of a function without
a name end at a colon and have none.
-/

namespace RecordForge.Source.Grammar

open Reader

/-- What tells parameter lists apart: the sign that ends one, and what reads a parameter. -/
structure ParameterStyle where
  closing : String
  param : Reader Param
  /-- A parameter for the rest of the arguments; its type may be spread. -/
  starredParam : Reader Param
  bracketFault : GrammarFault

/-- The parameters behind a star. -/
structure StarredParameters where
  rest : Option Param := none
  named : List ParamDefault := []
  others : Option Param := none

namespace ParameterStyle

variable (call : Call) (style : ParameterStyle)

/-- What follows a parameter: a comma, or the end of the list. -/
def behind : Reader Unit :=
  firstOf [pass ",", ahead (mark style.closing)]

/-- Reads with a comma behind, or in front of the end of the list. -/
def item {α : Type} (r : Reader α) : Reader α :=
  firstOf [do let a ← r; pass ","; return a, do let a ← r; ahead (mark style.closing); return a]

/-- A parameter without a default value. -/
def plain : Reader Param :=
  style.item style.param

/-- A default value. -/
def defaultValue : Reader Expr :=
  firstOf [do pass "="; call .expression, explain defaultFault]
where
  /-- A default value is missing. -/
  defaultFault : Reader Unit := do
    let t ← mark "="
    ahead (markOf [")", ","])
    refuse .defaultExpected t.line

/-- A parameter with a default value. -/
def defaulted : Reader ParamDefault :=
  style.item do return .mk (← style.param) (some (← defaultValue call))

/-- A parameter that may have a default value. -/
def maybeDefaulted : Reader ParamDefault :=
  style.item do return .mk (← style.param) (← attempt (defaultValue call))

/-- Parameters that are given by position only, without default values. -/
def slashPlain : Reader (List Param) :=
  firstOf [
    do let a ← oneOrMore style.plain; pass "/"; pass ","; return a,
    do let a ← oneOrMore style.plain; pass "/"; ahead (mark style.closing); return a]

/-- Parameters that are given by position only, some with default values. -/
def slashDefaulted : Reader (List ParamDefault) :=
  firstOf [
    do let a ← both; pass "/"; pass ","; return a,
    do let a ← both; pass "/"; ahead (mark style.closing); return a]
where
  /-- Parameters without and with default values. -/
  both : Reader (List ParamDefault) := do
    let a ← many style.plain
    return a.map (.mk · none) ++ (← oneOrMore (style.defaulted call))

/-- Whether parameters for given positions only stand here. -/
def slashAny : Reader Unit :=
  firstOf [do let _ ← style.slashPlain, do let _ ← style.slashDefaulted call]

/-- What is wrong with a parameter for the other named arguments. -/
def othersFault : Reader Unit :=
  firstOf [
    do
      pass "**"
      let _ ← style.param
      refuse .othersWithDefault (← mark "=").line,
    do
      pass "**"
      let _ ← style.param
      pass ","
      refuse .parameterAfterOthers (← style.param).line,
    do
      pass "**"
      let _ ← style.param
      pass ","
      refuse .parameterAfterOthers (← markOf ["*", "**", "/"]).line]

/-- A parameter for the other named arguments. -/
def others : Reader Param :=
  firstOf [explain style.othersFault, do pass "**"; style.plain]

/-- What is wrong behind a star. -/
def starFault : Reader Unit :=
  firstOf [
    do
      let t ← mark "*"
      firstOf [pass style.closing, do pass ","; let _ ← markOf [style.closing, "**"]]
      if style.closing = ")" then refuse .bareStar t.line else refuseHere .bareStar,
    do
      pass "*"
      let _ ← style.param
      refuse .restWithDefault (← mark "=").line,
    do
      pass "*"
      firstOf [do let _ ← style.plain, pass ","]
      let _ ← many (style.maybeDefaulted call)
      let t ← mark "*"
      firstOf [do let _ ← style.plain, pass ","]
      refuse .secondStar t.line]

/-- The parameters behind a star. -/
def starred : Reader StarredParameters :=
  firstOf [
    explain (style.starFault call),
    do pass "*"; rest style.plain,
    do pass "*"; rest (style.item style.starredParam),
    do
      pass "*"
      pass ","
      let named ← oneOrMore (style.maybeDefaulted call)
      return { named, others := ← attempt style.others },
    do return { others := some (← style.others) }]
where
  /-- A parameter for the rest of the arguments, and what follows it. -/
  rest (r : Reader Param) : Reader StarredParameters := do
    let a ← r
    let named ← many (style.maybeDefaulted call)
    return { rest := some a, named, others := ← attempt style.others }

/-- Parameters of the kinds, in their order. -/
def combine (positional plain : List ParamDefault) (s : Option StarredParameters) : Parameters :=
  let s := s.getD {}
  .mk positional plain s.rest s.named s.others

/-- What is wrong with parameters. -/
def listFault : Reader Unit :=
  firstOf [
    do
      let _ ← many style.plain
      firstOf [do let _ ← style.slashDefaulted call, do let _ ← oneOrMore (style.defaulted call)]
      refuse .noDefaultAfterDefault (← style.plain).line,
    do
      let _ ← many style.plain
      let t ← mark "("
      let _ ← if style.closing = ")" then oneOrMore style.plain else separated "," style.param
      passAny (mark ",")
      pass ")"
      refuse style.bracketFault t.line,
    do
      let t ← mark "/"
      pass ","
      refuse .nothingBeforeSlash t.line,
    do
      style.slashAny call
      let _ ← many (style.maybeDefaulted call)
      refuse .secondSlash (← mark "/").line,
    do
      passAny (style.slashAny call)
      let _ ← many (style.maybeDefaulted call)
      pass "*"
      firstOf [pass ",", do let _ ← style.plain]
      let _ ← many (style.maybeDefaulted call)
      refuse .slashAfterStar (← mark "/").line,
    do
      let _ ← oneOrMore (style.maybeDefaulted call)
      pass "/"
      refuse .commaBetweenSlashAndStar (← mark "*").line]

/-- A list of parameters. -/
def list : Reader Parameters :=
  firstOf [
    explain (style.listFault call),
    do
      let a ← style.slashPlain
      let b ← many style.plain
      let c ← many (style.defaulted call)
      return combine (a.map (.mk · none)) (b.map (.mk · none) ++ c) (← attempt (style.starred call)),
    do
      let a ← style.slashDefaulted call
      let b ← many (style.defaulted call)
      return combine a b (← attempt (style.starred call)),
    do
      let a ← oneOrMore style.plain
      let b ← many (style.defaulted call)
      return combine [] (a.map (.mk · none) ++ b) (← attempt (style.starred call)),
    do
      let a ← oneOrMore (style.defaulted call)
      return combine [] a (← attempt (style.starred call)),
    do return combine [] [] (some (← style.starred call))]

end ParameterStyle

variable (call : Call)

/-- A parameter that may have a type. -/
def declaredParam (type : Reader Expr) : Reader Param := do
  let t ← name
  return .mk t.line (idOf t) (← attempt (do pass ":"; type))

/-- A parameter without a type. -/
def bareParam : Reader Param := do
  let t ← name
  return .mk t.line (idOf t) none

/-- The parameters of a function. -/
def functionParameters : Reader Parameters :=
  ParameterStyle.list call {
    closing := ")"
    param := declaredParam (call .expression)
    starredParam := do
      let t ← name
      pass ":"
      return .mk t.line (idOf t) (some (← call .starExpression))
    bracketFault := .bracketedParameters }

/-- The parameters of a function without a name. -/
def lambdaParameters : Reader Parameters :=
  ParameterStyle.list call {
    closing := ":"
    param := bareParam
    starredParam := failure
    bracketFault := .bracketedLambdaParameters }

end RecordForge.Source.Grammar

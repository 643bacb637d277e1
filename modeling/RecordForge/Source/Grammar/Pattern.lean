import RecordForge.Source.Grammar.Expression

/-!
# Patterns in the grammar

What a value can be matched with: constants, names to bind, sequences, mappings and objects of a
class.
-/

namespace RecordForge.Source.Grammar

open Reader

variable (call : Call)

/-- A number with a sign. -/
def signedNumber : Reader Expr :=
  firstOf [
    number,
    located do
      pass "-"
      return .unary .minus (← number)]

/-- A number that has to be real. -/
def realNumber : Reader Expr := do
  let a ← number
  match a.form with
  | .constant (.imaginary _) => refuse .realExpected a.line
  | _ => return a

/-- A number that has to be imaginary. -/
def imaginaryNumber : Reader Expr := do
  let a ← number
  match a.form with
  | .constant (.imaginary _) => return a
  | _ => refuse .imaginaryExpected a.line

/-- A real number with a sign and an imaginary one. -/
def complexNumber : Reader Expr :=
  firstOf <| [("+", BinaryOp.add), ("-", .subtract)].map fun (sign, op) => located do
    let a ← firstOf [
      realNumber,
      located do
        pass "-"
        return .unary .minus (← realNumber)]
    pass sign
    return .binary op a (← imaginaryNumber)

/-- A literal of a pattern. -/
def literalPattern : Reader Expr :=
  firstOf [
    do
      let a ← signedNumber
      notAhead (markOf ["+", "-"])
      return a,
    complexNumber,
    call .strings,
    constant "None" .none,
    constant "True" (.bool true),
    constant "False" (.bool false)]

/-- A name that a value is bound to. -/
def captureName : Reader Token := do
  notAhead (word "_")
  let t ← name
  notAhead (markOf [".", "(", "="])
  return t

/-- A name with attributes. -/
def attributePath : Reader Expr := do
  let t ← name
  let steps ← oneOrMore (do pass "."; nameId)
  return steps.foldl (fun e id => .mk t.line (.attribute e id)) (nameOf t)

/-- A name, or one with attributes. -/
def pathOrName : Reader Expr :=
  firstOf [attributePath, nameExpr]

/-- What stands for anything. -/
def wildcard : Reader Pattern := do
  let t ← word "_"
  return .capture t.line none none

/-- Patterns of which one has to fit. -/
def orPattern : Reader Pattern := do
  let line ← line
  match ← separated "|" (call .closedPattern) with
  | [a] => return a
  | several => return .anyOf line several

/-- What is wrong with the name for a matched value. -/
def asPatternFault : Reader Unit :=
  firstOf [
    do
      let _ ← orPattern call
      pass "as"
      refuse .wildcardTarget (← word "_").line,
    do
      let _ ← orPattern call
      pass "as"
      notAhead name
      refuse .badPatternTarget (← call .expression).line]

/-- A pattern. -/
def pattern : Reader Pattern :=
  firstOf [
    do
      let line ← line
      let a ← orPattern call
      pass "as"
      return .capture line (some a) (some (idOf (← captureName))),
    explain (asPatternFault call),
    orPattern call]

/-- The rest of a sequence. -/
def starPattern : Reader Pattern :=
  firstOf [
    do
      let t ← mark "*"
      return .rest t.line (some (idOf (← captureName))),
    do
      let t ← mark "*"
      let _ ← wildcard
      return .rest t.line none]

/-- A pattern, or the rest of a sequence. -/
def maybeStarPattern : Reader Pattern :=
  firstOf [call .starPattern, pattern call]

/-- Patterns of a sequence. -/
def sequenceItems : Reader (List Pattern) := do
  let a ← separated "," (maybeStarPattern call)
  passAny (mark ",")
  return a

/-- Patterns of a sequence, behind the first of which stands a comma. -/
def openSequence : Reader (List Pattern) := do
  let a ← maybeStarPattern call
  pass ","
  return a :: ((← attempt (sequenceItems call)).getD [])

/-- The patterns of a case. -/
def patterns : Reader Pattern :=
  firstOf [
    do
      let line ← line
      return .sequence line (← openSequence call),
    pattern call]

/-- A sequence between brackets. -/
def sequencePattern : Reader Pattern :=
  firstOf [
    do
      let t ← mark "["
      let a ← attempt (sequenceItems call)
      pass "]"
      return .sequence t.line (a.getD []),
    do
      let t ← mark "("
      let a ← attempt (openSequence call)
      pass ")"
      return .sequence t.line (a.getD [])]

/-- A key and the pattern of its value. -/
def keyPattern : Reader (Expr × Pattern) := do
  let a ← firstOf [literalPattern call, attributePath]
  pass ":"
  return (a, ← pattern call)

/-- The name for the other keys. -/
def otherKeys : Reader String := do
  pass "**"
  return idOf (← captureName)

/-- Keys with patterns. -/
def mappingPattern : Reader Pattern :=
  firstOf [
    do
      let t ← mark "\x7b"
      pass "\x7d"
      return .mapping t.line [] [] none,
    do
      let t ← mark "\x7b"
      let a ← otherKeys
      close
      return .mapping t.line [] [] (some a),
    do
      let t ← mark "\x7b"
      let items ← separated "," (keyPattern call)
      pass ","
      let a ← otherKeys
      close
      return .mapping t.line (items.map (·.1)) (items.map (·.2)) (some a),
    do
      let t ← mark "\x7b"
      let items ← separated "," (keyPattern call)
      close
      return .mapping t.line (items.map (·.1)) (items.map (·.2)) none]
where
  /-- The end of the keys. -/
  close : Reader Unit := do
    passAny (mark ",")
    pass "\x7d"

/-- An attribute with its pattern. -/
def namedPattern : Reader (String × Pattern) := do
  let a ← nameId
  pass "="
  return (a, ← pattern call)

/-- Patterns by position. -/
def positionalPatterns : Reader (List Pattern) :=
  separated "," (pattern call)

/-- What is wrong with the patterns of an object. -/
def classPatternFault : Reader Unit := do
  let _ ← pathOrName
  pass "("
  passAny (do let _ ← positionalPatterns call; pass ",")
  let _ ← separated "," (namedPattern call)
  pass ","
  let line ← line
  let _ ← positionalPatterns call
  refuse .positionalPatternAfterNamed line

/-- An object of a class. -/
def classPattern : Reader Pattern :=
  firstOf [
    do
      let line ← line
      let a ← pathOrName
      pass "("
      pass ")"
      return .ofClass line a [] [] [],
    do
      let line ← line
      let a ← pathOrName
      pass "("
      let b ← positionalPatterns call
      close
      return .ofClass line a b [] [],
    do
      let line ← line
      let a ← pathOrName
      pass "("
      let b ← separated "," (namedPattern call)
      close
      return .ofClass line a [] (b.map (·.1)) (b.map (·.2)),
    do
      let line ← line
      let a ← pathOrName
      pass "("
      let b ← positionalPatterns call
      pass ","
      let c ← separated "," (namedPattern call)
      close
      return .ofClass line a b (c.map (·.1)) (c.map (·.2)),
    explain (classPatternFault call)]
where
  /-- The end of the patterns. -/
  close : Reader Unit := do
    passAny (mark ",")
    pass ")"

/-- A pattern that needs no brackets. -/
def closedPattern : Reader Pattern :=
  firstOf [
    do return .value (← literalPattern call),
    do
      let t ← captureName
      return .capture t.line none (some (idOf t)),
    wildcard,
    do
      let a ← attributePath
      notAhead (markOf [".", "(", "="])
      return .value a,
    do
      pass "("
      let a ← pattern call
      pass ")"
      return a,
    sequencePattern call,
    mappingPattern call,
    classPattern call]

end RecordForge.Source.Grammar

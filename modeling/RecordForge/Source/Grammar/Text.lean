import RecordForge.Source.Grammar.Expression

/-!
# Texts in the grammar

Texts that stand side by side are one text. The values in a text are expressions of their own, each
read as if it stood between brackets.
-/

namespace RecordForge.Source.Grammar

open Reader

variable (call : Call)

/-- Stops at a fault of a literal. -/
def spelled {α : Type} (result : Except LiteralFault α) : Reader α :=
  match result with
  | .ok a => return a
  | .error fault => stopHere (.literal fault)

/-- The fault of an expression within a text. A fault of a token is told as it is. -/
def withinText : SourceFault → SourceFault
  | .token fault => .token fault
  | fault => .inText fault

/-- The expression of a value in a text, whose first line is given. -/
def embedded (line : Nat) (body : List Char) : Reader Expr := do
  let (tokens, last) := tokensFrom line ('(' :: body ++ [')'])
  let inner := readAll (starExpressions call) tokens last
  match inner with
  | .ok e => return e
  | .error e => stopAt (withinText e.fault) e.line

/-- The conversion of a value, if a text begins with one, and the rest. -/
def conversionOf : List Char → Except LiteralFault (Option Char × List Char)
  | '!' :: c :: rest =>
    if ['s', 'r', 'a'].contains c then
      if rest.isEmpty then .error .unclosedValue else .ok (some c, rest)
    else .error .badConversion
  | ['!'] => .error .unclosedValue
  | cs => .ok (none, cs)

/-- A constant text, if it has any characters. -/
def constantText (line : Nat) (s : String) : List Expr :=
  if s.isEmpty then [] else [.mk line (.constant (.text s))]

/-- The parts of a text with values, from a place in the token on, and the rest behind them. The
layout of a value is a text of the same kind, which ends at a closing brace; values are nested at
most twice. `whole` is the text of the token, of which `cs` is the rest. -/
def mixedParts (t : Token) (whole : List Char) (raw : Bool) :
    (fuel level : Nat) → List Char → Reader (List Expr × List Char)
  | 0, _, cs => return ([], cs)
  | fuel + 1, level, cs => do
    let lead ← spelled (leadOf raw (level ≠ 0) (cs.length + 1) cs)
    let front := constantText t.line (← spelled (textOf raw lead.body))
    match lead.rest with
    | '\x7b' :: body =>
      if lead.doubled then goOn front fuel level lead.rest
      else if 2 ≤ level then spelled (.error .nestedTooDeeply)
      else
        let (text, rest) ← spelled (valueText none [] [] body)
        if text.all isSpace then
          spelled (.error (.noExpression (rest.head?.filter (· ≠ '\x7d'))))
        else
          let before := whole.take (whole.length - lead.rest.length)
          let value ← embedded call (t.line + before.countP (· = '\n')) text
          let shows := rest.head? = some '='
          let rest := if shows then (rest.drop 1).dropWhile isSpace else rest
          if rest.isEmpty then spelled (.error .unclosedValue)
          else
            let (conversion, rest) ← spelled (conversionOf rest)
            let (layout, rest) ← layoutOf fuel level rest
            match rest with
            | '\x7d' :: rest =>
              let plain := shows && conversion.isNone && layout.isNone
              let value := .mk t.line (.formatted value
                (if plain then some 'r' else conversion) layout)
              let shown := if shows then constantText t.line (String.ofList (text ++ ['='])) else []
              goOn (front ++ shown ++ [value]) fuel level rest
            | _ => spelled (.error .unclosedValue)
    | rest => if lead.doubled then goOn front fuel level rest else return (front, rest)
where
  /-- Reads the parts that follow. -/
  goOn (front : List Expr) (fuel level : Nat) (rest : List Char) :
      Reader (List Expr × List Char) := do
    let (more, rest) ← mixedParts t whole raw fuel level rest
    return (front ++ more, rest)
  /-- The layout of a value, if there is one. -/
  layoutOf (fuel level : Nat) : List Char → Reader (Option Expr × List Char)
    | [':'] => spelled (.error .unclosedValue)
    | ':' :: rest => do
      let (parts, rest) ← mixedParts t whole raw fuel (level + 1) rest
      if rest.head? = some '\x7d' then return (some (.mk t.line (.joined parts)), rest)
      else spelled (.error .unclosedValue)
    | rest => return (none, rest)

/-- What a written text stands for. -/
inductive Piece where
  | text (s : String)
  | bytes (codes : List UInt8)
  | mixed (parts : List Expr)

/-- Whether a piece is one of bytes. -/
def Piece.isBytes : Piece → Bool
  | .bytes _ => true
  | _ => false

/-- The piece of a token; `ofBytes` tells whether the tokens before are bytes, if there are any. -/
def pieceOf (ofBytes : Option Bool) (t : Token) : Reader Piece := do
  let w := Writing.ofToken t.text
  let unmixed {α : Type} (a : α) : Reader α :=
    if ofBytes.any (· ≠ w.bytes) then stopHere (.literal .mixedBytes) else return a
  if w.mixed then
    unmixed ()
    let whole := t.text.toList
    let quotes := whole.length - stringMarkLength whole - w.body.length
    let start := whole.take (whole.length - quotes / 2)
    let (parts, rest) ← mixedParts call t start w.raw (2 * w.body.length + 2) 0 w.body
    if rest.isEmpty then return .mixed parts else spelled (.error .endsEarly)
  else if w.bytes then
    match bytesOf w.raw w.body with
    | .ok codes => unmixed (.bytes codes)
    | .error .wideBytes => stopAt (.literal .wideBytes) t.line
    | .error fault => stopHere (.literal fault)
  else unmixed (.text (← spelled (textOf w.raw w.body)))

/-- The pieces of tokens. -/
def piecesOf : (ofBytes : Option Bool) → List Token → Reader (List Piece)
  | _, [] => return []
  | ofBytes, t :: rest => do
    let piece ← pieceOf call ofBytes t
    return piece :: (← piecesOf (some piece.isBytes) rest)

/-- Puts pieces of text together. -/
def joinPieces (line : Nat) (pieces : List Piece) : Expr :=
  if pieces.any (· matches .bytes _) then
    .mk line (.constant (.bytes (pieces.flatMap fun
      | .bytes codes => codes
      | _ => [])))
  else if pieces.any (· matches .mixed _) then
    .mk line (.joined (pieces.flatMap fun
      | .mixed parts => parts
      | .text s => constantText line s
      | .bytes _ => []))
  else
    .mk line (.constant (.text (String.join (pieces.map fun
      | .text s => s
      | _ => ""))))

/-- Texts that stand side by side. -/
def strings : Reader Expr := do
  let line ← line
  let tokens ← oneOrMore (kind .string)
  return joinPieces line (← piecesOf call none tokens)

end RecordForge.Source.Grammar

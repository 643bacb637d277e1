import RecordForge.Source.Grammar.Block
import RecordForge.Source.Grammar.Text

/-!
# The grammar of sources

The table of rules, and the statements of a text. Rules refer to each other through the table, to a
depth that the length of the text bounds.
-/

namespace RecordForge.Source

namespace Grammar

open Reader

/-- The rules. -/
def table (call : Call) : Call
  | .expression => expression call
  | .starExpression => starExpression call
  | .disjunction => disjunction call
  | .conjunction => conjunction call
  | .inversion => inversion call
  | .bitOr => leftBinary (call .bitOr) (call .bitXor) [("|", .bitOr)]
  | .bitXor => leftBinary (call .bitXor) (call .bitAnd) [("^", .bitXor)]
  | .bitAnd => leftBinary (call .bitAnd) (call .shift) [("&", .bitAnd)]
  | .shift =>
    leftBinary (call .shift) (call .sum) [("<<", .shiftLeft), (">>", .shiftRight)]
  | .sum => leftBinary (call .sum) (call .term) [("+", .add), ("-", .subtract)]
  | .term =>
    leftBinary (call .term) (call .factor) [("*", .multiply), ("/", .divide),
      ("//", .floorDivide), ("%", .modulo), ("@", .matrixMultiply)]
  | .factor => factor call
  | .awaited => awaited call
  | .primary => primary call
  | .strings => strings call
  | .arguments => arguments call
  | .namedFault => namedFault call
  | .starTarget => starTarget call
  | .attributeTarget => attributeTarget call
  | .targetOwner => targetOwner call
  | .deleteTarget => deleteTarget call
  | .singleTarget => singleTarget call
  | .declaredGroup => declaredGroup call
  | .simpleStatement => simpleStatement call
  | .block => block call
  | .elseBranch => branch call "elif"
  | .closedPattern => closedPattern call
  | .starPattern => starPattern

/-- The depth to which rules are nested at most for one token. -/
def depthPerToken : Nat := 40

end Grammar

/-- The statements of a text. -/
def statementsOf (text : String) : Except SourceError (List Stmt) :=
  if text.toList.contains '\x00' then .error ⟨.nullCharacter, 1⟩
  else
    let (tokens, last) := tokensFrom 1 text.toList
    let call := Reader.rules Grammar.table (Grammar.depthPerToken * (text.length + 2))
    Reader.readAll (Grammar.file call) tokens last

end RecordForge.Source

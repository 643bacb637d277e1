import RecordForge.Source.Reader
import RecordForge.Text.Cut
import RecordForge.Text.NormalForm

/-!
# Names in the grammar

A name is read in its normal form. Paths are names with points between them.
-/

namespace RecordForge.Source.Grammar

open Reader

/-- The name that a token stands for. -/
def idOf (t : Token) : String :=
  Text.normalForm t.text

/-- A name as an expression. -/
def nameOf (t : Token) : Expr :=
  .mk t.line (.name (idOf t))

/-- A name. -/
def nameId : Reader String :=
  return idOf (← name)

/-- A name that stands for a value. -/
def nameExpr : Reader Expr :=
  return nameOf (← name)

/-- A name behind a word, if the word is there. -/
def nameBehind (w : String) : Reader (Option String) :=
  attempt (do pass w; nameId)

/-- Names with points between them. -/
def dottedName : Reader String :=
  return Text.joined '.' (← separated "." nameId)

end RecordForge.Source.Grammar

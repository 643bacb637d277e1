import RecordForge.Storage
import RecordForge.Value.Text

/-!
# Columns

A column of a stored record: its name, what it stores, and the flags it was declared with. Storing a
value converts it to the kind of the column, so that every stored value other than null has one
shape per kind: an integer, a text or a floating-point number. A column refuses what it cannot
convert, with an error that shows the value; some errors are no refusals and go through to the
caller (`ColumnError.escapes`).
-/

namespace RecordForge

/-- A column. The label tells columns of equal content apart; a column without a kind stores nothing
but null. -/
structure Column where
  label : String
  kind : Option StorageKind
  name : String
  allowNull : Value := .bool true
  primary : Value := .bool false
  version : Value := .int 1
deriving Inhabited

/-- Why a value cannot be stored in a column. -/
inductive ColumnError where
  /-- The record has no such column in its version. -/
  | undefined (column : String) (version : Value)
  /-- The column does not take null. -/
  | null (column : String)
  /-- The value does not denote anything of the column's kind. -/
  | invalid (column : String) (value : Value)
  /-- An integer column met an infinity. -/
  | infinite
  /-- A floating-point column met an integer beyond its range. -/
  | tooLarge
deriving Inhabited

namespace ColumnError

/-- The value that the wording of the error shows. -/
def subject? : ColumnError → Option Value
  | .undefined _ version => some version
  | .invalid _ value => some value
  | _ => none

/-- Whether the wording of the error shows a value that has no text. -/
def isUnwritable (e : ColumnError) : Bool :=
  e.subject?.any fun v => !v.isWritable

/-- The wording of the error as it would be if every value had a text. -/
def wording : ColumnError → String
  | .undefined column version =>
    "Column " ++ Text.quoted column ++ " is not defined in version " ++ version.plain
  | .null column => "Column " ++ Text.quoted column ++ " does not allow null"
  | .invalid column value =>
    "Invalid value for column " ++ Text.quoted column ++ ": " ++ value.shown
  | .infinite => "cannot convert float infinity to integer"
  | .tooLarge => "int too large to convert to float"

/-- The wording of the error. -/
def message (e : ColumnError) : String :=
  if e.isUnwritable then Unwritable.message {} else e.wording

/-- Whether the error is of a kind that is not expected of a column and goes through to the caller:
a number that is out of range, or a refusal that cannot be worded. -/
def escapes : ColumnError → Bool
  | .infinite => true
  | .tooLarge => true
  | e => e.isUnwritable

end ColumnError

namespace Column

/-- The class that a column belongs to. -/
def className (c : Column) : String :=
  match c.kind with
  | some kind => kind.columnClass
  | none => "Column"

/-- The kind of a column by name. -/
def kindName (c : Column) : String :=
  match c.kind with
  | some kind => kind.name
  | none => "UNSUPPORTED"

/-- The text of a column. -/
def shown (c : Column) : String :=
  c.className ++ "(" ++ Text.quoted c.name ++ ", allow_null=" ++ c.allowNull.shown
    ++ ", primary=" ++ c.primary.shown ++ ", version=" ++ c.version.shown ++ ")"

/-- The text of a column, if all that was written has one. -/
def write (c : Column) : Except Unwritable String :=
  Value.writing [c.allowNull, c.primary, c.version] c.shown

/-! ## Conversion -/

/-- The integer that a value denotes; floating-point numbers are cut off at the point. -/
def toInteger (column : String) : Value → Except ColumnError Int
  | .bool b => .ok (if b then 1 else 0)
  | .int n => .ok n
  | .float (.infinite _) => .error .infinite
  | .float x =>
    match x.truncate? with
    | some n => .ok n
    | none => .error (.invalid column (.float x))
  | .text s =>
    match Numeral.integer? s with
    | some n => .ok n
    | none => .error (.invalid column (.text s))
  | v => .error (.invalid column v)

/-- The floating-point number nearest to an integer, if it is in range. -/
def floatOfInt (n : Int) : Except ColumnError Binary64 :=
  match Binary64.ofInt n with
  | .infinite _ => .error .tooLarge
  | x => .ok x

/-- The floating-point number that a value denotes. -/
def toFloat (column : String) : Value → Except ColumnError Binary64
  | .bool b => .ok (Binary64.ofInt (if b then 1 else 0))
  | .int n => floatOfInt n
  | .float x => .ok x
  | .text s =>
    match Numeral.float? s with
    | some x => .ok x
    | none => .error (.invalid column (.text s))
  | v => .error (.invalid column v)

/-- Converts a value other than null to a kind. -/
def convertTo (column : String) : StorageKind → Value → Except ColumnError Value
  | .integer, v => (toInteger column v).map Value.int
  | .long, v => (toInteger column v).map Value.int
  | .text, v => if v.isWritable then .ok (.text v.plain) else .error (.invalid column v)
  | .double, v => (toFloat column v).map Value.float

/-- Converts a value for storage in the column; null stays null. -/
def convert (c : Column) (v : Value) : Except ColumnError Value :=
  match v with
  | .null => .ok .null
  | v =>
    match c.kind with
    | some kind => convertTo c.name kind v
    | none => .error (.invalid c.name v)

end Column

end RecordForge

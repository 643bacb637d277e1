import RecordForge.Text.Blank
import RecordForge.Text.Case

/-!
# Storage

The kinds of column, and the declared types that each can store. The name of a declared type is read
in any case and with blanks around it.
-/

namespace RecordForge

/-- What a column stores. -/
inductive StorageKind where
  | integer
  | long
  | text
  | double
deriving DecidableEq, Repr, Inhabited

namespace StorageKind

/-- The name of the kind. -/
def name : StorageKind → String
  | integer => "INTEGER"
  | long => "LONG"
  | text => "TEXT"
  | double => "DOUBLE"

/-- The class of columns of this kind. -/
def columnClass : StorageKind → String
  | integer => "IntegerColumn"
  | long => "LongColumn"
  | text => "TextColumn"
  | double => "DoubleColumn"

/-- All kinds. -/
def all : List StorageKind :=
  [integer, long, text, double]

/-- The kind of the columns of a class. -/
def ofColumnClass? (className : String) : Option StorageKind :=
  all.find? (·.columnClass = className)

end StorageKind

/-- How a declared type is stored: the kind of column, the type that accessors show, the operation
that fetches a value, and whether the accessors turn the stored number into a truth value. -/
structure TypeMapping where
  kind : StorageKind
  valueType : String
  retrieval : String
  boolean : Bool
deriving DecidableEq, Repr

namespace TypeMapping

/-- The declared types that can be stored, by their names in small letters. -/
def table : List (String × TypeMapping) := [
  ("int", ⟨.integer, "int", "get_integer_value", false⟩),
  ("bool", ⟨.integer, "bool", "get_integer_value", true⟩),
  ("boolean", ⟨.integer, "bool", "get_integer_value", true⟩),
  ("long", ⟨.long, "int", "get_long_value", false⟩),
  ("float", ⟨.double, "float", "get_double_value", false⟩),
  ("double", ⟨.double, "float", "get_double_value", false⟩),
  ("str", ⟨.text, "str", "get_text_value", false⟩),
  ("string", ⟨.text, "str", "get_text_value", false⟩),
  ("java.lang.string", ⟨.text, "str", "get_text_value", false⟩)]

/-- How a declared type is stored, if it can be. -/
def ofType? (typeName : String) : Option TypeMapping :=
  table.lookup (String.ofList (Text.lower (Text.strip Text.isBlank typeName.toList)))

end TypeMapping

end RecordForge

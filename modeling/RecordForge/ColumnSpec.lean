import RecordForge.Config
import RecordForge.Declaration
import RecordForge.Diagnostic
import RecordForge.Naming
import RecordForge.Storage
import RecordForge.Text.Identifier

/-!
# Column specifications

The specification of a column is what remains of a field declaration once its annotation is read:
the column's name, flags and version, the constant that holds it, and its accessors. A flag or
version that cannot be read is reported and replaced by its default, a field without identifier or
type or of a type that cannot be stored is reported and gives no specification.
-/

namespace RecordForge

open RecordForge.Naming

/-- The definition of a column in a generated class: a constant bound to a column. -/
structure ColumnField where
  constantName : String
  columnClass : String
  columnName : String
  allowNull : Bool
  primary : Bool
  version : Int
deriving DecidableEq, Repr, Inhabited

/-- An accessor of a column. Getters have no parameter. -/
structure Accessor where
  name : String
  kind : AccessorKind
  constantName : String
  valueType : String
  retrieval : String
  parameter : Option String := none
  boolean : Bool := false
deriving DecidableEq, Repr

/-- The names that the accessors of a field use. -/
structure AccessorNames where
  getter : String
  setter : String
  parameter : String
deriving DecidableEq, Repr

/-- The specification of a column. -/
structure ColumnSpec where
  columnName : String
  kind : StorageKind
  allowNull : Bool
  primary : Bool
  version : Int
  constantName : String
  field : Option ColumnField
  accessorNames : Option AccessorNames := none
  getter : Option Accessor := none
  setter : Option Accessor := none
deriving DecidableEq, Repr

/-! ## Reading annotations -/

/-- The truth value that was written: a truth value itself, or a text that reads `true` or `false`
in any case and with blanks around it. -/
def flag? : Value → Option Bool
  | .bool b => some b
  | .text s =>
    let word := Text.lower (Text.strip Text.isBlank s.toList)
    if word = "true".toList then some true
    else if word = "false".toList then some false
    else none
  | _ => none

/-- Reads a flag, falling back to its default with a warning. -/
def readFlag (raw : Value) (default : Bool) (flag field : String) : Reported Bool :=
  match flag? raw with
  | some b => pure b
  | none => do
    Reported.warn "parse %s for [%s] failed: %r, use default %s"
      [.text flag, .text field, raw, .bool default]
    return default

/-- The version of a column that does not declare a usable one. -/
def firstVersion : Int := 1

/-- Reads a column's version, falling back to the first one with a warning. -/
def readVersion (raw : Value) (field : String) : Reported Int :=
  match raw.positive? with
  | some n => pure n
  | none => do
    Reported.warn "invalid version for [%s]: %r, use default %d"
      [.text field, raw, .int firstVersion]
    return firstVersion

/-! ## Building a specification -/

/-- A parameter name that can be used: keywords and the receiver's name get an underscore. -/
def safeParameter (name : String) : String :=
  if Text.isKeyword name ∨ name = "self" then name ++ "_" else name

namespace AccessorNames

/-- The names of the accessors of a field. -/
def ofIdentifier (identifier : String) : AccessorNames where
  getter := accessorName identifier .getter
  setter := accessorName identifier .setter
  parameter := safeParameter (parameterName identifier)

end AccessorNames

namespace Accessor

/-- The getter of a column. -/
def getterOf (names : AccessorNames) (constant : String) (mapping : TypeMapping) : Accessor :=
  ⟨names.getter, .getter, constant, mapping.valueType, mapping.retrieval, none, mapping.boolean⟩

/-- The setter of a column. -/
def setterOf (names : AccessorNames) (constant : String) (mapping : TypeMapping) : Accessor :=
  ⟨names.setter, .setter, constant, mapping.valueType, mapping.retrieval, some names.parameter,
    mapping.boolean⟩

end Accessor

namespace ColumnSpec

/-- The column of a field: the annotated name, or one derived from the identifier if that is
empty. -/
def chooseName (annotated : Option String) (identifier : String) : String :=
  match annotated with
  | none => Naming.columnName identifier
  | some name => if name = "" then Naming.columnName identifier else name

/-- A specification without accessors. -/
def plain (columnName : String) (mapping : TypeMapping) (allowNull primary : Bool) (version : Int) :
    ColumnSpec :=
  let constant := Naming.constantName columnName
  { columnName, kind := mapping.kind, allowNull, primary, version, constantName := constant,
    field := some ⟨constant, mapping.kind.columnClass, columnName, allowNull, primary, version⟩ }

/-- Adds the accessors of a field. -/
def withAccessors (spec : ColumnSpec) (identifier : String) (mapping : TypeMapping) : ColumnSpec :=
  let names := AccessorNames.ofIdentifier identifier
  { spec with
    accessorNames := some names
    getter := some (Accessor.getterOf names spec.constantName mapping)
    setter := some (Accessor.setterOf names spec.constantName mapping) }

/-- The specification of a field that has an identifier and a type. -/
def ofNamed (config : Config) (identifier typeName : String) (column : ColumnAnnotation) :
    Reported (Option ColumnSpec) := do
  Reported.note "dbfield: name = %s" [.text identifier]
  Reported.note "dbfield: type = %s" [.text typeName]
  Reported.note "dbfield: version = %s" [column.version]
  let name := chooseName column.name identifier
  let nullable ← readFlag column.allowNull true "allow_null" identifier
  let primary ← readFlag column.primary false "primary" identifier
  let version ← readVersion column.version identifier
  match TypeMapping.ofType? typeName with
  | none => do
    Reported.warn "[%s] of field [%s] is unsupported data type. ignored!"
      [.text typeName, .text identifier]
    return none
  | some mapping =>
    -- A primary key is never null, whatever the other flag says.
    let spec := plain name mapping (nullable && !primary) primary version
    if config.generateAccessors then return some (spec.withAccessors identifier mapping)
    else return some spec

/-- The specification of a field, if it has one. -/
def ofField (config : Config) (field : FieldDeclaration) : Reported (Option ColumnSpec) :=
  match field.identifier, field.typeName with
  | some identifier, some typeName =>
    if identifier = "" ∨ typeName = "" then missing field
    else ofNamed config identifier typeName field.column
  | _, _ => missing field
where
  /-- Reports a field without identifier or type. -/
  missing (field : FieldDeclaration) : Reported (Option ColumnSpec) := do
    Reported.warn "field [%s] of type [%s] has no name or type. ignored!"
      [Value.ofText? field.identifier, Value.ofText? field.typeName]
    return none

/-- Whether a specification is complete: it defines a column, and has both accessors if they are
required. -/
def isComplete (spec : ColumnSpec) (requireAccessors : Bool) : Bool :=
  spec.field.isSome && (!requireAccessors || (spec.getter.isSome && spec.setter.isSome))

/-- The names that a specification takes in the generated class, in the order in which clashes are
looked for. -/
def names (spec : ColumnSpec) : List String :=
  spec.constantName :: match spec.accessorNames with
    | some a => [a.getter, a.setter]
    | none => []

end ColumnSpec

end RecordForge

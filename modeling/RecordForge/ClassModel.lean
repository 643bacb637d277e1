import RecordForge.Selection
import RecordForge.Versions

/-!
# Class models

The model of a generated class: its columns, their groups by version, its accessors and its
constructors. A type without a column to keep has no model.
-/

namespace RecordForge

/-- A constructor of a generated class. One without a version initialises the object itself; one
with a version calls the class with that version. -/
structure Constructor where
  name : String
  parameters : List String
  delegateVersion : Option Int := none
deriving DecidableEq, Repr

/-- The model of a generated class. -/
structure ClassModel where
  typeName : String
  package : String
  className : String
  superclass : String
  runtimeModule : String
  latestVersion : Int
  fields : List ColumnField
  accessors : List Accessor
  groups : List VersionGroup
  constructors : List Constructor
deriving DecidableEq, Repr

namespace ClassModel

/-- The versions that a generated class knows. -/
def versions (m : ClassModel) : List Int :=
  m.groups.map (·.version)

/-- The type that the class is generated for, with its package. -/
def origin (m : ClassModel) : String :=
  qualify m.package m.typeName

/-- The logger of the models that are built. -/
def logger : String := "dbobjgen.synthesizer"

/-- Reads the latest version of a type, falling back to the configured one with a warning. -/
def readLatestVersion (config : Config) (declaration : TypeDeclaration) : Reported Int :=
  match declaration.latestVersion.positive? with
  | some n => pure n
  | none => do
    Reported.warn "invalid latest version for [%s]: %r, use default %d"
      [.text declaration.qualifiedName, declaration.latestVersion, .int config.defaultVersion]
    return config.defaultVersion

/-- Versions separated by commas. -/
def versionsText (versions : List Int) : Except Unwritable String :=
  Value.writing (versions.map .int) (", ".intercalate (versions.map toString))

/-- Warns if no column has the latest version, with the versions that have some. -/
def checkLatestVersion (declaration : TypeDeclaration) (latest : Int) (versions : List Int) :
    Reported (Except Unwritable Unit) :=
  if latest ∈ versions then pure (.ok ())
  else Reported.proceed (versionsText versions) fun text => do
    Reported.warn "latest version %d of [%s] has no columns (versions: %s)"
      [.int latest, .text declaration.qualifiedName, .text text]
    return .ok ()

/-- The accessors of a specification that has both. -/
def accessorsOf (spec : ColumnSpec) : List Accessor :=
  match spec.getter, spec.setter with
  | some getter, some setter => [getter, setter]
  | _, _ => []

/-- The constructors of a generated class. -/
def constructorsFor (latest : Int) : List Constructor :=
  [⟨"__init__", ["context", "version"], none⟩, ⟨"latest", ["context"], some latest⟩]

/-- The model made of the specifications that are kept and the constants for their versions. -/
def ofSpecs (config : Config) (declaration : TypeDeclaration) (latest : Int)
    (specs : List ColumnSpec) (groups : List VersionGroup) : ClassModel where
  typeName := declaration.name
  package := declaration.package
  className := Naming.className declaration.name config.classSuffix
  superclass := config.baseClass
  runtimeModule := config.runtimeModule
  latestVersion := latest
  fields := specs.filterMap (·.field)
  accessors := specs.flatMap accessorsOf
  groups
  constructors := constructorsFor latest

/-- The model of the specifications that are kept, if there are any. There is none either if one of
their versions has no text to name a constant by. -/
def ofSelected (config : Config) (declaration : TypeDeclaration) (specs : List ColumnSpec) :
    Reported (Except Unwritable (Option ClassModel)) :=
  if specs.isEmpty then do
    Reported.warn "[%s] has no valid columns. skipped!" [.text declaration.qualifiedName]
    return .ok none
  else do
    let latest ← readLatestVersion config declaration
    let partition := VersionGroups.partition (·.version) specs
    let versions := partition.map Prod.fst
    Reported.proceed (VersionGroup.ofGroups (·.constantName) partition) fun groups => do
      Reported.proceed (← checkLatestVersion declaration latest versions) fun _ => do
        Reported.log logger .debug ("built "
          ++ Naming.className declaration.name config.classSuffix ++ ": "
          ++ toString specs.length ++ " columns, versions "
          ++ (Value.list (versions.map Value.int)).shown)
        return .ok (some (ofSpecs config declaration latest specs groups))

/-- The model of a type, if it has a column to keep and its versions can be written. -/
def build (config : Config) (declaration : TypeDeclaration) :
    Reported (Except Unwritable (Option ClassModel)) := do
  Reported.note "gen class: %s.%s"
    [.text declaration.package, .text (Naming.className declaration.name config.classSuffix)]
  ofSelected config declaration (← ColumnSpec.select config declaration.fields)

end ClassModel

end RecordForge

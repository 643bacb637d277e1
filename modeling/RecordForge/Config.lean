/-!
# Configuration

The choices that hold for a whole run of the generator.
-/

namespace RecordForge

/-- The module that records and columns come from. -/
def recordModule : String := "dbobjgen.dataobject"

/-- The class of records. -/
def recordClass : String := "DatabaseObject"

/-- The configuration of the generator. -/
structure Config where
  /-- What follows the type name in the name of a generated class. -/
  classSuffix : String := "DBObject"
  /-- The module that generated classes import their base class and columns from. -/
  runtimeModule : String := recordModule
  /-- The base class of generated classes. -/
  baseClass : String := recordClass
  /-- Whether accessors are generated. -/
  generateAccessors : Bool := true
  /-- The latest version of a type that does not declare a usable one. -/
  defaultVersion : Int := 1
deriving Inhabited, Repr

end RecordForge

import RecordForge.ClassModel

/-!
# The source of a generated class

What the text of a generated class says, free of its layout: an import, a class with a documentation
string, the constants that hold its columns and the columns of each version, and its methods. A
method body is one of the few things that such a class does, so that the same source can be written
out and run.
-/

namespace RecordForge

/-- The choice of the columns that an object registers, by its version: a chain of tests that ends
in the error for an unknown version. -/
inductive Dispatch where
  /-- No version fits; `known` are the versions that do. -/
  | unknown (known : List Int)
  /-- Registers the columns of `group` in this version, and goes on with the chain in any other. -/
  | whenVersion (version : Int) (group : String) (otherwise : Dispatch)
deriving Repr, Inhabited

/-- What a method does. -/
inductive MethodBody where
  /-- Initialises the base with the named arguments, then registers the columns. -/
  | setUp (arguments : List String)
  /-- Makes an object of the class from the named arguments and a version. -/
  | delegate (arguments : List String) (version : Int)
  /-- Registers the columns of the object's version. -/
  | register (dispatch : Dispatch)
  /-- Gives back the value of a column, as a truth value if `asTruth` holds. -/
  | fetch (retrieval column : String) (asTruth : Bool)
  /-- Sets a column to a parameter, as one or zero if `asNumber` holds. -/
  | store (column parameter : String) (asNumber : Bool)
deriving Repr, Inhabited

/-- What a method is declared to give back. -/
inductive Returns where
  | nothing
  /-- The class itself, whose name is quoted as it is not bound yet. -/
  | ownClass (name : String)
  | type (name : String)
deriving Repr, Inhabited

/-- A parameter; one without a type has none declared. -/
structure Parameter where
  name : String
  type : Option String := none
deriving Repr, Inhabited

/-- A method. The receiver, which is the class or an object of it, is not among the parameters. -/
structure Method where
  name : String
  onClass : Bool := false
  parameters : List Parameter
  returns : Returns
  body : MethodBody
deriving Repr, Inhabited

/-- The source of a generated class. -/
structure ClassSource where
  /-- The type that the class is generated for. -/
  origin : String
  runtimeModule : String
  /-- The names imported from the runtime module. -/
  imports : List String
  name : String
  superclass : String
  doc : String
  columns : List ColumnField
  groups : List VersionGroup
  methods : List Method
deriving Repr, Inhabited

/-- The name of the receiver of a method. -/
def Method.receiver (m : Method) : String :=
  if m.onClass then "cls" else "self"

/-- The names of all parameters, the receiver's first. -/
def Method.signature (m : Method) : List String :=
  m.receiver :: m.parameters.map (·.name)

/-! ## From a model -/

/-- The method that registers the columns of an object. -/
def registerName : String := "_init_members"

/-- The error for a version without columns. -/
def unknownVersionName : String := "UnknownVersionError"

namespace Dispatch

/-- Tests for the versions of groups in their order. -/
def ofGroups (groups : List VersionGroup) : Dispatch :=
  groups.foldr (fun g rest => .whenVersion g.version g.name rest)
    (.unknown (groups.map (·.version)))

end Dispatch

namespace Method

/-- The type of a parameter of an initialiser. -/
def initializerType (parameter : String) : Option String :=
  if parameter = "version" then some "int" else none

/-- The method of a constructor. -/
def ofConstructor (className : String) (c : Constructor) : Method :=
  match c.delegateVersion with
  | none =>
    { name := c.name
      parameters := c.parameters.map fun p => ⟨p, initializerType p⟩
      returns := .nothing
      body := .setUp c.parameters }
  | some version =>
    { name := c.name
      onClass := true
      parameters := c.parameters.map fun p => ⟨p, none⟩
      returns := .ownClass className
      body := .delegate c.parameters version }

/-- The method that registers the columns. -/
def registering (groups : List VersionGroup) : Method where
  name := registerName
  parameters := []
  returns := .nothing
  body := .register (Dispatch.ofGroups groups)

/-- The parameter of a setter; one without a name of its own is called `value`. -/
def setterParameter (a : Accessor) : String :=
  match a.parameter with
  | none => "value"
  | some p => if p = "" then "value" else p

/-- The type of a setter's parameter. -/
def setterType (a : Accessor) : Option String :=
  if a.valueType = "" then none else some a.valueType

/-- The method of an accessor. -/
def ofAccessor (a : Accessor) : Method :=
  match a.kind with
  | .getter =>
    { name := a.name
      parameters := []
      returns := .type a.valueType
      body := .fetch a.retrieval a.constantName a.boolean }
  | .setter =>
    { name := a.name
      parameters := [⟨setterParameter a, setterType a⟩]
      returns := .nothing
      body := .store a.constantName (setterParameter a) a.boolean }

end Method

namespace ClassSource

/-- Puts a name into an ascending list, unless it is there. -/
def insertName (name : String) : List String → List String
  | [] => [name]
  | n :: rest =>
    if name = n then n :: rest
    else if name < n then name :: n :: rest
    else n :: insertName name rest

/-- The names that a class imports, each once and in ascending order. -/
def importsOf (m : ClassModel) : List String :=
  (m.superclass :: unknownVersionName :: m.fields.map (·.columnClass)).foldr insertName []

/-- The source of the class of a model. -/
def ofModel (m : ClassModel) : ClassSource where
  origin := m.origin
  runtimeModule := m.runtimeModule
  imports := importsOf m
  name := m.className
  superclass := m.superclass
  doc := "Database object for " ++ m.origin ++ "."
  columns := m.fields
  groups := m.groups
  methods := m.constructors.map (Method.ofConstructor m.className)
    ++ [Method.registering m.groups] ++ m.accessors.map Method.ofAccessor

end ClassSource

end RecordForge

import RecordForge.Config
import RecordForge.Source.NameReading
import RecordForge.Source.RunError
import RecordForge.Source.Syntax

/-!
# Generated classes at work

A loaded class holds the constants and methods that its source declares under their names as they
are read. Constructing an object runs the initialiser of the class, and a call runs a method on a
record. The record that a class builds on has methods of its own; a method of the class takes their
place everywhere, also where the record's and the class's other methods call them by name.
-/

namespace RecordForge

/-! ## What a class can build on -/

/-- The class of an object's base that sets it up. Only the class of records makes sense of the
arguments that a generated class passes on. -/
inductive Base where
  | record
  | column
  | template
  | unknownVersion
  /-- An error that takes whatever it is given. -/
  | anyError
  /-- The class of all objects, which takes no arguments. -/
  | root
deriving DecidableEq, Repr, Inhabited

/-- The class of the module for records that has the name. -/
def Base.ofName? (name : String) : Option Base :=
  if name = recordClass then some .record
  else if name = "Column" ∨ (StorageKind.ofColumnClass? name).isSome then some .column
  else if name = "Template" then some .template
  else if name = unknownVersionName then some .unknownVersion
  else if name = "ColumnValueError" then some .anyError
  else none

/-! ## Loaded classes -/

/-- A class that has been loaded. -/
structure LoadedClass where
  name : String
  /-- The names of the classes that it builds on. -/
  bases : List String
  base : Base := .record
  /-- Whether records are among the classes that it builds on. -/
  onRecords : Bool := true
  doc : String
  columns : List (String × Column) := []
  groups : List (String × List Column) := []
  methods : List (String × Method) := []
  /-- The class methods that can be called on objects alone. -/
  unbound : List String := []
  /-- Why names that the methods use cannot be used. -/
  faults : List (String × RunError) := []
deriving Inhabited

/-- The operations of a record that fetch the value of a column, apart from `get_value`. -/
def typedRetrievals : List String :=
  ["get_integer_value", "get_long_value", "get_text_value", "get_double_value"]

/-- The name of what makes an object before it is set up. -/
def makerName : String := "__new__"

/-- The name under which a method finds the base of its class. -/
def baseName : String := "super"

namespace Method

/-- A method with its names as they are read within a class. -/
def asRead (className : String) (m : Method) : Method :=
  { m with
    name := Text.readName m.name
    parameters := m.parameters.map fun p =>
      { p with name := Text.nameWithin className (Text.readName p.name) }
    body := match m.body with
      | .fetch retrieval column asTruth => .fetch retrieval (Text.readName column) asTruth
      | .store column parameter asNumber =>
        .store (Text.readName column) (Text.nameWithin className (Text.readName parameter)) asNumber
      | body => body }

end Method

namespace LoadedClass

/-- The method of a name, if the class defines one. -/
def method? (c : LoadedClass) (name : String) : Option Method :=
  contentAt? c.methods name

/-- The methods that stand in the class as functions of their own. -/
def functions (c : LoadedClass) : List Method :=
  (c.methods.map Prod.snd).filter fun m => !m.onClass || c.unbound.contains m.name

/-- Fails if a name cannot be used. -/
def checkUsable (c : LoadedClass) (name : String) : Except RunError Unit :=
  match contentAt? c.faults name with
  | some e => .error e
  | none => .ok ()

/-- How the class names one of its methods in an error. -/
def qualified (c : LoadedClass) (m : Method) : String :=
  c.name ++ "." ++ m.name

/-- The constant of the class that holds a column. -/
def column (c : LoadedClass) (constant : String) : Except RunError Column :=
  match contentAt? c.columns constant with
  | some column => .ok column
  | none => .error (.noAttribute c.name constant)

/-- The constant of the class that holds the columns of a version. -/
def group (c : LoadedClass) (constant : String) : Except RunError (List Column) :=
  match contentAt? c.groups constant with
  | some columns => .ok columns
  | none => .error (.noAttribute c.name constant)

/-! ## Calls -/

/-- Checks that a method takes a number of arguments besides the receiver. -/
def checkArity (c : LoadedClass) (m : Method) (given : Nat) : Except RunError Unit :=
  let takes := m.parameters.length
  if takes < given then .error (.arity (.tooMany (c.qualified m) (takes + 1) (given + 1)))
  else if given < takes then
    .error (.arity (.missing (c.qualified m) ((m.parameters.drop given).map (·.name))))
  else .ok ()

/-- The arguments of a method by the names of its parameters. -/
def bindArguments (c : LoadedClass) (m : Method) (arguments : List Value) :
    Except RunError (List (String × Value)) := do
  c.checkArity m arguments.length
  return (m.parameters.map (·.name)).zip arguments

/-- The argument bound to a name. -/
def argument (bound : List (String × Value)) (name : String) : Except RunError Value :=
  match contentAt? bound name with
  | some v => .ok v
  | none => .error (.unbound name)

/-- Fails if the class has a method of that name: it is called with arguments that only the record's
own method takes. -/
def checkNotReplaced (c : LoadedClass) (name : String) (given : Nat) : Except RunError Unit :=
  match c.method? name with
  | none => .ok ()
  | some m => do
    c.checkArity m given
    .error (.notCallable (c.qualified m))

/-- The value of a column by the record's basic operation. -/
def getValue (c : LoadedClass) (r : Record) (column : Column) : Except RunError Value := do
  c.checkNotReplaced "get_value" 1
  return r.value column

/-- The value of a column by one of the record's operations. -/
def retrieve (c : LoadedClass) (r : Record) (retrieval constant : String) :
    Except RunError Value :=
  if retrieval = "get_value" then do
    let column ← c.column constant
    c.getValue r column
  else if retrieval ∈ typedRetrievals ∨ (c.method? retrieval).isSome then do
    let column ← c.column constant
    c.checkNotReplaced retrieval 1
    c.getValue r column
  else .error (.noAttribute c.name retrieval)

/-- What a getter gives back. -/
def fetch (c : LoadedClass) (r : Record) (retrieval constant : String) (asTruth : Bool) :
    Except RunError Value := do
  let v ← c.retrieve r retrieval constant
  return if asTruth then .bool (v.equalsInt 1) else v

/-- What a setter makes of the record. -/
def store (c : LoadedClass) (r : Record) (constant : String) (v : Value) (asNumber : Bool) :
    Except RunError Record := do
  let column ← c.column constant
  c.checkNotReplaced "set_value" 2
  let v := if asNumber then .int (if v.truth then 1 else 0) else v
  (r.setValue column v).mapError RunError.column

/-- What an object answers when it is asked for its template: the template itself, or the value that
a method of the class gives in its place. -/
def templateOf (c : LoadedClass) (r : Record) : Except RunError (Option Value) :=
  match c.method? "get_template" with
  | none => .ok none
  | some m => do
    c.checkArity m 0
    match m.body with
    | .fetch retrieval constant asTruth => some <$> c.fetch r retrieval constant asTruth
    | _ => .error (.notCallable (c.qualified m))

/-- The error for an unknown version, or the one that making it ends in. A class that has the name of
the error takes its place, and so makes one object after the other to report what it is asked
for. -/
def unknownVersion (c : LoadedClass) (e : UnknownVersion) : RunError :=
  if c.name = unknownVersionName then .endless
  else
    match e.write with
    | .ok _ => .unknownVersion e
    | .error failure => .unwritable failure

/-- Registers the columns of a version, given the answer for the template. -/
def runDispatch (c : LoadedClass) (r : Record) (replaced : Option Value) :
    Dispatch → Except RunError Record
  | .unknown known => do
    c.checkUsable unknownVersionName
    .error (c.unknownVersion ⟨r.version, known.map Value.int⟩)
  | .whenVersion version group rest =>
    if r.version.equalsInt version then
      match replaced with
      | some v => .error (.noAttribute v.kindName "add_columns")
      | none => do
        let columns ← c.group group
        return r.addColumns columns
    else c.runDispatch r replaced rest

/-- Runs the method that registers the columns. -/
def runRegister (c : LoadedClass) (r : Record) (dispatch : Dispatch) : Except RunError Record := do
  let replaced ← c.templateOf r
  c.runDispatch r replaced dispatch

/-- Registers the columns by the method that is meant for it. -/
def registerColumns (c : LoadedClass) (r : Record) : Except RunError Record :=
  match c.method? registerName with
  | none => .error (.noAttribute c.name registerName)
  | some m =>
    match m.body with
    | .register dispatch => c.runRegister r dispatch
    | _ => .error (.notCallable (c.qualified m))

/-! ## Objects -/

/-- A record before any column is registered. -/
def blank : List Value → Except RunError Record
  | [context] => .ok { context }
  | [context, version] => .ok { context, version }
  | _ => .error (.notCallable (recordClass ++ ".__init__"))

/-- What an object lacks that no record was set up for. -/
def templateName (c : LoadedClass) : String :=
  if c.onRecords then "_template" else "get_template"

/-- The record that the initialiser of a base makes of its arguments. -/
def Base.initialise (c : LoadedClass) (arguments : List Value) : Base → Except RunError Record
  | .record => blank arguments
  | .column => .error (.arity (.tooMany "Column.__init__" 2 (arguments.length + 1)))
  | .template => .error (.arity (.tooMany "Template.__init__" 1 (arguments.length + 1)))
  | .unknownVersion =>
    match arguments.getLast? with
    | some (.text _) | some (.list _) | some (.dict _) => templateMissing
    | some v => .error (.notIterable v.kindName)
    | none => templateMissing
  | .anyError => templateMissing
  | .root => .error (.arity (.receiverOnly "object.__init__"))
where
  /-- The error of an object that has no template to register columns with. -/
  templateMissing : Except RunError Record :=
    .error (.noAttribute c.name c.templateName)

/-- Makes an object of the class. -/
def construct (c : LoadedClass) (arguments : List Value) : Except RunError Record := do
  c.checkUsable makerName
  match c.method? "__init__" with
  | none => Base.initialise c arguments c.base
  | some m => do
    let bound ← c.bindArguments m arguments
    match m.body with
    | .setUp names => do
      c.checkUsable baseName
      let r ← Base.initialise c (← names.mapM (argument bound)) c.base
      c.registerColumns r
    | _ => .error (.notCallable (c.qualified m))

/-- Makes an object of the class by a method that supplies the version. -/
def constructBy (c : LoadedClass) (name : String) (arguments : List Value) :
    Except RunError Record :=
  match c.method? name with
  | none => .error (.noAttribute c.name name)
  | some m => do
    c.checkUsable name
    let bound ← c.bindArguments m arguments
    match m.body with
    | .delegate names version => do
      c.construct ((← names.mapM (argument bound)) ++ [.int version])
    | _ => .error (.notCallable (c.qualified m))

/-- Calls a method that the record brings along. Its columns are no values, so that an operation on
a column fails on any value. -/
def callInherited (c : LoadedClass) (r : Record) (name : String) (arguments : List Value) :
    Except RunError Value :=
  let function := recordClass ++ "." ++ name
  let takes (parameters : List String) : Except RunError Unit :=
    if parameters.length < arguments.length then
      .error (.arity (.tooMany function (parameters.length + 1) (arguments.length + 1)))
    else if arguments.length < parameters.length then
      .error (.arity (.missing function (parameters.drop arguments.length)))
    else .ok ()
  let noColumn : Except RunError Value :=
    .error (.noAttribute ((arguments.headD .null).kindName) "name")
  if name = "to_dict" then do
    takes []
    return .dict r.toEntries
  else if name = "get_value" ∨ name ∈ typedRetrievals then do
    takes ["column"]
    if name ≠ "get_value" then c.checkNotReplaced "get_value" 1
    noColumn
  else if name = "set_value" then do
    takes ["column", "value"]
    noColumn
  else if name = "context" then .error (.notFunction r.context.kindName)
  else if name = "version" then .error (.notFunction r.version.kindName)
  else
    match contentAt? c.columns name with
    | some column => .error (.notFunction column.className)
    | none =>
      if (contentAt? c.groups name).isSome then .error (.notFunction "tuple")
      else .error (.noAttribute c.name name)

/-- Calls a method on an object: what it gives back, and the object afterwards. -/
def call (c : LoadedClass) (r : Record) (name : String) (arguments : List Value) :
    Except RunError (Value × Record) :=
  match c.method? name with
  | none => return (← c.callInherited r name arguments, r)
  | some m => do
    let bound ← c.bindArguments m arguments
    match m.body with
    | .fetch retrieval constant asTruth => do
      return (← c.fetch r retrieval constant asTruth, r)
    | .store constant parameter asNumber => do
      return (.null, ← c.store r constant (← argument bound parameter) asNumber)
    | .register dispatch => do
      return (.null, ← c.runRegister r dispatch)
    | _ => .error (.notCallable (c.qualified m))

/-- The methods of a record. -/
def recordMethods : List String :=
  ["__init__", "get_template", "set_value", "get_value", "to_dict"] ++ typedRetrievals

/-- The kind of an attribute of the class that is no column. -/
def attributeKind (c : LoadedClass) (name : String) : Except RunError String :=
  if (contentAt? c.groups name).isSome then .ok "tuple"
  else if (c.method? name).isSome ∨ name ∈ recordMethods then .ok "function"
  else .error (.noClassAttribute c.name name)

/-- The value of a column of the class, by the constant that holds it. -/
def rawValue (c : LoadedClass) (r : Record) (constant : String) : Except RunError Value :=
  match contentAt? c.columns constant with
  | some column => c.getValue r column
  | none => do
    let kind ← c.attributeKind constant
    c.checkNotReplaced "get_value" 1
    .error (.noAttribute kind "name")

end LoadedClass

end RecordForge

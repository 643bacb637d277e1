import RecordForge.Config
import RecordForge.ModuleName
import RecordForge.Running.Items
import RecordForge.Running.ModuleTable

/-!
# Attributes

What stands under a name in a value, in its type or in one of the types that this builds on. Values
of the language have the attributes of their types and take no others.
-/

namespace RecordForge.Running

/-! ## Modules -/

/-- The types that the module for records gives to an import of everything. -/
def recordTypes : List String :=
  words ("Column DatabaseObject DoubleColumn IntegerColumn LongColumn Template TextColumn "
    ++ "UnknownVersionError")

/-- The other names that the module for records holds. -/
def recordNames : List String :=
  words "ColumnValueError StorageKind Any ClassVar Iterable annotations"

/-- The path of a module within a package. -/
def within (package name : String) : String :=
  package ++ "." ++ name

/-- Whether there is a package of the name, if there is a module of it. -/
def isPackage? (path : String) : Option Bool :=
  if packages.any (·.1 = path) then some true
  else if path ∈ plainModules || path = "os.path"
      || packages.any (fun (package, names) => names.any (within package · = path)) then some false
  else none

/-- The names that a module is known to hold. -/
def namesOf? (path : String) : Option (List String) :=
  if path = recordModule then
    some (recordTypes ++ recordNames ++ words "__all__ __file__ __cached__" ++ commonModuleNames)
  else if path = "builtins" then
    some (plainTypes ++ errorTypes ++ builtinFunctions ++ commonModuleNames
      ++ words "None True False Ellipsis NotImplemented EnvironmentError IOError __debug__")
  else (moduleNames.lookup path).map (· ++ commonModuleNames)

/-- The types that modules hold and others do not build on freely. -/
def specialTypes : List (String × List String) :=
  [(recordModule, words "Any ClassVar Iterable StorageKind"), ("typing", words "Any ClassVar"),
    ("collections.abc", ["Iterable"])]

/-- What a module holds under a name. -/
def moduleAttribute? (path name : String) : Option Datum :=
  if path = recordModule ∧ name ∈ recordTypes ++ ["ColumnValueError"] then some (.type name)
  else if ((specialTypes.lookup path).getD []).contains name then some (.type name)
  else if path = "builtins" ∧ name ∈ plainTypes ++ errorTypes then some (.type name)
  else if path = "builtins" ∧ name ∈ builtinFunctions then some (.builtin name)
  else if name = "__name__" then some (.text path)
  else if name = "__class__" then some (.type "module")
  else if (isPackage? (within path name)).isSome then some (.module (within path name))
  else
    match namesOf? path with
    | some names => if name ∈ names then some .unknown else none
    | none => if name ∈ recordTypes then none else some .unknown

/-! ## Types -/

/-- Whether values of a type of the language have an attribute of their own. -/
def hasAttribute (type name : String) : Bool :=
  (builtinChain maxChain type).any fun t => ((attributeNames.lookup t).getD []).contains name

/-- The attributes that hold a value and no operation. -/
def dataAttributes : List String :=
  words ("real imag numerator denominator start stop step args __name__ __qualname__ __doc__ "
    ++ "__module__ __dict__ __class__ __self__ __func__ fget fset fdel value name path msg columns "
    ++ "DOUBLE INTEGER LONG TEXT UNSUPPORTED")

/-- What a chain of types holds under a name, with the type that holds it. -/
def inChain? (name : String) : List Datum → Running (Option (Datum × Datum))
  | [] => return none
  | .type t :: rest =>
    if ((attributeNames.lookup t).getD []).contains name then
      return some (.type t, .operation (.type t) name)
    else inChain? name rest
  | .object place :: rest => do
    match ← thing place with
    | .type t =>
      match contentAt? t.names name with
      | some d => return some (.object place, d)
      | none => inChain? name rest
    | _ => inChain? name rest
  | _ :: rest => inChain? name rest

/-- What an object is given for what its type holds. -/
def onObject (receiver type d : Datum) : Running Datum := do
  match d with
  | .operation (.type _) name =>
    return if name ∈ dataAttributes then .unknown else .operation receiver name
  | .object place =>
    match ← thing place with
    | .function _ => return .bound receiver d
    | .wrapped "staticmethod" f => return f
    | .wrapped "classmethod" f => return .bound type f
    | .wrapped .. => return .unknown
    | _ => return d
  | d => return d

/-- What a type is given for what it or another type in its chain holds. -/
def onType (type d : Datum) : Running Datum := do
  match d with
  | .object place =>
    match ← thing place with
    | .wrapped "staticmethod" f => return f
    | .wrapped "classmethod" f => return .bound type f
    | _ => return d
  | d => return d

/-- Raises the error about an attribute that a value does not have. -/
def noAttribute {α : Type} (d : Datum) (name : String) : Running α := do
  let owner ← match d with
    | .module path => pure ("module '" ++ path ++ "'")
    | d =>
      if ← isType d then pure ("type object '" ++ (← nameOfType d) ++ "'")
      else pure ("'" ++ (← kindOf d) ++ "' object")
  fail "AttributeError" (owner ++ " has no attribute '" ++ name ++ "'")

/-- The attribute of a number. -/
def numberAttribute (d : Datum) (name : String) : Datum :=
  match integral? d, name with
  | some n, "real" | some n, "numerator" => .int n
  | some _, "imag" => .int 0
  | some _, "denominator" => .int 1
  | _, _ => .unknown

/-- The attribute of a value of the language. -/
def builtinAttribute (d : Datum) (name : String) : Running Datum := do
  let kind ← kindOf d
  if name = "__class__" then typeOf d
  else if name = "args" && (← isError d) then return .tuple (← argumentsOf d)
  else if hasAttribute kind name then
    return if name ∈ dataAttributes then numberAttribute d name else .operation d name
  else if hasAttribute rootType name then
    return if name ∈ dataAttributes then .unknown else .operation d name
  else noAttribute d name

/-- The attribute of a value. -/
def attributeOf (d : Datum) (name : String) : Running Datum := do
  match d with
  | .unknown => return .unknown
  | .module path =>
    match moduleAttribute? path name with
    | some d => return d
    | none => noAttribute d name
  | .type t =>
    if name = "__name__" || name = "__qualname__" then return .text t
    else if name = "__class__" then return .type "type"
    else if name ∈ dataAttributes && hasAttribute t name then return .unknown
    else if hasAttribute t name || hasAttribute rootType name then
      return .operation (.type t) name
    else if hasAttribute "type" name then return .unknown
    else noAttribute d name
  | .object place =>
    match ← thing place with
    | .type t =>
      if name = "__name__" || name = "__qualname__" then return .text t.name
      match ← inChain? name t.chain with
      | some (_, found) => onType d found
      | none =>
        if name = "__class__" then return .type "type"
        else if hasAttribute rootType name || hasAttribute "type" name
            || name = "__dict__" || name = "__weakref__" || name = "__module__" then return .unknown
        else noAttribute d name
    | .made type names _ =>
      match contentAt? names name with
      | some found => return found
      | none =>
        if name = "__class__" then return type
        if name = "args" && (← isError d) then return .tuple (← argumentsOf d)
        match ← inChain? name (← chainOf type) with
        | some (_, found) => onObject d type found
        | none =>
          if hasAttribute rootType name || (name = "__dict__" && type != .type rootType) then
            return .operation d name
          else if ← isOpen d then return .unknown
          else noAttribute d name
    | .function f =>
      if name = "__name__" then return .text f.name
      else if name = "__qualname__" then return .text f.qualified
      else builtinAttribute d name
    | _ => builtinAttribute d name
  | d => builtinAttribute d name

/-- Raises the error about a type that takes no attributes. -/
def immutableType {α : Type} (type name : String) : Running α :=
  wrongType ("cannot set '" ++ name ++ "' attribute of immutable type '" ++ type ++ "'")

/-- The types of the language whose values take any attribute. -/
def takesAttributes (type : String) : Bool :=
  type = "function" || isErrorType type || type ∈ recordTypes

/-- Sets an attribute of a value, or takes it away. -/
def changeAttribute (d : Datum) (name : String) (value : Option Datum) : Running Unit := do
  let changed (names : List (String × Datum)) : Running (List (String × Datum)) :=
    match value with
    | some value => return putEntry names name value
    | none =>
      if (contentAt? names name).isNone then noAttribute d name
      else return names.filter (·.1 ≠ name)
  match d with
  | .unknown | .module _ => pure ()
  | .type t => if t ∈ recordTypes then pure () else immutableType t name
  | .object place =>
    match ← thing place with
    | .type t => replace place (.type { t with names := ← changed t.names })
    | .made type names arguments =>
      if type == .type rootType then noAttribute d name
      replace place (.made type (← changed names) arguments)
    | .function _ =>
      if value.isNone && !hasAttribute "function" name then noAttribute d name
    | _ => refuse
  | _ => refuse
where
  /-- Refuses to change an attribute of a value of the language. -/
  refuse : Running Unit := do
    let kind ← kindOf d
    if takesAttributes kind then
      if value.isNone && !hasAttribute kind name then noAttribute d name
    else if hasAttribute kind name then
      if name ∈ dataAttributes then
        fail "AttributeError"
          ("attribute '" ++ name ++ "' of '" ++ kind ++ "' objects is not writable")
      else fail "AttributeError" ("'" ++ kind ++ "' object attribute '" ++ name ++ "' is read-only")
    else noAttribute d name

end RecordForge.Running

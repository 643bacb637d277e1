import RecordForge.Running.Datum
import RecordForge.Running.TypeTable

/-!
# Types of values

Every value has a type, and every type a chain of types that it builds on, in which names are looked
up. The chain of a type with several bases keeps the order of each base's own chain and that of the
bases; bases for which there is no such order make no type.
-/

namespace RecordForge.Running

/-- The type that all types build on. -/
def rootType : String := "object"

/-- The type that a type of the language builds on. -/
def parentOf (type : String) : String :=
  ((subtypes.find? fun (_, names) => type ∈ names).map Prod.fst).getD rootType

/-- The chain of a type of the language. -/
def builtinChain : (steps : Nat) → String → List String
  | 0, _ => [rootType]
  | n + 1, type =>
    if type = rootType then [rootType] else type :: builtinChain n (parentOf type)

/-- No type of the language has a longer chain. -/
def maxChain : Nat := 10

/-- Whether a type of the language is a type of errors. -/
def isErrorType (type : String) : Bool :=
  "BaseException" ∈ builtinChain maxChain type

/-- The chain of a type. -/
def chainOf : Datum → Running (List Datum)
  | .type name => return (builtinChain maxChain name).map .type
  | .object place => do
    match ← thing place with
    | .type t => return t.chain
    | _ => return []
  | _ => return []

/-- Whether a value is a type. -/
def isType : Datum → Running Bool
  | .type _ => return true
  | .object place => do
    match ← thing place with
    | .type _ => return true
    | _ => return false
  | _ => return false

/-- The types whose own type is not that of most types. -/
def metaTypes : List (String × String) :=
  [("Any", "_AnyMeta"), ("Iterable", "ABCMeta"), ("StorageKind", "EnumType")]

/-- The type of a value. -/
def typeOf : Datum → Running Datum
  | .none => return .type "NoneType"
  | .ellipsis => return .type "ellipsis"
  | .notImplemented => return .type "NotImplementedType"
  | .bool _ => return .type "bool"
  | .int _ => return .type "int"
  | .float _ => return .type "float"
  | .complex => return .type "complex"
  | .text _ => return .type "str"
  | .bytes _ => return .type "bytes"
  | .tuple _ => return .type "tuple"
  | .range .. => return .type "range"
  | .slice .. => return .type "slice"
  | .builtin _ => return .type "builtin_function_or_method"
  | .type name => return .type ((metaTypes.lookup name).getD "type")
  | .operation (.type _) name =>
    return .type (if name.startsWith "__" then "wrapper_descriptor" else "method_descriptor")
  | .operation _ name =>
    return .type (if name.startsWith "__" then "method-wrapper" else "builtin_function_or_method")
  | .bound .. => return .type "method"
  | .module _ => return .type "module"
  | .error type _ => return .type type
  | .unknown => return .type rootType
  | .object place => do
    match ← thing place with
    | .list _ => return .type "list"
    | .set _ frozen => return .type (if frozen then "frozenset" else "set")
    | .dict _ => return .type "dict"
    | .function _ => return .type "function"
    | .type _ => return .type "type"
    | .made type _ _ => return type
    | .frame _ => return .type "dict"
    | .iterator kind _ => return .type kind
    | .generator .. => return .type "generator"
    | .wrapped kind _ => return .type kind

/-- The name of a type. -/
def nameOfType : Datum → Running String
  | .type name => return name
  | .object place => do
    match ← thing place with
    | .type t => return t.name
    | _ => return rootType
  | _ => return rootType

/-- The name of the type of a value. -/
def kindOf (d : Datum) : Running String := do
  nameOfType (← typeOf d)

/-- Whether a type builds on another one. -/
def isSubtype (type base : Datum) : Running Bool := do
  return (← chainOf type).contains base

/-- Whether a value is of a type. -/
def isInstance (d type : Datum) : Running Bool := do
  isSubtype (← typeOf d) type

/-- Whether a value is of a type of the language or of one that builds on it. -/
def isOfType (d : Datum) (type : String) : Running Bool :=
  isInstance d (.type type)

/-- Whether a value is an error. -/
def isError (d : Datum) : Running Bool :=
  isOfType d "BaseException"

/-! ## Merging chains -/

/-- The first value that heads a chain and is behind in none. -/
def nextInChains? (chains : List (List Datum)) : Option Datum :=
  (chains.filterMap List.head?).find? fun d => !chains.any fun c => c.tail.contains d

/-- Merges chains into one that keeps the order of each. A failure gives what is left. -/
def mergeChains : (steps : Nat) → List (List Datum) → Except (List (List Datum)) (List Datum)
  | 0, chains => .error chains
  | n + 1, chains =>
    let chains := chains.filter (!·.isEmpty)
    if chains.isEmpty then .ok []
    else
      match nextInChains? chains with
      | none => .error chains
      | some d => do
        let rest := chains.map fun c => if c.head? == some d then c.tail else c
        return d :: (← mergeChains n rest)

/-- The names of the types that head chains, each once. -/
def headNames (chains : List (List Datum)) : Running (List String) := do
  let heads := (chains.filterMap List.head?).foldl
    (fun heads d => if heads.contains d then heads else heads ++ [d]) []
  heads.mapM nameOfType

/-- The first value that occurs a second time. -/
def repeatedDatum? : List Datum → Option Datum
  | [] => none
  | d :: rest => if rest.contains d then some d else repeatedDatum? rest

/-- The chain of a type with the given bases, less the type itself. -/
def chainOfBases (bases : List Datum) : Running (List Datum) := do
  if let some d := repeatedDatum? bases then
    wrongType ("duplicate base class " ++ (← nameOfType d))
  let chains ← bases.mapM chainOf
  match mergeChains (chains.flatten.length + 1) (chains ++ [bases]) with
  | .ok chain => return chain
  | .error rest =>
    wrongType ("Cannot create a consistent method resolution\norder (MRO) for bases "
      ++ ", ".intercalate (← headNames rest))

/-! ## What can be built on -/

/-- The types of the language that no type builds on. -/
def closedTypes : List String :=
  words ("NoneType bool builtin_function_or_method ellipsis function generator method memoryview "
    ++ "range slice NotImplementedType")

/-- The types whose objects have a layout of their own. -/
def layoutTypes : List String :=
  words ("int float complex str bytes bytearray list tuple dict set frozenset type property "
    ++ "staticmethod classmethod super enumerate zip map filter reversed BaseException OSError "
    ++ "SyntaxError StopIteration ImportError SystemExit AttributeError NameError "
    ++ "UnicodeDecodeError UnicodeEncodeError UnicodeTranslateError BaseExceptionGroup module")

/-- The type in a chain that fixes the layout of its objects. -/
def layoutOf (type : Datum) : Running (Option Datum) := do
  return (← chainOf type).find? fun
    | .type name => name ∈ layoutTypes
    | _ => false

/-- Checks that a type can build on the bases together. -/
def checkLayouts (found : Option Datum) : List Datum → Running Unit
  | [] => pure ()
  | base :: rest => do
    if !(← isType base) then wrongType "bases must be types"
    if let .type name := base then
      if name ∈ closedTypes then
        wrongType ("type '" ++ name ++ "' is not an acceptable base type")
    match found, ← layoutOf base with
    | some f, some l =>
      if ← isSubtype f l then checkLayouts (some f) rest
      else if ← isSubtype l f then checkLayouts (some l) rest
      else wrongType "multiple bases have instance lay-out conflict"
    | none, layout => checkLayouts layout rest
    | found, none => checkLayouts found rest

end RecordForge.Running

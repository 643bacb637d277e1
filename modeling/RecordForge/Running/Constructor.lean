import RecordForge.Running.Calling

/-!
# Making values

What a call of a type of the language or of the module for records makes of its arguments.
-/

namespace RecordForge.Running

namespace Constructor

open Call

/-! ## Numbers -/

/-- The value of a digit or a letter in a base. -/
def digitValue? (base : Nat) (c : Char) : Option Nat :=
  let n := if c.isDigit then some (c.toNat - '0'.toNat)
    else if c.isAlpha then some (c.toLower.toNat - 'a'.toNat + 10) else none
  n.filter (· < base)

/-- The integer that digits in a base stand for. -/
def basedInteger? (base : Nat) (s : String) : Option Int := do
  let cs := Text.strip Text.isNumeralBlank s.toList
  let (negative, cs) := Numeral.splitSign cs
  let cs ← match cs with
    | '0' :: c :: rest =>
      if (base = 16 && c.toLower = 'x') || (base = 8 && c.toLower = 'o')
          || (base = 2 && c.toLower = 'b') then some rest
      else some cs
    | cs => some cs
  let cs ← Numeral.ungroup '_' cs
  if cs.isEmpty then none
  let n ← cs.foldlM (fun n c => (digitValue? base c).map (base * n + ·)) 0
  return if negative then -(n : Int) else n

/-- An integer. -/
def integer (arguments : List Datum) (keywords : List (String × Datum)) : Running Datum := do
  atMost "int" 2 (arguments.length + keywords.length)
  onlyKeywords "int" ["base"] keywords
  match arguments[0]?, named? arguments keywords 1 "base" with
  | none, none => return .int 0
  | none, some _ => wrongType "int() missing string argument"
  | some d, none =>
    match d with
    | .text s =>
      if Numeral.maxIntegerDigits < (s.toList.filter Char.isDigit).length then
        wrongValue ("Exceeds the limit (4300 digits) for integer string conversion: value has "
          ++ toString (s.toList.filter Char.isDigit).length
          ++ " digits; use sys.set_int_max_str_digits() to increase the limit")
      match Numeral.integer? s with
      | some n => return .int n
      | none => wrongValue ("invalid literal for int() with base 10: " ++ Text.quoted s)
    | .bytes codes =>
      match Numeral.integer? (String.ofList (codes.map fun c => Char.ofNat c.toNat)) with
      | some n => return .int n
      | none => wrongValue ("invalid literal for int() with base 10: " ++ bytesText codes)
    | .float x =>
      match x with
      | .nan => wrongValue "cannot convert float NaN to integer"
      | .infinite _ => fail "OverflowError" "cannot convert float infinity to integer"
      | x => return .int (x.truncate?.getD 0)
    | d =>
      match integral? d with
      | some n => return .int n
      | none =>
        if ← isOpen d then return .unknown
        wrongType ("int() argument must be a string, a bytes-like object or a real number, not '"
          ++ (← kindOf d) ++ "'")
  | some d, some base =>
    let base ← index base
    if base ≠ 0 ∧ (base < 2 ∨ 36 < base) then
      wrongValue "int() base must be >= 2 and <= 36, or 0"
    match d with
    | .text s =>
      if base = 0 then return .unknown
      match basedInteger? base.toNat s with
      | some n => return .int n
      | none =>
        wrongValue ("invalid literal for int() with base " ++ toString base ++ ": "
          ++ Text.quoted s)
    | .bytes _ | .unknown => return .unknown
    | _ => wrongType "int() can't convert non-string with explicit base"

/-- A floating-point number. -/
def real (arguments : List Datum) : Running Datum := do
  between "float" 0 1 arguments.length
  match arguments with
  | [.text s] =>
    match Numeral.float? s with
    | some x => return .float x
    | none => wrongValue ("could not convert string to float: " ++ Text.quoted s)
  | [d] =>
    if isReal d then return .float (← realOf d)
    if ← isOpen d then return .unknown
    wrongType ("float() argument must be a string or a real number, not '" ++ (← kindOf d) ++ "'")
  | _ => return .float (.zero false)

/-! ## Texts and bytes -/

/-- A text. -/
def text (arguments : List Datum) (keywords : List (String × Datum)) : Running Datum := do
  atMost "str" 3 (arguments.length + keywords.length)
  onlyKeywords "str" ["object", "encoding", "errors"] keywords
  let encoding := named? arguments keywords 1 "encoding"
  let errors := named? arguments keywords 2 "errors"
  let check (name : String) (d : Option Datum) : Running Unit := do
    match d with
    | none | some (.text _) | some .unknown => pure ()
    | some d =>
      wrongType ("str() argument '" ++ name ++ "' must be str, not " ++ (← kindOf d))
  check "encoding" encoding
  check "errors" errors
  match named? arguments keywords 0 "object" with
  | none => return .text ""
  | some d =>
    if encoding.isSome || errors.isSome then
      match d with
      | .text _ => wrongType "decoding str is not supported"
      | .bytes _ | .unknown => return .unknown
      | d =>
        wrongType ("decoding to str: need a bytes-like object, " ++ (← kindOf d) ++ " found")
    if ← isOpen d then return .unknown
    return .text (← plain d)

/-- Bytes. -/
def bytes (m : Machine) (arguments : List Datum) : Running Datum := do
  atMost "bytes" 3 arguments.length
  match arguments with
  | [] => return .bytes []
  | [.text _] => wrongType "string argument without an encoding"
  | [.bytes codes] => return .bytes codes
  | [d] =>
    match integral? d with
    | some n =>
      if n < 0 then wrongValue "negative count"
      if maxItems < n.toNat then return .unknown
      return .bytes (List.replicate n.toNat 0)
    | none =>
      if (← itemsOf? d).isNone then
        wrongType ("cannot convert '" ++ (← kindOf d) ++ "' object to bytes")
      let codes ← (← m.items d).mapM fun d => do
        let n ← index d
        if n < 0 ∨ 256 ≤ n then wrongValue "bytes must be in range(0, 256)"
        return UInt8.ofNat n.toNat
      return .bytes codes
  | .text s :: _ => return .bytes s.toUTF8.toList
  | d :: encoding :: _ =>
    match encoding with
    | .text _ => wrongType "encoding without a string argument"
    | encoding =>
      if d == .unknown then return .unknown
      wrongType ("bytes() argument 'encoding' must be str, not " ++ (← kindOf encoding))

/-! ## Collections -/

/-- The entries of a dictionary that a value lists. -/
def entriesOf (m : Machine) (d : Datum) : Running (List (Datum × Datum)) := do
  match d with
  | .object place =>
    match ← thing place with
    | .dict entries => return entries
    | .frame f => return f.names.map fun (name, d) => (.text name, d)
    | _ => pure ()
  | _ => pure ()
  let items ← m.items d
  let rec pairs (i : Nat) : List Datum → Running (List (Datum × Datum))
    | [] => return []
    | item :: rest => do
      let number := "dictionary update sequence element #" ++ toString i
      match ← itemsOf? item with
      | none => wrongType ("cannot convert " ++ number ++ " to a sequence")
      | some [key, value] =>
        checkKey key
        return (key, value) :: (← pairs (i + 1) rest)
      | some others =>
        wrongValue (number ++ " has length " ++ toString others.length ++ "; 2 is required")
  pairs 0 items

/-- Puts the entries of a value and named ones into a dictionary. -/
def updated (m : Machine) (entries : List (Datum × Datum)) (d : Option Datum)
    (keywords : List (String × Datum)) : Running (List (Datum × Datum)) := do
  let more ← match d with
    | some d => entriesOf m d
    | none => pure []
  let named := keywords.map fun (name, d) => (Datum.text name, d)
  (more ++ named).foldlM (fun entries (key, value) => putKey key value entries) entries

/-- The items of the only argument, if there is one. -/
def itemsOfOne (m : Machine) (name : String) (arguments : List Datum) :
    Running (List Datum) := do
  between name 0 1 arguments.length
  match arguments with
  | [d] => m.items d
  | _ => return []

/-- A range. -/
def range (arguments : List Datum) : Running Datum := do
  between "range" 1 3 arguments.length
  match ← arguments.mapM index with
  | [last] => return .range 0 last 1
  | [first, last] => return .range first last 1
  | [first, last, step] =>
    if step = 0 then wrongValue "range() arg 3 must not be zero"
    return .range first last step
  | _ => return .unknown

/-- A slice. -/
def slice (arguments : List Datum) : Running Datum := do
  between "slice" 1 3 arguments.length
  match arguments with
  | [first, last] => return .slice first last .none
  | [first, last, step] => return .slice first last step
  | arguments => return .slice .none (arguments.headD .none) .none

/-- Items side by side, as many as every list has. -/
def zipped : (steps : Nat) → List (List Datum) → List Datum
  | 0, _ => []
  | n + 1, lists =>
    if lists.isEmpty then []
    else
      match lists.mapM List.head? with
      | some heads => .tuple heads :: zipped n (lists.map List.tail)
      | none => []

/-! ## Errors -/

/-- The kinds of errors of the system by their numbers. -/
def systemErrors : List (Int × String) :=
  [(1, "PermissionError"), (2, "FileNotFoundError"), (3, "ProcessLookupError"),
    (4, "InterruptedError"), (10, "ChildProcessError"), (11, "BlockingIOError"),
    (13, "PermissionError"), (17, "FileExistsError"), (20, "NotADirectoryError"),
    (21, "IsADirectoryError"), (32, "BrokenPipeError"), (103, "ConnectionAbortedError"),
    (104, "ConnectionResetError"), (110, "TimeoutError"), (111, "ConnectionRefusedError")]

/-- An error. -/
def error (m : Machine) (type : String) (arguments : List Datum)
    (keywords : List (String × Datum)) : Running Datum := do
  let allowed := if type = "ImportError" || type = "ModuleNotFoundError" then ["name", "path"]
    else if type = "AttributeError" then ["name", "obj"]
    else if type = "NameError" || type = "UnboundLocalError" then ["name"]
    else []
  if allowed.isEmpty then noKeywords type keywords
  else onlyKeywords type allowed keywords
  match type with
  | "OSError" =>
    match arguments with
    | .int code :: _ :: _ =>
      return .error ((systemErrors.lookup code).getD type) arguments
    | _ => return .error type arguments
  | "UnicodeDecodeError" | "UnicodeEncodeError" | "UnicodeTranslateError" =>
    let takes := if type = "UnicodeTranslateError" then 4 else 5
    if arguments.length ≠ takes then
      wrongType ("function takes exactly " ++ toString takes ++ " arguments ("
        ++ toString arguments.length ++ " given)")
    return .error type arguments
  | "ExceptionGroup" | "BaseExceptionGroup" =>
    if arguments.length ≠ 2 then
      wrongType ("BaseExceptionGroup.__new__() takes exactly 2 arguments ("
        ++ toString arguments.length ++ " given)")
    match arguments with
    | [.text s, errors] =>
      match ← itemsOf? errors with
      | none => wrongType "second argument (exceptions) must be a sequence"
      | some [] => wrongValue "second argument (exceptions) must be a non-empty sequence"
      | some errors =>
        let _ := m
        return .error type [.text (s ++ " (" ++ toString errors.length ++ " sub-exception"
          ++ ArityError.plural errors.length ++ ")")]
    | d :: _ => wrongType ("argument 1 must be str, not " ++ (← kindOf d))
    | [] => return .unknown
  | "SyntaxError" | "IndentationError" | "TabError" =>
    match arguments with
    | [] => return .error type [.none]
    | [d] => return .error type [d]
    | d :: details :: _ =>
      match details with
      | .tuple (.text file :: .int line :: _) =>
        return .error type [.text ((← plain d) ++ " (" ++ file ++ ", line " ++ toString line
          ++ ")")]
      | _ => return .error type [d]
  | _ => return .error type arguments

/-! ## Records and columns -/

/-- Checks arguments of a function with required parameters by position, and gives them. -/
def positional (name : String) (parameters : List String) (arguments : List Datum)
    (keywords : List (String × Datum)) : Running (List Datum) := do
  if parameters.length < arguments.length then
    wrongType (ArityError.message (.tooMany name (parameters.length + 1) (arguments.length + 1)))
  let rest := parameters.drop arguments.length
  match rest.filter fun p => (contentAt? keywords p).isNone with
  | [] => return arguments ++ rest.filterMap (contentAt? keywords)
  | missing => wrongType (ArityError.message (.missing name missing))

/-- Refuses named arguments that a function does not know. -/
def expected (name : String) (allowed : List String) (keywords : List (String × Datum)) :
    Running Unit :=
  match keywords.find? (·.1 ∉ allowed) with
  | some (key, _) =>
    wrongType (name ++ "() got an unexpected keyword argument '" ++ key ++ "'")
  | none => pure ()

/-- A column. -/
def column (type : Datum) (arguments : List Datum) (keywords : List (String × Datum)) :
    Running Datum := do
  let name := "Column.__init__"
  expected name ["name", "allow_null", "primary", "version"] keywords
  let given ← positional name ["name"] arguments keywords
  let settings := [("allow_null", .bool true), ("primary", .bool false), ("version", .int 1)].map
    fun (key, default) => (key, (contentAt? keywords key).getD default)
  place (.made type (("name", given.headD .none) :: settings) [])

/-- The error for an unknown version. -/
def unknownVersion (m : Machine) (arguments : List Datum) (keywords : List (String × Datum)) :
    Running Datum := do
  let name := "UnknownVersionError.__init__"
  expected name ["version", "known_versions"] keywords
  let known := (named? arguments keywords 1 "known_versions").getD (.tuple [])
  let given ← positional name ["version"] (arguments.take 1)
    (keywords.filter (·.1 ≠ "known_versions"))
  let versions ← (← m.items known).mapM plain
  let told := if versions.isEmpty then "none" else listed versions
  return .error "UnknownVersionError" [.text ("No columns defined for version "
    ++ (← plain (given.headD .none)) ++ " (known versions: " ++ told ++ ")")]

/-! ## All types -/

/-- The types whose names are not those that are bound to them. -/
def fullName (type : String) : String :=
  match type with
  | "ellipsis" => "EllipsisType"
  | type => type

/-- A value of a type of the language or of the module for records. -/
def make (m : Machine) (type : String) (arguments : List Datum)
    (keywords : List (String × Datum)) : Running Datum := do
  let plainly := noKeywords type keywords
  match type with
  | "int" => integer arguments keywords
  | "bool" =>
    plainly
    between "bool" 0 1 arguments.length
    match arguments with
    | [d] => return .bool (← truth d)
    | _ => return .bool false
  | "float" =>
    plainly
    real arguments
  | "complex" =>
    atMost "complex" 2 arguments.length
    match arguments with
    | [.text s] =>
      if (Numeral.float? s).isNone && !s.endsWith "j" then
        wrongValue "complex() arg is a malformed string"
      return .complex
    | _ =>
      for d in arguments do
        if !isReal d && d != .complex then
          if !(← isOpen d) then
            wrongType ("complex() first argument must be a string or a number, not '"
              ++ (← kindOf d) ++ "'")
      return .complex
  | "str" => text arguments keywords
  | "bytes" => bytes m arguments
  | "bytearray" =>
    let _ ← bytes m arguments
    return .unknown
  | "list" =>
    plainly
    newList (← itemsOfOne m type arguments)
  | "tuple" =>
    plainly
    return .tuple (← itemsOfOne m type arguments)
  | "set" | "frozenset" =>
    plainly
    place (.set (← distinct (← itemsOfOne m type arguments)) (type = "frozenset"))
  | "dict" =>
    between type 0 1 arguments.length
    place (.dict (← updated m [] arguments.head? keywords))
  | "range" =>
    plainly
    range arguments
  | "slice" =>
    plainly
    slice arguments
  | "enumerate" =>
    let source ← required type "iterable" 1 (named? arguments keywords 0 "iterable")
    let first ← index ((named? arguments keywords 1 "start").getD (.int 0))
    let items ← m.items source
    newIterator type (items.mapIdx fun i d => .tuple [.int (first + i), d])
  | "zip" =>
    let lists ← arguments.mapM m.items
    newIterator type (zipped maxItems lists)
  | "map" =>
    if arguments.length < 2 then wrongType "map() must have at least two arguments."
    let lists ← (arguments.drop 1).mapM m.items
    let f := arguments.headD .none
    newIterator type (← (zipped maxItems lists).mapM fun d => do
      match d with
      | .tuple items => m.call f items []
      | d => return d)
  | "filter" =>
    between type 2 2 arguments.length
    let f := arguments.headD .none
    let items ← m.items (arguments.getD 1 .none)
    newIterator type (← items.filterM fun d => do
      truth (← if f == .none then pure d else m.call f [d] []))
  | "reversed" =>
    let d ← do
      between type 1 1 arguments.length
      pure (arguments.headD .none)
    match d with
    | .object place =>
      match ← thing place with
      | .set .. => wrongType ("'" ++ (← kindOf d) ++ "' object is not reversible")
      | _ => pure ()
    | _ => pure ()
    match ← itemsOf? d with
    | some items => newIterator type items.reverse
    | none => wrongType ("'" ++ (← kindOf d) ++ "' object is not reversible")
  | "object" =>
    if !arguments.isEmpty || !keywords.isEmpty then wrongType "object() takes no arguments"
    place (.made (.type rootType) [] [])
  | "staticmethod" | "classmethod" =>
    plainly
    between type 1 1 arguments.length
    place (.wrapped type (arguments.headD .none))
  | "property" => place (.wrapped type (arguments.headD .none))
  | "super" =>
    if arguments.isEmpty then fail "RuntimeError" "super(): no arguments"
    let d := arguments.headD .none
    if !(← isType d) && d != .unknown then
      wrongType ("super() argument 1 must be a type, not " ++ (← kindOf d))
    return .unknown
  | "memoryview" =>
    match arguments.headD .unknown with
    | .bytes _ | .unknown => return .unknown
    | d =>
      wrongType ("memoryview: a bytes-like object is required, not '" ++ (← kindOf d) ++ "'")
  | "NoneType" | "ellipsis" | "NotImplementedType" =>
    if !arguments.isEmpty || !keywords.isEmpty then
      wrongType (fullName type ++ " takes no arguments")
    return if type = "NoneType" then .none else if type = "ellipsis" then .ellipsis
      else .notImplemented
  | "builtin_function_or_method" | "method_descriptor" | "wrapper_descriptor" | "method-wrapper"
  | "generator" => wrongType ("cannot create '" ++ type ++ "' instances")
  | "function" =>
    match arguments with
    | [] => wrongType "function() missing required argument 'code' (pos 1)"
    | [_] => wrongType "function() missing required argument 'globals' (pos 2)"
    | d :: _ => wrongType ("function() argument 'code' must be code, not " ++ (← kindOf d))
  | "module" =>
    atMost type 2 arguments.length
    return .unknown
  | "UnknownVersionError" => unknownVersion m arguments keywords
  | "Template" =>
    if !arguments.isEmpty then
      wrongType (ArityError.message (.tooMany "Template.__init__" 1 (arguments.length + 1)))
    place (.made (.type type) [] [])
  | "DatabaseObject" =>
    let name := "DatabaseObject.__init__"
    expected name ["context", "version"] keywords
    let version := (named? arguments keywords 1 "version").getD (.int 1)
    if 2 < arguments.length then
      wrongType (name ++ "() takes from 2 to 3 positional arguments but "
        ++ toString (arguments.length + 1) ++ " were given")
    let given ← positional name ["context"] (arguments.take 1)
      (keywords.filter (·.1 ≠ "version"))
    place (.made (.type type) [("context", given.headD .none), ("version", version)] [])
  | type =>
    if isErrorType type then error m type arguments keywords
    else if "Column" ∈ builtinChain maxChain type then column (.type type) arguments keywords
    else return .unknown

end Constructor

end RecordForge.Running

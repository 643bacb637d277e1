import RecordForge.Running.Constructor

/-!
# The functions of the language

What the functions that are bound before a source is run make of their arguments.
-/

namespace RecordForge.Running

namespace Function

open Call

/-- The greatest or the least value of a list. -/
def extreme (m : Machine) (name : String) (arguments : List Datum)
    (keywords : List (String × Datum)) : Running Datum := do
  if arguments.isEmpty then wrongType (name ++ " expected at least 1 argument, got 0")
  match keywords.find? (·.1 ∉ ["key", "default"]) with
  | some (key, _) =>
    wrongType ("'" ++ key ++ "' is an invalid keyword argument for " ++ name ++ "()")
  | none => pure ()
  let items ← match arguments with
    | [d] => m.items d
    | items => pure items
  let keyed ← items.mapM fun d => do
    match contentAt? keywords "key" with
    | none | some .none => return (d, d)
    | some f => return (← m.call f [d] [], d)
  let (sign, wanted) := if name = "max" then (">", Ordering.gt) else ("<", Ordering.lt)
  match keyed with
  | [] =>
    match contentAt? keywords "default" with
    | some d => return d
    | none =>
      if arguments.head? == some .unknown then return .unknown
      wrongValue (name ++ "() arg is an empty sequence")
  | first :: rest =>
    let best ← rest.foldlM (fun best d => do
      return if (← order sign d.1 best.1) = some wanted then d else best) first
    return best.2

/-- The sum of values. -/
def sum (m : Machine) (arguments : List Datum) (keywords : List (String × Datum)) :
    Running Datum := do
  if arguments.isEmpty then wrongType "sum() takes at least 1 positional argument (0 given)"
  atMost "sum" 2 (arguments.length + keywords.length)
  let items ← m.items (arguments.headD .none)
  let first := (named? arguments keywords 1 "start").getD (.int 0)
  match first with
  | .text _ => wrongType "sum() can't sum strings [use ''.join(seq) instead]"
  | .bytes _ => wrongType "sum() can't sum bytes [use b''.join(seq) instead]"
  | _ => pure ()
  items.foldlM (operate "+" .add) first

/-- Values in ascending order, by their keys. -/
def inOrder (m : Machine) (items : List Datum) (keywords : List (String × Datum)) :
    Running (List Datum) := do
  let keyed ← items.mapM fun d => do
    match contentAt? keywords "key" with
    | none | some .none => return (d, d)
    | some f => return (← m.call f [d] [], d)
  let done := (← sorted keyed).map Prod.snd
  match contentAt? keywords "reverse" with
  | some d => return if ← truth d then done.reverse else done
  | none => return done

/-- The types that a value lists. -/
def typesOf (depth : Nat) (refusal : String) (d : Datum) : Running (List Datum) := do
  match depth, d with
  | n + 1, .tuple items => return (← items.mapM (typesOf n refusal)).flatten
  | _, d =>
    if d == .unknown || (← isType d) then return [d]
    wrongType refusal

/-- The name of an attribute. -/
def attributeName (name : String) (d : Datum) : Running String := do
  match d with
  | .text s => return s
  | d =>
    let _ := name
    wrongType ("attribute name must be string, not '" ++ (← kindOf d) ++ "'")

/-- Whether a value can be called. -/
def isCallable (d : Datum) : Running Bool := do
  match d with
  | .builtin _ | .type _ | .operation .. | .bound .. | .unknown => return true
  | .object place =>
    match ← thing place with
    | .function _ | .type _ => return true
    | .wrapped "staticmethod" _ => return true
    | .made type _ _ => return (← inChain? "__call__" (← chainOf type)).isSome
    | _ => return false
  | _ => return false

/-- A text that is to be read as a source. -/
def sourceText (name : String) (d : Datum) : Running (Option String) := do
  match d with
  | .text s => return some s
  | .bytes codes => return some (String.ofList (codes.map fun c => Char.ofNat c.toNat))
  | .unknown => return none
  | _ => wrongType (name ++ "() arg 1 must be a string, bytes or code object")

/-- The digits of an integer in a base, with a mark in front. -/
def digits (mark : String) (base : Nat) (d : Datum) : Running Datum := do
  let n ← index d
  let sign := if n < 0 then "-" else ""
  return .text (sign ++ mark ++ String.ofList (Nat.toDigits base n.natAbs))

/-- The next value that an iterator gives out. -/
def next (m : Machine) (d : Datum) (default : Option Datum) : Running Datum := do
  match d with
  | .unknown => return .unknown
  | .object place =>
    match ← thing place with
    | .iterator _ [] => done
    | .iterator kind (item :: rest) =>
      if kind.startsWith "dict_" then refuse else
      replace place (.iterator kind rest)
      return item
    | .generator .. =>
      match ← m.items d with
      | [] => done
      | item :: rest =>
        replace place (.iterator "generator" rest)
        return item
    | _ => if ← isOpen d then return .unknown else refuse
  | _ => refuse
where
  /-- There is no further value. -/
  done : Running Datum :=
    match default with
    | some d => return d
    | none => raise (.error "StopIteration" [])
  /-- The value gives out nothing. -/
  refuse : Running Datum := do
    wrongType ("'" ++ (← kindOf d) ++ "' object is not an iterator")

/-- A number to a power, perhaps up to a modulus. -/
def power (arguments : List Datum) (keywords : List (String × Datum)) : Running Datum := do
  let base ← required "pow" "base" 1 (named? arguments keywords 0 "base")
  let exponent ← required "pow" "exp" 2 (named? arguments keywords 1 "exp")
  match named? arguments keywords 2 "mod" with
  | none | some .none => operate "** or pow()" .power base exponent
  | some modulus =>
    match integral? base, integral? exponent, integral? modulus with
    | some b, some e, some m =>
      if m = 0 then wrongValue "pow() 3rd argument cannot be 0"
      if 0 ≤ e ∧ e ≤ 1000 then return .int ((Int.pow b e.toNat).fmod m)
      return .unknown
    | _, _, _ =>
      wrongType ("unsupported operand type(s) for ** or pow(): '" ++ (← kindOf base) ++ "', '"
        ++ (← kindOf exponent) ++ "', '" ++ (← kindOf modulus) ++ "'")

/-- A number, rounded. -/
def rounded (arguments : List Datum) (keywords : List (String × Datum)) : Running Datum := do
  let d ← required "round" "number" 1 (named? arguments keywords 0 "number")
  let places := named? arguments keywords 1 "ndigits"
  match d with
  | .float x =>
    match x, places with
    | .nan, none | .nan, some .none => wrongValue "cannot convert float NaN to integer"
    | .infinite _, none | .infinite _, some .none =>
      fail "OverflowError" "cannot convert float infinity to integer"
    | .finite negative significand e, none | .finite negative significand e, some .none =>
      let (num, den) := Binary64.scaled significand 2 e
      return .int (Binary64.signed negative (Binary64.roundQuotient num den))
    | _, some places =>
      let _ ← index places
      return .unknown
  | d =>
    match integral? d with
    | some n =>
      match places with
      | none | some .none => return .int n
      | some places =>
        let p ← index places
        return if 0 ≤ p then .int n else .unknown
    | none =>
      if ← isOpen d then return .unknown
      wrongType ("type " ++ (← kindOf d) ++ " doesn't define __round__ method")

/-- Quotient and remainder. -/
def quotientAndRemainder (arguments : List Datum) : Running Datum := do
  between "divmod" 2 2 arguments.length
  let a := arguments.headD .none
  let b := arguments.getD 1 .none
  if (← isOpen a) || (← isOpen b) then return .unknown
  if !isReal a || !isReal b then
    wrongType ("unsupported operand type(s) for divmod(): '" ++ (← kindOf a) ++ "' and '"
      ++ (← kindOf b) ++ "'")
  match integral? b with
  | some _ => pure ()
  | none => if b matches .float (.finite _ 0 _) then zeroDivision "float divmod()"
  return .tuple [← operate "//" .floorDivide a b, ← operate "%" .modulo a b]

/-- Opens a file: there is none. -/
def openFile (arguments : List Datum) (keywords : List (String × Datum)) : Running Datum := do
  let file ← required "open" "file" 1 (named? arguments keywords 0 "file")
  let mode := (named? arguments keywords 1 "mode").getD (.text "r")
  match file, mode with
  | .text name, .text mode =>
    if mode.toList.any (· ∉ "rwxabt+U".toList) then
      wrongValue ("invalid mode: " ++ Text.quoted mode)
    if name.toList.contains '\x00' then wrongValue "embedded null byte"
    if mode.toList.contains 'r' then
      raise (.error "FileNotFoundError"
        [.int 2, .text "No such file or directory", .text name])
    return .unknown
  | .text _, mode =>
    wrongType ("open() argument 'mode' must be str, not " ++ (← kindOf mode))
  | .int _, _ | .bool _, _ | .bytes _, _ | .unknown, _ => return .unknown
  | file, _ =>
    wrongType ("expected str, bytes or os.PathLike object, not " ++ (← kindOf file))

/-- Imports a module by its name. -/
def importNamed (arguments : List Datum) : Running Datum := do
  match arguments with
  | [] => wrongType "__import__() missing required argument 'name' (pos 1)"
  | .text "" :: _ => wrongValue "Empty module name"
  | .text name :: _ =>
    match isPackage? name with
    | some _ => return .module ((Text.parts '.' name).headD name)
    | none => fail "ModuleNotFoundError" (ImportError.ofName isPackage? name).message
  | .unknown :: _ => return .unknown
  | _ => wrongType "module name must be a string"

/-- What a function makes of one argument. -/
def ofOne (m : Machine) (name : String) (d : Datum) : Running Datum := do
  match name with
  | "abs" =>
    match d, integral? d with
    | .float x, _ => return .float (if x.isNegative then x.negate else x)
    | .complex, _ => return .float (.zero false)
    | _, some n => return .int n.natAbs
    | _, none =>
      if ← isOpen d then return .unknown
      wrongType ("bad operand type for abs(): '" ++ (← kindOf d) ++ "'")
  | "all" => return .bool (← (← m.items d).allM truth)
  | "any" => return .bool (← (← m.items d).anyM truth)
  | "ascii" | "repr" => return .text (← shown d)
  | "bin" => digits "0b" 2 d
  | "oct" => digits "0o" 8 d
  | "hex" => digits "0x" 16 d
  | "callable" => return .bool (← isCallable d)
  | "chr" =>
    let n ← index d
    if n < 0 ∨ 0x110000 ≤ n then wrongValue "chr() arg not in range(0x110000)"
    return charDatum (Char.ofNat n.toNat)
  | "ord" =>
    match d with
    | .text s =>
      match s.toList with
      | [c] => return .int c.toNat
      | cs =>
        wrongType ("ord() expected a character, but string of length " ++ toString cs.length
          ++ " found")
    | .bytes [code] => return .int code.toNat
    | .bytes codes =>
      wrongType ("ord() expected a character, but string of length " ++ toString codes.length
        ++ " found")
    | .unknown => return .unknown
    | d => wrongType ("ord() expected string of length 1, but " ++ (← kindOf d) ++ " found")
  | "hash" =>
    checkKey d
    return .int 0
  | "len" => return .int (← sizeOf d)
  | _ => return .int 0

/-- The functions of one argument. -/
def unaryFunctions : List String :=
  words "abs all any ascii bin callable chr hash hex id len oct ord repr"

/-- What a function makes of its arguments. -/
def apply (m : Machine) (ask : Datum → String → Running Datum) (name : String)
    (arguments : List Datum) (keywords : List (String × Datum)) : Running Datum := do
  if name ∈ unaryFunctions then
    noKeywords name keywords
    return ← ofOne m name (← one name arguments)
  match name with
  | "max" | "min" => extreme m name arguments keywords
  | "sum" => sum m arguments keywords
  | "sorted" =>
    between name 1 1 arguments.length
    newList (← inOrder m (← m.items (arguments.headD .none)) keywords)
  | "isinstance" | "issubclass" =>
    noKeywords name keywords
    between name 2 2 arguments.length
    let d := arguments.headD .none
    let refusal := name ++ "() arg 2 must be a type, a tuple of types, or a union"
    if name = "issubclass" && !(← isType d) && d != .unknown then
      wrongType "issubclass() arg 1 must be a class"
    let types ← typesOf 10 (if name = "isinstance" then refusal
      else name ++ "() arg 2 must be a class, a tuple of classes, or a union")
      (arguments.getD 1 .none)
    let type ← if name = "issubclass" then pure d else typeOf d
    return .bool (← types.anyM (isSubtype type))
  | "iter" =>
    noKeywords name keywords
    between name 1 2 arguments.length
    if arguments.length = 2 then return .unknown
    let d := arguments.headD .none
    match d with
    | .object place =>
      match ← thing place with
      | .iterator kind _ => if !kind.startsWith "dict_" then return d
      | .generator .. => return d
      | _ => pure ()
    | _ => pure ()
    newIterator ((← kindOf d) ++ "_iterator") (← m.items d)
  | "next" =>
    noKeywords name keywords
    between name 1 2 arguments.length
    next m (arguments.headD .none) arguments[1]?
  | "pow" => power arguments keywords
  | "round" => rounded arguments keywords
  | "divmod" =>
    noKeywords name keywords
    quotientAndRemainder arguments
  | "getattr" =>
    noKeywords name keywords
    between name 2 3 arguments.length
    let key ← attributeName name (arguments.getD 1 .none)
    try ask (arguments.headD .none) key
    catch stop =>
      match stop, arguments[2]? with
      | .raised (.error "AttributeError" _), some d => return d
      | stop, _ => throw stop
  | "hasattr" =>
    noKeywords name keywords
    between name 2 2 arguments.length
    let key ← attributeName name (arguments.getD 1 .none)
    try
      let _ ← ask (arguments.headD .none) key
      return .bool true
    catch _ => return .bool false
  | "setattr" =>
    noKeywords name keywords
    between name 3 3 arguments.length
    let key ← attributeName name (arguments.getD 1 .none)
    changeAttribute (arguments.headD .none) key arguments[2]?
    return .none
  | "delattr" =>
    noKeywords name keywords
    between name 2 2 arguments.length
    let key ← attributeName name (arguments.getD 1 .none)
    changeAttribute (arguments.headD .none) key none
    return .none
  | "print" =>
    onlyKeywords name ["sep", "end", "file", "flush"] keywords
    for key in ["sep", "end"] do
      match contentAt? keywords key with
      | none | some .none | some (.text _) | some .unknown => pure ()
      | some d => wrongType (key ++ " must be None or a string, not " ++ (← kindOf d))
    return .none
  | "format" =>
    noKeywords name keywords
    between name 1 2 arguments.length
    match arguments.getD 1 (.text "") with
    | .text spec => layOut (arguments.headD .none) spec
    | d => wrongType ("format() argument 2 must be str, not " ++ (← kindOf d))
  | "eval" | "exec" =>
    between name 1 3 arguments.length
    match ← sourceText name (arguments.headD .none) with
    | some s => m.source (name = "eval") s
    | none => return .unknown
  | "globals" =>
    nothing name arguments.length
    return m.outer
  | "locals" =>
    nothing name arguments.length
    return m.inner
  | "vars" =>
    between name 0 1 arguments.length
    match arguments with
    | [d] =>
      if ← isType d then return .unknown
      match d with
      | .module _ | .unknown | .error .. => return .unknown
      | .object place =>
        match ← thing place with
        | .made .. | .function _ => return .unknown
        | _ => wrongType "vars() argument must have __dict__ attribute"
      | _ => wrongType "vars() argument must have __dict__ attribute"
    | _ => return m.inner
  | "dir" =>
    between name 0 1 arguments.length
    return .unknown
  | "exit" | "quit" => raise (.error "SystemExit" [arguments.headD .none])
  | "open" => openFile arguments keywords
  | "__import__" => importNamed arguments
  | "compile" =>
    let _ ← required name "source" 1 (named? arguments keywords 0 "source")
    let _ ← required name "filename" 2 (named? arguments keywords 1 "filename")
    let _ ← required name "mode" 3 (named? arguments keywords 2 "mode")
    return .unknown
  | "input" =>
    between name 0 1 arguments.length
    return .unknown
  | _ => return .unknown

end Function

end RecordForge.Running

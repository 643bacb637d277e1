import RecordForge.Running.Function
import RecordForge.Running.Placeholder
import RecordForge.Text.Case

/-!
# The operations of values

What the operations that come with texts, lists, dictionaries and sets make of their arguments. Of
the result of an operation that is not among them nothing is known.
-/

namespace RecordForge.Running

namespace Operation

open Call

/-- The operations that take no arguments. -/
def nullary : List (String × List String) :=
  [("str", "upper lower capitalize casefold title swapcase isalnum isalpha isascii isdecimal "
      ++ "isdigit isidentifier islower isnumeric isprintable isspace istitle isupper"),
    ("list", "clear copy reverse"), ("dict", "clear copy items keys values popitem"),
    ("set", "clear copy pop"), ("frozenset", "copy"),
    ("int", "bit_length bit_count conjugate as_integer_ratio"),
    ("float", "is_integer conjugate as_integer_ratio hex")].map fun (type, names) =>
      (type, words names)

/-- The operations that take one argument. -/
def unary : List (String × List String) :=
  [("str", ["join"]), ("list", ["append", "count", "extend", "remove"]),
    ("set", ["add", "discard", "remove", "isdisjoint", "issubset", "issuperset"]),
    ("tuple", ["count"])]

/-! ## Texts -/

/-- The text that an argument has to be. -/
def textOf (d : Datum) : Running String := do
  match d with
  | .text s => return s
  | d => wrongType ("must be str, not " ++ (← kindOf d))

/-- The place of a part in a text. -/
def placeOfText? (part : List Char) : Nat → List Char → Option Nat
  | i, [] => if part.isEmpty then some i else none
  | i, c :: rest =>
    if part.isPrefixOf (c :: rest) then some i else placeOfText? part (i + 1) rest

/-- Joins texts with a text between them. -/
def join (m : Machine) (between : String) (d : Datum) : Running Datum := do
  if d == .unknown then return .unknown
  let items ← try m.items d
    catch stop =>
      match stop with
      | .raised (.error "TypeError" _) => wrongType "can only join an iterable"
      | stop => throw stop
  let rec texts (i : Nat) : List Datum → Running (Option (List String))
    | [] => return some []
    | .text s :: rest => do return (← texts (i + 1) rest).map (s :: ·)
    | .unknown :: rest => do
      let _ ← texts (i + 1) rest
      return none
    | d :: _ => do
      wrongType ("sequence item " ++ toString i ++ ": expected str instance, " ++ (← kindOf d)
        ++ " found")
  return ((← texts 0 items).map fun ss => Datum.text (between.intercalate ss)).getD .unknown

/-- An operation of a text. -/
def ofText (m : Machine) (s name : String) (arguments : List Datum)
    (keywords : List (String × Datum)) : Running Datum := do
  let cs := s.toList
  let changed := fun (cs : List Char) => Datum.text (String.ofList cs)
  match name with
  | "upper" => return changed (Text.upper cs)
  | "lower" => return changed (Text.lower cs)
  | "strip" | "lstrip" | "rstrip" =>
    between name 0 1 arguments.length
    match arguments.headD .none with
    | .none => return if name = "strip" then changed (Text.strip Text.isBlank cs) else .unknown
    | .text _ | .unknown => return .unknown
    | _ => wrongType (name ++ " arg must be None or str")
  | "join" => join m s (← one "str.join" arguments)
  | "format" =>
    putValues s arguments fun name =>
      match contentAt? keywords name with
      | some d => return d
      | none => raise (.error "KeyError" [.text name])
  | "format_map" =>
    let source ← one "str.format_map" arguments
    putValues s [] fun name => itemAt source (.text name)
  | "split" | "rsplit" =>
    match (named? arguments keywords 0 "sep").getD .none with
    | .none | .unknown => return .unknown
    | .text "" => wrongValue "empty separator"
    | .text t =>
      if arguments.length = 1 && keywords.isEmpty then
        newList ((s.splitOn t).map Datum.text)
      else return .unknown
    | d => wrongType ("must be str or None, not " ++ (← kindOf d))
  | "replace" =>
    between name 2 3 arguments.length
    for (d, i) in [(arguments.headD .none, 1), (arguments.getD 1 .none, 2)] do
      match d with
      | .text _ | .unknown => pure ()
      | d =>
        wrongType ("replace() argument " ++ toString i ++ " must be str, not " ++ (← kindOf d))
    match arguments with
    | [.text a, .text b] => return if a = "" then .unknown else .text (s.replace a b)
    | _ => return .unknown
  | "startswith" | "endswith" =>
    if arguments.isEmpty then
      wrongType (name ++ "() takes at least 1 argument (0 given)")
    match arguments.headD .none with
    | .text t => return .bool (if name = "startswith" then s.startsWith t else s.endsWith t)
    | .tuple _ | .unknown => return .unknown
    | d =>
      wrongType (name ++ " first arg must be str or a tuple of str, not " ++ (← kindOf d))
  | "find" | "rfind" | "index" | "rindex" | "count" =>
    if arguments.isEmpty then
      wrongType (name ++ "() takes at least 1 argument (0 given)")
    if arguments.head? == some .unknown then return .unknown
    let part ← textOf (arguments.headD .none)
    if 1 < arguments.length then return .unknown
    match placeOfText? part.toList 0 cs, name with
    | some i, "find" | some i, "index" => return .int i
    | none, "find" | none, "rfind" => return .int (-1)
    | none, "index" | none, "rindex" => wrongValue "substring not found"
    | none, _ => return .int 0
    | some _, _ => return .unknown
  | "encode" =>
    match (named? arguments keywords 0 "encoding").getD (.text "utf-8") with
    | .text "utf-8" | .text "utf8" => return .bytes s.toUTF8.toList
    | .text _ | .unknown => return .unknown
    | d => wrongType ("encode() argument 'encoding' must be str, not " ++ (← kindOf d))
  | _ => return .unknown

/-! ## Lists and tuples -/

/-- The place of a value among items. -/
def placeOfDatum? (d : Datum) : Nat → List Datum → Running (Option Nat)
  | _, [] => return none
  | i, x :: rest => do if ← equal x d then return some i else placeOfDatum? d (i + 1) rest

/-- An operation of a list. -/
def ofList (m : Machine) (place : Nat) (items : List Datum) (name : String)
    (arguments : List Datum) (keywords : List (String × Datum)) : Running Datum := do
  let store := fun (items : List Datum) => do
    replace place (.list items)
    return Datum.none
  match name with
  | "append" => store (items ++ [← one "list.append" arguments])
  | "extend" => store (items ++ (← m.items (← one "list.extend" arguments)))
  | "insert" =>
    between name 2 2 arguments.length
    let i ← index (arguments.headD .none)
    let i := (max 0 (min (if i < 0 then i + items.length else i) items.length)).toNat
    store (items.take i ++ arguments.getD 1 .none :: items.drop i)
  | "pop" =>
    between name 0 1 arguments.length
    let i ← index (arguments.headD (.int (-1)))
    if items.isEmpty then fail "IndexError" "pop from empty list"
    match placeOf? items.length i with
    | none => fail "IndexError" "pop index out of range"
    | some i =>
      replace place (.list (items.eraseIdx i))
      return items.getD i .none
  | "remove" =>
    match ← placeOfDatum? (← one "list.remove" arguments) 0 items with
    | none => wrongValue "list.remove(x): x not in list"
    | some i => store (items.eraseIdx i)
  | "index" =>
    between name 1 3 arguments.length
    let d := arguments.headD .none
    match ← placeOfDatum? d 0 items with
    | none => wrongValue ((← shown d) ++ " is not in list")
    | some i => return .int i
  | "count" =>
    let d ← one "list.count" arguments
    return .int (← items.filterM (equal d)).length
  | "sort" =>
    if !arguments.isEmpty then wrongType "sort() takes no positional arguments"
    store (← Function.inOrder m items keywords)
  | "reverse" => store items.reverse
  | "clear" => store []
  | "copy" => newList items
  | _ => return .unknown

/-- An operation of a tuple. -/
def ofTuple (items : List Datum) (name : String) (arguments : List Datum) : Running Datum := do
  match name with
  | "index" =>
    between name 1 3 arguments.length
    match ← placeOfDatum? (arguments.headD .none) 0 items with
    | none => wrongValue "tuple.index(x): x not in tuple"
    | some i => return .int i
  | "count" =>
    let d ← one "tuple.count" arguments
    return .int (← items.filterM (equal d)).length
  | _ => return .unknown

/-! ## Dictionaries and sets -/

/-- An operation of a dictionary. -/
def ofDict (m : Machine) (place : Nat) (entries : List (Datum × Datum)) (name : String)
    (arguments : List Datum) (keywords : List (String × Datum)) : Running Datum := do
  let key := arguments.headD .none
  match name with
  | "get" =>
    between name 1 2 arguments.length
    checkKey key
    return (← keyed? entries key).getD (arguments.getD 1 .none)
  | "setdefault" =>
    between name 1 2 arguments.length
    checkKey key
    match ← keyed? entries key with
    | some d => return d
    | none =>
      let d := arguments.getD 1 .none
      replace place (.dict (entries ++ [(key, d)]))
      return d
  | "pop" =>
    between name 1 2 arguments.length
    checkKey key
    match ← keyed? entries key, arguments[1]? with
    | some d, _ =>
      replace place (.dict (← entries.filterM fun (k, _) => do return !(← equal k key)))
      return d
    | none, some d => return d
    | none, none => raise (.error "KeyError" [key])
  | "popitem" =>
    match entries.getLast? with
    | none => fail "KeyError" "popitem(): dictionary is empty"
    | some (key, d) =>
      replace place (.dict entries.dropLast)
      return .tuple [key, d]
  | "update" =>
    between name 0 1 arguments.length
    replace place (.dict (← Constructor.updated m entries arguments.head? keywords))
    return .none
  | "keys" => newIterator "dict_keys" (entries.map Prod.fst)
  | "values" => newIterator "dict_values" (entries.map Prod.snd)
  | "items" => newIterator "dict_items" (entries.map fun (k, v) => .tuple [k, v])
  | "clear" =>
    replace place (.dict [])
    return .none
  | "copy" => Running.place (.dict entries)
  | _ => return .unknown

/-- An operation of a set. -/
def ofSet (m : Machine) (place : Nat) (items : List Datum) (frozen : Bool) (name : String)
    (arguments : List Datum) : Running Datum := do
  let store := fun (items : List Datum) => do
    replace place (.set items frozen)
    return Datum.none
  let without := fun (d : Datum) => items.filterM fun x => do return !(← equal x d)
  match name with
  | "add" =>
    let d ← one "set.add" arguments
    checkKey d
    store (if ← isAmong items d then items else items ++ [d])
  | "discard" | "remove" =>
    let d ← one ("set." ++ name) arguments
    checkKey d
    if name = "remove" && !(← isAmong items d) then raise (.error "KeyError" [d])
    store (← without d)
  | "pop" =>
    match items with
    | [] => fail "KeyError" "pop from an empty set"
    | d :: rest =>
      let _ ← store rest
      return d
  | "clear" => store []
  | "copy" => Running.place (.set items frozen)
  | "union" | "update" =>
    let more ← arguments.mapM m.items
    let all ← distinct (items ++ more.flatten)
    if name = "update" then store all else Running.place (.set all frozen)
  | "intersection" | "difference" =>
    let others ← arguments.mapM m.items
    let kept ← items.filterM fun d => do
      if name = "intersection" then others.allM (isAmong · d)
      else return !(← others.anyM (isAmong · d))
    Running.place (.set kept frozen)
  | _ => return .unknown

/-! ## All operations -/

/-- Checks the number of arguments of an operation. -/
def checkCount (type name : String) (given : Nat) : Running Unit :=
  let told := type ++ "." ++ name
  if ((nullary.lookup type).getD []).contains name then nothing told given
  else if ((unary.lookup type).getD []).contains name && given ≠ 1 then
    wrongType (told ++ "() takes exactly one argument (" ++ toString given ++ " given)")
  else pure ()

/-- Sets a value up anew. -/
def initialise (m : Machine) (owner : Datum) (type : String) (arguments : List Datum)
    (keywords : List (String × Datum)) : Running Datum := do
  let root : Bool ← match owner with
    | .object place => do
      match ← thing place with
      | .made (.type name) _ _ => pure (name = rootType)
      | .made .. => pure !(← isError owner)
      | _ => pure false
    | _ => pure false
  if root then
    if !arguments.isEmpty || !keywords.isEmpty then
      wrongType (ArityError.message (.receiverOnly (type ++ ".__init__")))
  else if type ∈ ["dict", "list", "set"] then
    let _ ← Constructor.make m type arguments keywords
  return .none

/-- What an operation of a value makes of its arguments. -/
def ofValue (m : Machine) (owner : Datum) (name : String) (arguments : List Datum)
    (keywords : List (String × Datum)) : Running Datum := do
  let type ← kindOf owner
  checkCount type name arguments.length
  match name, arguments with
  | "__init__", _ => return ← initialise m owner type arguments keywords
  | "__len__", [] => return .int (← sizeOf owner)
  | "__str__", [] => return .text (← plain owner)
  | "__repr__", [] => return .text (← shown owner)
  | "__getitem__", [d] => return ← itemAt owner d
  | "__contains__", [d] => return .bool (← isIn d owner)
  | "__iter__", [] => return ← newIterator (type ++ "_iterator") (← m.items owner)
  | "__next__", [] => return ← Function.next m owner none
  | "__enter__", _ => return owner
  | "with_traceback", _ => return owner
  | _, _ => pure ()
  match owner with
  | .text s => ofText m s name arguments keywords
  | .tuple items => ofTuple items name arguments
  | .object place =>
    match ← thing place with
    | .list items => ofList m place items name arguments keywords
    | .dict entries => ofDict m place entries name arguments keywords
    | .frame f =>
      ofDict m place (f.names.map fun (name, d) => (.text name, d)) name arguments keywords
    | .set items frozen => ofSet m place items frozen name arguments
    | _ => return .unknown
  | _ => return .unknown

/-- What an operation of a type makes of its arguments, the first of which is a value of the
type. -/
def ofType (m : Machine) (type name : String) (arguments : List Datum)
    (keywords : List (String × Datum)) : Running Datum := do
  if name ∈ words ("fromkeys fromhex from_bytes maketrans __new__ __init_subclass__ "
      ++ "__subclasshook__ __class_getitem__ __getformat__ mro") then return .unknown
  match arguments with
  | [] =>
    if name.startsWith "__" then
      wrongType ("descriptor '" ++ name ++ "' of '" ++ type ++ "' object needs an argument")
    wrongType ("unbound method " ++ type ++ "." ++ name ++ "() needs an argument")
  | d :: rest =>
    if d == .unknown then return .unknown
    if ← isOfType d type then ofValue m d name rest keywords
    else if name.startsWith "__" then
      wrongType ("descriptor '" ++ name ++ "' requires a '" ++ type ++ "' object but received a '"
        ++ (← kindOf d) ++ "'")
    else
      wrongType ("descriptor '" ++ name ++ "' for '" ++ type ++ "' objects doesn't apply to a '"
        ++ (← kindOf d) ++ "' object")

end Operation

end RecordForge.Running

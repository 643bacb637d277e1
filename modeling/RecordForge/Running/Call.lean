import RecordForge.Running.Site

/-!
# Calls

What a call of a value does: functions take their arguments by position and by name, types make
objects, and operations do what they are for.
-/

namespace RecordForge.Running

open Source

/-! ## Calls of functions -/

/-- Binds the arguments of a call to the parameters of a function. -/
def bindParameters (f : Closure) (arguments : List Datum) (keywords : List (String × Datum)) :
    Running (List (String × Datum)) := do
  match f.parameters with
  | .mk positional plain rest named others =>
    let known (p : Param) : String := match f.owner with
      | some owner => Text.nameWithin owner p.name
      | none => p.name
    let nameOf (p : ParamDefault) : String := known p.param
    let ordered := (positional ++ plain).map nameOf
    let only := named.map nameOf
    let bound := ordered.zip arguments
    let hidden := positional.map nameOf
    let (bound, extra) ← keywords.foldlM (fun (bound, extra) (key, d) => do
      if key ∈ plain.map nameOf ++ only then
        if bound.any (·.1 = key) then
          wrongType (f.qualified ++ "() got multiple values for argument '" ++ key ++ "'")
        return (bound ++ [(key, d)], extra)
      else if others.isSome then return (bound, extra ++ [(Datum.text key, d)])
      else
        match keywords.filter fun (key, _) => key ∈ hidden with
        | [] =>
          wrongType (f.qualified ++ "() got an unexpected keyword argument '" ++ key ++ "'")
        | clashes =>
          wrongType (f.qualified
            ++ "() got some positional-only arguments passed as keyword arguments: '"
            ++ listed (clashes.map Prod.fst) ++ "'")) (bound, [])
    let takes := ordered.length
    if takes < arguments.length && rest.isNone then
      let least := takes - (ordered.filter fun name => f.defaults.any (·.1 = name)).length
      let count := if least < takes then "from " ++ toString least ++ " to " ++ toString takes
        else toString takes
      let plural := if least < takes then "s" else ArityError.plural takes
      let byName := (only.filter fun name => bound.any (·.1 = name)).length
      let given := toString arguments.length
        ++ (if byName = 0 then ""
          else " positional argument" ++ ArityError.plural arguments.length ++ " (and "
            ++ toString byName ++ " keyword-only argument" ++ ArityError.plural byName ++ ")")
      wrongType (f.qualified ++ "() takes " ++ count ++ " positional argument" ++ plural ++ " but "
        ++ given ++ (if arguments.length = 1 && byName = 0 then " was" else " were") ++ " given")
    let missing := fun (names : List String) => names.filter fun name =>
      !bound.any (·.1 = name) && !f.defaults.any (·.1 = name)
    match missing ordered with
    | [] => pure ()
    | names => wrongType (ArityError.message (.missing f.qualified names))
    match missing only with
    | [] => pure ()
    | names =>
      wrongType (f.qualified ++ "() missing " ++ toString names.length
        ++ " required keyword-only argument" ++ ArityError.plural names.length ++ ": "
        ++ ArityError.enumeration names)
    let defaults := f.defaults.filter fun (name, _) => !bound.any (·.1 = name)
    let restBound := rest.toList.map fun p => (known p, Datum.tuple (arguments.drop takes))
    let othersBound ← others.toList.mapM fun p => do return (known p, ← place (.dict extra))
    return bound ++ defaults ++ restBound ++ othersBound

/-- The deepest nesting of calls. -/
def maxCalls : Nat := 200

/-- Runs a call within a call. -/
def deeper {α : Type} (run : Running α) : Running α := do
  let world ← get
  if maxCalls ≤ world.depth then fail "RecursionError" "maximum recursion depth exceeded"
  set { world with depth := world.depth + 1 }
  let leave := modify fun w => { w with depth := world.depth }
  try
    let r ← run
    leave
    return r
  catch stop =>
    leave
    throw stop

/-! ## Types -/

/-- The type of the types that build on the bases. -/
def metaOf (given : Option Datum) (bases : List Datum) : Running Datum := do
  let start ← match given, bases with
    | some d, _ => pure d
    | none, .unknown :: _ => pure (.type "type")
    | none, base :: _ => typeOf base
    | none, [] => pure (.type "type")
  if !(← isType start) then return start
  bases.foldlM (fun winner base => do
    let type ← typeOf base
    if base == .unknown || (← isSubtype winner type) then return winner
    else if ← isSubtype type winner then return type
    else wrongType ("metaclass conflict: the metaclass of a derived class must be a (non-strict) "
      ++ "subclass of the metaclasses of all its bases")) start

/-- Refuses the bases that say themselves that a type cannot build on them. -/
def refuseBases (name : String) (bases : List Datum) : Running Unit := do
  if bases.contains (.type "ClassVar") then wrongType "Cannot subclass typing.ClassVar"
  if bases.contains (.type "StorageKind") then
    wrongType ("<enum '" ++ name ++ "'> cannot extend <enum 'StorageKind'>")

/-- Whether a value makes types as the language does. -/
def makesTypes : Datum → Bool
  | .type name => (builtinChain maxChain name).contains "type"
  | _ => false

/-- Checks the names of the attributes that a type says its objects have. -/
def checkSlots (m : Machine) (names : List (String × Datum)) : Running Unit := do
  let slots ← match contentAt? names "__slots__" with
    | none | some .unknown => pure []
    | some (.text name) => pure [Datum.text name]
    | some d => m.items d
  for d in slots do
    match d with
    | .text name =>
      if !Text.isIdentifier name.toList then wrongType "__slots__ must be identifiers"
      if (contentAt? names name).isSome then
        wrongValue ("'" ++ name ++ "' in __slots__ conflicts with class variable")
    | .unknown => pure ()
    | d => wrongType ("__slots__ items must be strings, not '" ++ (← kindOf d) ++ "'")

/-- Makes a type. -/
def makeType (m : Machine) (name : String) (bases : List Datum) (names : List (String × Datum)) :
    Running Datum := do
  let known := bases.filter (· != .unknown)
  checkLayouts none known
  checkSlots m names
  let chain ← if known.isEmpty then pure [.type rootType] else chainOfBases known
  let world ← get
  let self := Datum.object world.things.size
  place (.type { name, bases, chain := self :: chain, names })

/-- Makes an object of a type that a source defines. -/
def instantiate (go : Deeper) (s : Site) (type : Datum) (t : TypeBody) (arguments : List Datum)
    (keywords : List (String × Datum)) : Running Datum := do
  let isErrorType ← isSubtype type (.type "BaseException")
  if t.bases.contains .unknown then return .unknown
  match ← inChain? "__new__" t.chain with
  | some (.object _, _) => return .unknown
  | _ => pure ()
  let initializer ← t.chain.findSomeM? fun
    | .object place => do
      match ← thing place with
      | .type t => return contentAt? t.names "__init__"
      | _ => return none
    | _ => return none
  let base := (t.chain.findSome? fun
    | .type name => some name
    | _ => none).getD rootType
  match initializer with
  | some f =>
    let d ← place (.made type [] (if isErrorType then arguments else []))
    let r ← go.call s f (d :: arguments) keywords
    if r != .none && r != .unknown then
      wrongType ("__init__() should return None, not '" ++ (← kindOf r) ++ "'")
    return d
  | none =>
    if base = rootType then
      if !arguments.isEmpty || !keywords.isEmpty then
        wrongType (t.name ++ "() takes no arguments")
      place (.made type [] [])
    else if isErrorType then
      if base ≠ "UnknownVersionError" && !keywords.isEmpty then
        wrongType (t.name ++ "() takes no keyword arguments")
      let made ← Constructor.make (go.machine s) base arguments keywords
      place (.made type [] (← argumentsOf made))
    else if base ∈ recordTypes then
      match ← Constructor.make (go.machine s) base arguments keywords with
      | .object made =>
        match ← thing made with
        | .made _ names _ => place (.made type names [])
        | _ => return .unknown
      | _ => return .unknown
    else
      let _ ← Constructor.make (go.machine s) base arguments keywords
      return .unknown

/-! ## Calling a value -/

/-- Calls a value. -/
def call (go : Deeper) (s : Site) (f : Datum) (arguments : List Datum)
    (keywords : List (String × Datum)) : Running Datum := do
  let refuse : Running Datum := do
    wrongType ("'" ++ (← kindOf f) ++ "' object is not callable")
  let m := go.machine s
  match f with
  | .unknown => return .unknown
  | .builtin name => Function.apply m attributeOf name arguments keywords
  | .type "type" =>
    match arguments with
    | [d] => typeOf d
    | [.text name, .tuple bases, names] =>
      let entries ← Constructor.entriesOf m names
      makeType m name bases (entries.filterMap fun
        | (.text name, d) => some (name, d)
        | _ => none)
    | [_, _, _] => return .unknown
    | _ => wrongType "type() takes 1 or 3 arguments"
  | .type name => Constructor.make m name arguments keywords
  | .operation (.type type) name => Operation.ofType m type name arguments keywords
  | .operation owner name => Operation.ofValue m owner name arguments keywords
  | .bound receiver f => go.call s f (receiver :: arguments) keywords
  | .object place =>
    match ← thing place with
    | .function g =>
      let bound ← bindParameters g arguments keywords
      if g.waits then return ← newIterator "coroutine" []
      if g.yields then return ← newIterator "generator" []
      deeper do
        let inner ← openFrame { own := g.own, names := bound }
        let site : Site :=
          { frames := inner :: g.frames, kind := .function, outer := g.outer, owner := g.owner
            qualifier := g.qualified ++ ".<locals>." }
        match g.body with
        | .value e => go.expr site e
        | .statements ss =>
          try
            ss.forM (go.stmt site)
            return .none
          catch stop =>
            match stop with
            | .result d => return d
            | stop => throw stop
    | .type t => instantiate go s f t arguments keywords
    | .wrapped "staticmethod" g => go.call s g arguments keywords
    | .made type _ _ =>
      match ← inChain? "__call__" (← chainOf type) with
      | some (_, g) => go.call s (← onObject f type g) arguments keywords
      | none => refuse
    | _ => refuse
  | _ => refuse

/-- Makes a function. -/
def define (go : Deeper) (s : Site) (name : String) (parameters : Parameters) (body : Body)
    (waits yields : Bool) (look : Noting Unit) : Running Datum := do
  match parameters with
  | .mk positional plain _ named _ =>
    let valuesOf (ps : List ParamDefault) : Running (List (String × Datum)) :=
      ps.filterMapM fun p => do
        match p.value with
        | some e => return some (s.known p.param.name, ← go.expr s e)
        | none => return none
    let ordered ← valuesOf (positional ++ plain)
    let only ← valuesOf named
    let (own, outer) := functionNames s.owner do
      parameters.all.forM fun p => Noting.note p.name .parameter p.line
      look
    place (.function
      { name, qualified := s.qualifier ++ name, parameters, defaults := ordered ++ only, body
        frames := if s.kind = .typeBody then s.frames.tail else s.frames
        own, outer, owner := s.owner, waits, yields })

end RecordForge.Running

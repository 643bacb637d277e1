import RecordForge.Running.Expression
import RecordForge.Source.Placement

/-!
# Statements

What statements do, in the order in which they are run.
-/

namespace RecordForge.Running

open Source

/-! ## Errors -/

/-- Whether an error is one that a handler is for. -/
def isHandled (e type : Datum) : Running Bool := do
  let check := fun type => do
    if type == Datum.unknown then return true
    if (← isType type) && (← isSubtype type (.type "BaseException")) then isInstance e type
    else
      wrongType "catching classes that do not inherit from BaseException is not allowed"
  match type with
  | .tuple types => types.anyM check
  | type => check type

/-- The error that a raised value stands for. -/
def raisable (go : Deeper) (s : Site) (refusal : String) (d : Datum) : Running Datum := do
  if d == .unknown then return .error "Exception" []
  if ← isType d then
    if ← isSubtype d (.type "BaseException") then return ← go.call s d [] []
  if ← isError d then return d
  wrongType refusal

/-- Runs the first handler that is for an error: whether there is one. -/
def handle (go : Deeper) (s : Site) (e : Datum) : List Handler → Running Bool
  | [] => return false
  | .mk _ type name body :: rest => do
    let handled ← match type with
      | none => pure true
      | some type => do isHandled e (← go.expr s type)
    if !handled then return ← handle go s e rest
    let forget : Running Unit := name.forM fun name => do
      try unbind s name catch _ => pure ()
    name.forM fun name => bind s name e
    modify fun w => { w with handled := e :: w.handled }
    let done := do
      modify fun w => { w with handled := w.handled.tail }
      forget
    try
      body.forM (go.stmt s)
      done
    catch stop =>
      done
      throw stop
    return true

/-! ## Imports -/

/-- The modules that are part of the language itself, and so come from no file. -/
def filelessModules : List String :=
  words ("builtins sys itertools time _thread marshal posix errno gc atexit faulthandler _io "
    ++ "_imp _warnings _weakref _codecs _functools _operator _collections _signal _stat _string "
    ++ "_symtable _tracemalloc _ast _abc _sre")

/-- Checks that there is a module. -/
def findModule (path : String) : Running Unit :=
  if (isPackage? path).isSome then pure ()
  else fail "ModuleNotFoundError" (ImportError.ofName isPackage? path).message

/-- Where a module comes from, as an error tells it. -/
def moduleFile (path : String) : String :=
  let outermost := (Text.parts '.' path).headD path
  if path ∈ filelessModules || outermost = "dbobjgen" then "unknown location"
  else
    "/usr/local/lib/python3.11/" ++ String.ofList (path.toList.map fun c => if c = '.' then '/' else c)
      ++ (if isPackage? path = some true then "/__init__.py" else ".py")

/-- The name that a module goes by itself. -/
def ownName (path : String) : String :=
  if path = "os.path" then "posixpath" else path

/-- What an import of a name from a module provides. -/
def importFrom (path name : String) : Running Datum :=
  match moduleAttribute? path name with
  | some d => return d
  | none =>
    let path := ownName path
    fail "ImportError" ("cannot import name " ++ Text.quoted name ++ " from " ++ Text.quoted path
      ++ " (" ++ moduleFile path ++ ")")

/-- The names that an import of everything from a module binds. -/
def allNames (path : String) : List String :=
  if path = recordModule then recordTypes
  else ((moduleNames.lookup path).getD []).filter fun name => !name.startsWith "_"

/-- Refuses an import that is relative to a package: there is none. -/
def refuseRelative (s : Site) : Running Unit := do
  if (contentAt? (← frame s.top).names "__name__").isSome then
    fail "ImportError" "attempted relative import with no known parent package"
  raise (.error "KeyError" [.text "'__name__' not in globals"])

/-! ## Choices -/

/-- Whether a value matches a pattern. -/
def fitsAt (go : Deeper) (s : Site) (d : Datum) (p : Pattern) : Running Bool := do
  match p with
  | .value e => equal d (← go.expr s e)
  | .constant value => return d == ofConstant value
  | .capture _ inner name =>
    let fits ← match inner with
      | some p => go.fits s d p
      | none => pure true
    if fits then name.forM fun name => bind s name d
    return fits
  | .rest _ name =>
    name.forM fun name => bind s name d
    return true
  | .anyOf _ patterns => patterns.anyM (go.fits s d)
  | .sequence _ patterns =>
    let isSequence ← match d with
      | .tuple _ | .range .. => pure true
      | .object place => do
        match ← thing place with
        | .list _ => pure true
        | _ => pure false
      | _ => pure false
    if !isSequence then return false
    let found ← go.items s d
    let isRest := fun (p : Pattern) => p matches .rest ..
    let before := patterns.takeWhile (!isRest ·)
    match patterns.dropWhile (!isRest ·) with
    | [] =>
      if found.length ≠ patterns.length then return false
      (found.zip patterns).allM fun (d, p) => go.fits s d p
    | star :: after =>
      if found.length + 1 < patterns.length then return false
      let rest := found.drop before.length
      if !(← (found.zip before).allM fun (d, p) => go.fits s d p) then return false
      let middle ← newList (rest.take (rest.length - after.length))
      if !(← go.fits s middle star) then return false
      ((rest.drop (rest.length - after.length)).zip after).allM fun (d, p) =>
        go.fits s d p
  | .mapping _ keys patterns rest =>
    let entries ← match d with
      | .object place => do
        match ← thing place with
        | .dict entries => pure (some entries)
        | _ => pure none
      | _ => pure none
    match entries with
    | none => return false
    | some entries =>
      let keys ← keys.mapM (go.expr s)
      let found ← keys.mapM (keyed? entries)
      if found.any Option.isNone then return false
      if !(← (found.zip patterns).allM fun (d, p) =>
        go.fits s (d.getD .none) p) then return false
      rest.forM fun name => do
        bind s name (← place (.dict (← entries.filterM fun (k, _) => do
          return !(← isAmong keys k))))
      return true
  | .ofClass _ type patterns names named =>
    let t ← go.expr s type
    if t == .unknown then return false
    if !(← isType t) then wrongType "called match pattern must be a type"
    if !(← isInstance d t) then return false
    let selfMatching := match t with
      | .type name => (builtinChain maxChain name).any fun name => name ∈ words
          "bool bytearray bytes dict float frozenset int list set str tuple"
      | _ => false
    let most := if selfMatching then 1 else 0
    if most < patterns.length then
      wrongType ((← nameOfType t) ++ "() accepts " ++ toString most ++ " positional sub-pattern"
        ++ ArityError.plural most ++ " (" ++ toString patterns.length ++ " given)")
    if !(← patterns.allM (go.fits s d)) then return false
    (names.zip named).allM fun (name, p) => do
      try go.fits s (← attributeOf d name) p
      catch stop =>
        match stop with
        | .raised (.error "AttributeError" _) => return false
        | stop => throw stop

/-- Runs the first case that fits a value. -/
def select (go : Deeper) (s : Site) (d : Datum) : List Case → Running Unit
  | [] => pure ()
  | .mk p guard body :: rest => do
    let fits ← go.fits s d p
    let holds ← match guard with
      | some e => if fits then do truth (← go.expr s e) else pure false
      | none => pure fits
    if holds then body.forM (go.stmt s) else select go s d rest

/-! ## Definitions -/

/-- Runs the body of a type and makes the type. -/
def makeClass (go : Deeper) (s : Site) (name : String) (bases : List Expr) (keywords : List Keyword)
    (body : List Stmt) : Running Datum := do
  let bases ← exprs go s bases
  let named ← keywordsOf go s (.builtin "__build_class__") [] keywords
  refuseBases name bases
  let type ← metaOf (contentAt? named "metaclass") bases
  let start := [("__module__", ← lookUpOutside { s with kind := .typeBody } "__name__"),
    ("__qualname__", Datum.text (s.qualifier ++ name))]
  let inner ← place (.frame { names := start })
  let innerPlace := match inner with
    | .object i => i
    | _ => 0
  body.forM (go.stmt
    { frames := innerPlace :: (if s.kind = .typeBody then s.frames.tail else s.frames)
      kind := .typeBody, outer := [], owner := some name
      qualifier := s.qualifier ++ name ++ "." })
  let names := (← frame innerPlace).names
  let rest := named.filter (·.1 ≠ "metaclass")
  if makesTypes type then
    let made ← makeType (go.machine s) name bases names
    if !rest.isEmpty && !bases.contains .unknown then
      wrongType (name ++ ".__init_subclass__() takes no keyword arguments")
    return made
  else
    let entries ← place (.dict (names.map fun (name, d) => (.text name, d)))
    go.call s type [.text name, .tuple bases, entries] rest

/-- Calls decorators on what they stand before, the last one first. -/
def decorate (go : Deeper) (s : Site) : List Datum → Datum → Running Datum
  | [], d => return d
  | f :: rest, d => do
    let d ← decorate go s rest d
    go.call s f [d] []

/-! ## Statements -/

/-- The new value of a target that is changed by an operator. -/
def augmented (go : Deeper) (s : Site) (op : BinaryOp) (old d : Datum) : Running Datum := do
  let combined := combine (signOf op ++ "=") op old d
  match op, old with
  | .add, .object place =>
    match ← thing place with
    | .list found =>
      let more ← go.items s d
      replace place (.list (found ++ more))
      return old
    | _ => combined
  | _, _ => combined

/-- Enters the blocks that things open for their values, and runs statements. -/
def inBlocks (go : Deeper) (s : Site) (run : Running Unit) :
    List (Expr × Option Expr) → Running Unit
  | [] => run
  | (value, target) :: rest => do
    let d ← go.expr s value
    let refuse : Running Datum := do
      wrongType ("'" ++ (← kindOf d) ++ "' object does not support the context manager protocol")
    let entered ← match d with
      | .unknown => pure Datum.unknown
      | .object place => do
        match ← thing place with
        | .made type _ _ =>
          match ← inChain? "__enter__" (← chainOf type) with
          | some (_, f) => go.call s (← onObject d type f) [] []
          | none => refuse
        | _ => refuse
      | _ => refuse
    target.forM fun t => go.assign s t entered
    inBlocks go s run rest

/-- Runs a statement. -/
def stmtAt (go : Deeper) (s : Site) : Stmt → Running Unit
  | .mk _ form => do
    let body : List Stmt → Running Unit := fun ss => ss.forM (go.stmt s)
    let declared := do return s.kind ≠ .function && (← get).declares
    match form with
    | .expr value =>
      let _ ← go.expr s value
    | .assign targets value =>
      let d ← go.expr s value
      targets.forM fun t => go.assign s t d
    | .augment target op value =>
      match target.form with
      | .name id =>
        let old ← lookUp s id
        bind s id (← augmented go s op old (← go.expr s value))
      | .attribute owner name =>
        let d ← go.expr s owner
        let old ← attributeOf d (s.known name)
        changeAttribute d (s.known name) (some (← augmented go s op old (← go.expr s value)))
      | .subscript collection index =>
        let d ← go.expr s collection
        let i ← go.expr s index
        let old ← itemAt d i
        setItem d i (← augmented go s op old (← go.expr s value))
      | _ => pure ()
    | .declare target type value plain =>
      if let some value := value then
        let d ← go.expr s value
        go.assign s target d
      else
        match target.form with
        | .attribute owner _ =>
          let _ ← go.expr s owner
        | .subscript collection index =>
          let _ ← go.expr s collection
          let _ ← go.expr s index
        | _ => pure ()
      let _ := plain
      if ← declared then
        let _ ← go.expr s type
    | .delete targets => targets.forM (go.delete s)
    | .pass | .global _ | .nonlocal _ => pure ()
    | .leave => throw .leave
    | .next => throw .next
    | .result value =>
      match value with
      | some value => throw (.result (← go.expr s value))
      | none => throw (.result .none)
    | .raise none _ =>
      match (← get).handled with
      | e :: _ => raise e
      | [] => fail "RuntimeError" "No active exception to reraise"
    | .raise (some error) cause =>
      let d ← go.expr s error
      let causedBy ← match cause with
        | some cause => do pure (some (← go.expr s cause))
        | none => pure none
      let e ← raisable go s "exceptions must derive from BaseException" d
      if let some c := causedBy then
        if c != .none then
          let _ ← raisable go s "exception causes must derive from BaseException" c
      raise e
    | .assert test message =>
      if !(← truth (← go.expr s test)) then
        match message with
        | some e => raise (.error "AssertionError" [← go.expr s e])
        | none => raise (.error "AssertionError" [])
    | .importModules names =>
      names.forM fun i => do
        findModule i.name
        match i.target with
        | some target => bind s target (.module i.name)
        | none =>
          let first := (Text.parts '.' i.name).headD i.name
          bind s first (.module first)
    | .importFrom path names points =>
      if points ≠ 0 then refuseRelative s
      let path := path.getD ""
      if path = featureModule then
        if names.any (·.name = "annotations") then modify fun w => { w with declares := false }
        names.forM fun i => bind s (i.target.getD i.name) .unknown
      else
        findModule path
        names.forM fun i => do
          if i.name = "*" then
            (allNames path).forM fun name => do bind s name (← importFrom path name)
          else bind s (i.target.getD i.name) (← importFrom path i.name)
    | .branch test whenTrue whenFalse =>
      if ← truth (← go.expr s test) then body whenTrue else body whenFalse
    | .loop test inner otherwise =>
      if ← loopWhile (do truth (← go.expr s test)) (body inner) maxRounds then body otherwise
    | .each _ target source inner otherwise =>
      let found ← go.items s (← go.expr s source)
      if ← loopOver (fun d => do
          go.assign s target d
          body inner) found then body otherwise
    | .within _ blocks inner => inBlocks go s (body inner) blocks
    | .attempt inner handlers otherwise final _ =>
      let guarded : Running Unit := do
        let caught ← try
            body inner
            pure none
          catch stop =>
            match stop with
            | .raised e => pure (some e)
            | stop => throw stop
        match caught with
        | none => body otherwise
        | some e => if !(← handle go s e handlers) then raise e
      try guarded
      catch stop =>
        body final
        throw stop
      body final
    | .select subject cases => select go s (← go.expr s subject) cases
    | .function waits name parameters returns decorators inner =>
      let marks ← decorators.mapM (go.expr s)
      let yields := inner.any (Stmt.anyPart (Expr.yields maxDepth) maxDepth)
      let f ← define go s name parameters (.statements inner) waits yields
        (inner.forM (Noting.stmt maxDepth))
      if (← get).declares then
        parameters.declared.forM fun e => do
          match e.form with
          | .starred value =>
            let _ ← go.expr s value
          | _ =>
            let _ ← go.expr s e
        returns.forM fun e => do
          let _ ← go.expr s e
      bind s name (← decorate go s marks f)
    | .typeDef name bases keywords decorators inner =>
      let marks ← decorators.mapM (go.expr s)
      let d ← makeClass go s name bases keywords inner
      bind s name (← decorate go s marks d)

end RecordForge.Running

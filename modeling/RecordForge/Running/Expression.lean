import RecordForge.Running.Call

/-!
# Expressions

The values of expressions, and what targets of assignments do with values.
-/

namespace RecordForge.Running

open Source

/-- The depth to which expressions and statements are run. -/
def maxDepth : Nat := 10000

/-! ## Lists of expressions -/

/-- The values of a list of expressions, of which some have stars. -/
def exprs (go : Deeper) (s : Site) : List Expr → Running (List Datum)
  | [] => return []
  | e :: rest => do
    match e.form with
    | .starred value =>
      let d ← go.expr s value
      match ← go.items? s d with
      | some found => return found ++ (← exprs go s rest)
      | none => wrongType ("Value after * must be an iterable, not " ++ (← kindOf d))
    | _ =>
      let d ← go.expr s e
      return d :: (← exprs go s rest)

/-- The named arguments of a call. -/
def keywordsOf (go : Deeper) (s : Site) (f : Datum) (found : List (String × Datum)) :
    List Keyword → Running (List (String × Datum))
  | [] => return found
  | .mk _ name value :: rest => do
    let add := fun (found : List (String × Datum)) (name : String) (d : Datum) => do
      if found.any (·.1 = name) then
        wrongType ((← calledName f) ++ " got multiple values for keyword argument '" ++ name
          ++ "'")
      return found ++ [(name, d)]
    let d ← go.expr s value
    match name with
    | some name => keywordsOf go s f (← add found name d) rest
    | none =>
      let entries ← match d with
        | .unknown => pure []
        | .object place => do
          match ← thing place with
          | .dict entries => pure entries
          | .frame f => pure (f.names.map fun (name, d) => (Datum.text name, d))
          | _ =>
            wrongType ((← calledName f) ++ " argument after ** must be a mapping, not "
              ++ (← kindOf d))
        | d =>
          wrongType ((← calledName f) ++ " argument after ** must be a mapping, not "
            ++ (← kindOf d))
      let found ← entries.foldlM (fun found (key, d) => do
        match key with
        | .text name => add found name d
        | _ => wrongType "keywords must be strings") found
      keywordsOf go s f found rest

/-- The first value that decides a conjunction or a disjunction, or else the last one. -/
def chain (go : Deeper) (s : Site) (goesOn : Bool) : List Expr → Running Datum
  | [] => return .none
  | e :: rest => do
    let d ← go.expr s e
    if rest.isEmpty || (← truth d) != goesOn then return d
    chain go s goesOn rest

/-- What a chain of comparisons says. -/
def compareAll (go : Deeper) (s : Site) (a : Datum) : List Comparison → Running Datum
  | [] => return .none
  | .mk op right :: rest => do
    let b ← go.expr s right
    let d ← compareBy op a b
    if rest.isEmpty || !(← truth d) then return d
    compareAll go s b rest

/-! ## Comprehensions -/

/-- What the loops of a comprehension find. The first one goes through the given items. -/
def loopClauses (go : Deeper) (s : Site) (found : Running (List Datum)) (given : Option (List Datum)) :
    List Clause → Running (List Datum)
  | [] => found
  | .mk _ target source conditions :: rest => do
    let ds ← match given with
      | some ds => pure ds
      | none => go.items s (← go.expr s source)
    let parts ← ds.mapM fun d => do
      go.assign s target d
      if ← conditions.allM fun e => do truth (← go.expr s e) then
        loopClauses go s found none rest
      else return []
    return parts.flatten

/-- The value of a comprehension. -/
def comprehend (go : Deeper) (s : Site) (kind : ComprehensionKind) (element : Expr)
    (value : Option Expr) (clauses : List Clause) : Running Datum := do
  match clauses with
  | [] => return .unknown
  | first :: _ =>
    let source ← go.items s (← go.expr s first.source)
    let (own, _) := functionNames s.owner do
      clauses.forM fun | .mk _ target _ _ => Noting.expr maxDepth true none target
    let frames := (← openFrame { own }) :: (if s.kind = .typeBody then s.frames.tail else s.frames)
    let site : Site := { s with
      frames, kind := .function, home := some (s.home.getD s.frames) }
    if clauses.any Clause.waits then return .unknown
    match kind with
    | .generator => place (.generator frames s.owner element clauses source)
    | .list =>
      newList (← loopClauses go site (return [← go.expr site element]) source clauses)
    | .set =>
      let one : Running (List Datum) := do
        let d ← go.expr site element
        checkKey d
        return [d]
      let found ← loopClauses go site one source clauses
      place (.set (← distinct found) false)
    | .dict =>
      let one : Running (List Datum) := do
        let key ← go.expr site element
        let d ← match value with
          | some value => go.expr site value
          | none => pure .none
        checkKey key
        return [.tuple [key, d]]
      let found ← loopClauses go site one source clauses
      let entries ← found.foldlM (fun entries d => match d with
        | .tuple [key, d] => putKey key d entries
        | _ => return entries) []
      place (.dict entries)

/-- The items of a value, if it has some. Those that are worked out when they are asked for are used
up. -/
def itemsAt? (go : Deeper) (s : Site) (d : Datum) : Running (Option (List Datum)) := do
  match d with
  | .object place =>
    match ← thing place with
    | .generator frames owner element clauses source =>
      replace place (.iterator "generator" [])
      let inner : Site := { frames, kind := .function, owner, home := some s.frames }
      return some (← loopClauses go inner (return [← go.expr inner element]) (some source) clauses)
    | _ => itemsOf? d
  | d => itemsOf? d

/-! ## Expressions -/

/-- The value of an expression. -/
def exprAt (go : Deeper) (s : Site) : Expr → Running Datum
  | .mk _ form => do
    match form with
    | .name id => lookUp s id
    | .constant value => return ofConstant value
    | .joined parts => return joinedText (← parts.mapM (go.expr s))
    | .formatted value conversion layout =>
      let d ← go.expr s value
      let d ← match conversion with
        | some 's' => if d == .unknown then pure d else do pure (.text (← plain d))
        | some _ => if d == .unknown then pure d else do pure (.text (← shown d))
        | none => pure d
      match layout with
      | none => layOut d ""
      | some layout =>
        match ← go.expr s layout with
        | .text spec => layOut d spec
        | _ => return .unknown
    | .tuple es => return .tuple (← exprs go s es)
    | .list es => newList (← exprs go s es)
    | .set es =>
      let ds ← es.mapM fun e => do
        match e.form with
        | .starred value => go.items s (← go.expr s value)
        | _ => return [← go.expr s e]
      place (.set (← distinct ds.flatten) false)
    | .dict es =>
      let entries ← es.foldlM (fun entries item => do
        match item with
        | .mk (some key) value =>
          let key ← go.expr s key
          let value ← go.expr s value
          checkKey key
          putKey key value entries
        | .mk none value =>
          let d ← go.expr s value
          let more ← match d with
            | .unknown => pure []
            | .object place => do
              match ← thing place with
              | .dict more => pure more
              | .frame f => pure (f.names.map fun (name, d) => (Datum.text name, d))
              | _ => wrongType ("'" ++ (← kindOf d) ++ "' object is not a mapping")
            | d => wrongType ("'" ++ (← kindOf d) ++ "' object is not a mapping")
          more.foldlM (fun entries (key, value) => putKey key value entries) entries) []
      place (.dict entries)
    | .attribute value name => attributeOf (← go.expr s value) (s.known name)
    | .subscript value index =>
      let d ← go.expr s value
      itemAt d (← go.expr s index)
    | .slice first last step =>
      let bound := fun (e : Option Expr) => match e with
        | some e => go.expr s e
        | none => return Datum.none
      return .slice (← bound first) (← bound last) (← bound step)
    | .call function arguments keywords =>
      let f ← go.expr s function
      match arguments.map Expr.form with
      | [.starred value] =>
        let d ← go.expr s value
        let named ← keywordsOf go s f [] keywords
        match ← go.items? s d with
        | some found => go.call s f found named
        | none =>
          wrongType ((← calledName f) ++ " argument after * must be an iterable, not "
            ++ (← kindOf d))
      | _ =>
        let given ← exprs go s arguments
        let named ← keywordsOf go s f [] keywords
        go.call s f given named
    | .unary op operand => operateUnary op (← go.expr s operand)
    | .binary op left right =>
      let a ← go.expr s left
      let b ← go.expr s right
      combine (signOf op) op a b
    | .conjunction es => chain go s true es
    | .disjunction es => chain go s false es
    | .compare left rest => compareAll go s (← go.expr s left) rest
    | .conditional test whenTrue whenFalse =>
      if ← truth (← go.expr s test) then go.expr s whenTrue else go.expr s whenFalse
    | .lambda parameters body =>
      define go s "<lambda>" parameters (.value body) false (Expr.yields maxDepth body)
        (Noting.expr maxDepth false none body)
    | .comprehension kind element value clauses => comprehend go s kind element value clauses
    | .named target value =>
      let d ← go.expr s value
      match target.form with
      | .name id => bindIn s (s.home.getD s.frames) id d
      | _ => pure ()
      return d
    | .await _ | .yield _ | .yieldFrom _ | .starred _ => return .unknown

/-! ## Targets -/

/-- Assigns a value to a target. -/
def assignAt (go : Deeper) (s : Site) (target : Expr) (d : Datum) : Running Unit := do
  match target with
  | .mk _ form =>
    match form with
    | .name id => bind s id d
    | .attribute value name => changeAttribute (← go.expr s value) (s.known name) (some d)
    | .subscript value index =>
      let collection ← go.expr s value
      setItem collection (← go.expr s index) d
    | .starred value => go.assign s value d
    | .tuple targets | .list targets =>
      let found ← match d, ← go.items? s d with
        | .unknown, _ => pure (List.replicate targets.length .unknown)
        | _, some found => pure found
        | _, none => wrongType ("cannot unpack non-iterable " ++ (← kindOf d) ++ " object")
      let isStarred := fun (e : Expr) => e.form matches .starred _
      let before := targets.takeWhile (!isStarred ·)
      match targets.dropWhile (!isStarred ·) with
      | [] =>
        if found.length < targets.length then
          wrongValue ("not enough values to unpack (expected " ++ toString targets.length
            ++ ", got " ++ toString found.length ++ ")")
        if targets.length < found.length then
          wrongValue ("too many values to unpack (expected " ++ toString targets.length ++ ")")
        (targets.zip found).forM fun (t, d) => go.assign s t d
      | star :: after =>
        if found.length + 1 < targets.length then
          wrongValue ("not enough values to unpack (expected at least "
            ++ toString (targets.length - 1) ++ ", got " ++ toString found.length ++ ")")
        (before.zip found).forM fun (t, d) => go.assign s t d
        let rest := found.drop before.length
        go.assign s star (← newList (rest.take (rest.length - after.length)))
        (after.zip (rest.drop (rest.length - after.length))).forM fun (t, d) => go.assign s t d
    | _ => pure ()

/-- Takes away what a target stands for. -/
def deleteAt (go : Deeper) (s : Site) : Expr → Running Unit
  | .mk _ form => do
    match form with
    | .name id => unbind s id
    | .attribute value name => changeAttribute (← go.expr s value) (s.known name) none
    | .subscript value index =>
      let collection ← go.expr s value
      deleteItem collection (← go.expr s index)
    | .tuple targets | .list targets => targets.forM (go.delete s)
    | _ => pure ()

end RecordForge.Running

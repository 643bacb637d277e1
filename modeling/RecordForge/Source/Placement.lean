import RecordForge.Source.Fault
import RecordForge.Source.Parts

/-!
# Statements and expressions in their places

Some statements and expressions are meant for certain places: a result for a function, a way out of
a loop for a loop, a starred value for a list of values. They are checked in the order in which they
are run, except that the bodies of functions and types are looked at where these are defined.
-/

namespace RecordForge.Source

/-- What a statement belongs to. -/
inductive UnitKind where
  | source
  | typeBody
  | function
  | waitingFunction
  | lambda
  | comprehension
deriving DecidableEq, Repr

/-- A block around a statement. -/
inductive BlockKind where
  | loop
  /-- What is done about a group of errors. -/
  | groupHandler
  /-- Statements that are run however the block is left. -/
  | final (body : List Stmt)
  | other

/-- What is around a statement or an expression. -/
structure Surroundings where
  unit : UnitKind := .source
  /-- The blocks of the unit, the innermost first. -/
  blocks : List BlockKind := []
  /-- Whether the unit gives out values in between. -/
  yields : Bool := false
  /-- Whether the unit waits for something. -/
  waits : Bool := false
  /-- The line of the last import of features at the beginning of the source. -/
  lastFeatures : Nat := 0

/-- The module that stands for features of the language. -/
def featureModule : String := "__future__"

/-- The features of the language. -/
def languageFeatures : List String :=
  ["absolute_import", "annotations", "barry_as_FLUFL", "division", "generator_stop", "generators",
    "nested_scopes", "print_function", "unicode_literals", "with_statement"]

/-- Checking ends with the first fault. -/
abbrev Checking := Except SourceError Unit

namespace Surroundings

/-- Refuses a source for what stands on a line. -/
def refuse {α : Type} (fault : PlacementFault) (line : Nat) : Except SourceError α :=
  .error ⟨.placement fault, line⟩

/-- The largest number of blocks within each other. -/
def maxBlocks : Nat := 20

/-- The surroundings of what stands inside a further block. -/
def inside (s : Surroundings) (b : BlockKind) (line : Nat) : Except SourceError Surroundings :=
  if maxBlocks ≤ s.blocks.length then refuse .manyBlocks line
  else .ok { s with blocks := b :: s.blocks }

/-- Whether the unit is a kind of function. -/
def isFunction (s : Surroundings) : Bool :=
  s.unit ≠ .source && s.unit ≠ .typeBody

/-- Checks a name that is bound. -/
def bindName (name : String) (line : Nat) : Checking :=
  if name = constantWord then refuse (.constantBound name) line else .ok ()

/-- Checks the names of arguments. -/
def checkKeywords (line : Nat) : List Keyword → Checking
  | [] => .ok ()
  | k :: rest => do
    if let some name := k.name? then
      bindName name line
      if let some other := rest.find? (·.name? = some name) then
        refuse (.repeatedKeyword name) other.line
    checkKeywords line rest

/-- Checks the stars among the targets of an assignment. -/
def checkStars (line : Nat) (targets : List Expr) : Checking :=
  let stars := targets.filter fun e => match e.form with
    | .starred _ => true
    | _ => false
  let before := targets.takeWhile fun e => match e.form with
    | .starred _ => false
    | _ => true
  if stars ≠ [] ∧ 256 ≤ before.length then refuse .manyTargets line
  else if 1 < stars.length then refuse .manyStarTargets line
  else .ok ()

end Surroundings

namespace Check

open Surroundings

mutual

/-- Checks an expression that may have a star in front. -/
def item : Nat → Surroundings → Expr → Checking
  | 0, _, _ => .ok ()
  | n + 1, s, e =>
    match e.form with
    | .starred value => expr n s value
    | _ => expr n s e

/-- Checks an expression whose value is asked for. -/
def expr : Nat → Surroundings → Expr → Checking
  | 0, _, _ => .ok ()
  | n + 1, s, .mk line form => do
    match form with
    | .starred _ => refuse .starred line
    | .tuple items | .list items | .set items => items.forM (item n s)
    | .call function arguments keywords =>
      checkKeywords line keywords
      expr n s function
      arguments.forM (item n s)
      keywords.forM fun k => expr n s k.value
    | .lambda parameters body =>
      parameters.written.forM fun p => bindName p.name line
      parameters.defaults.forM (expr n s)
      expr n { s with unit := .lambda, blocks := [] } body
    | .comprehension kind element value clauses =>
      let waits := clauses.any Clause.waits
        || (comprehensionParts element value clauses).any (Expr.waits n)
      if waits && kind ≠ .generator && s.unit ≠ .waitingFunction && s.unit ≠ .comprehension then
        refuse .asyncComprehension line
      let inner := { s with unit := .comprehension, blocks := [] }
      match clauses with
      | [] => pure ()
      | .mk _ onto _ conditions :: rest =>
        target n inner onto
        conditions.forM (expr n inner)
        rest.forM fun
          | .mk _ onto source conditions => do
            expr n inner source
            target n inner onto
            conditions.forM (expr n inner)
      expr n inner element
      value.forM (expr n inner)
      clauses.head?.forM fun c => expr n s c.source
    | .await value =>
      if !s.isFunction then refuse .awaitOutside line
      if s.unit ≠ .waitingFunction && s.unit ≠ .comprehension then refuse .awaitOutsideAsync line
      expr n s value
    | .yield value =>
      if !s.isFunction then refuse .yieldOutside line
      value.forM (expr n s)
    | .yieldFrom source =>
      if !s.isFunction then refuse .yieldOutside line
      if s.unit = .waitingFunction then refuse .yieldFromInAsync line
      expr n s source
    | .named onto value =>
      expr n s value
      target n s onto
    | _ => form.parts.forM (expr n s)

/-- Checks an expression that something is assigned to. -/
def target : Nat → Surroundings → Expr → Checking
  | 0, _, _ => .ok ()
  | n + 1, s, .mk line form => do
    match form with
    | .name id => bindName id line
    | .starred _ => refuse .loneStarTarget line
    | .tuple items | .list items =>
      checkStars line items
      items.forM fun e =>
        match e.form with
        | .starred value => target n s value
        | _ => target n s e
    | .attribute value name =>
      expr n s value
      bindName name line
    | _ => form.parts.forM (expr n s)

end

/-- Checks an expression that is deleted. -/
def deleted : Nat → Surroundings → Expr → Checking
  | 0, _, _ => .ok ()
  | n + 1, s, .mk line form =>
    match form with
    | .name id => if id = constantWord then refuse (.constantDeleted id) line else .ok ()
    | .tuple items | .list items => items.forM (deleted n s)
    | _ => form.parts.forM (expr n s)

/-! ## Patterns -/

/-- Adds a name that a pattern binds to those that it has bound. -/
def capture (line : Nat) (names : List String) : Option String → Except SourceError (List String)
  | none => .ok names
  | some name => do
    bindName name line
    if name ∈ names then refuse (.repeatedName name) line
    return name :: names

/-- Checks the attributes that a pattern for objects names. -/
def attributes : List (String × Nat) → Checking
  | [] => .ok ()
  | (name, line) :: rest => do
    bindName name line
    if let some (_, other) := rest.find? (·.1 = name) then refuse (.repeatedAttribute name) other
    attributes rest

/-- The line of a pattern, if it has one. -/
def patternLine (around : Nat) : Pattern → Nat
  | .value e => e.line
  | .constant _ => around
  | .capture line .. | .sequence line _ | .rest line _ | .mapping line .. | .ofClass line ..
  | .anyOf line _ => line

/-- The text of a key of a mapping, if it is written out. -/
def keyText (e : Expr) : Option String :=
  match e.form with
  | .constant (.int i) => some (toString i)
  | .constant (.text t) => some (Text.quoted t)
  | .constant (.bool b) => some (if b then "True" else "False")
  | .constant .none => some "None"
  | .unary .minus (.mk _ (.constant (.int i))) => some ("-" ++ toString i)
  | _ => none

/-- Checks that no key of a mapping occurs twice. -/
def checkKeys (seen : List String) (line : Nat) : List Expr → Checking
  | [] => .ok ()
  | e :: rest =>
    match keyText e with
    | some key =>
      if key ∈ seen then refuse (.repeatedKey key) line else checkKeys (key :: seen) line rest
    | none => checkKeys seen line rest

/-- Checks a pattern: the names that it binds besides the given ones. `last` tells whether a pattern
that matches anything can stand there. -/
def pattern : Nat → Surroundings → (last : Bool) → (line : Nat) → List String → Pattern →
    Except SourceError (List String)
  | 0, _, _, _, names, _ => .ok names
  | n + 1, s, last, around, names, p => do
    let line := patternLine around p
    let inner := fun names p => pattern n s true line names p
    match p with
    | .value e =>
      expr n s e
      return names
    | .constant _ => return names
    | .capture _ none name =>
      if !last then
        match name with
        | some name => refuse (.unreachableAfterName name) line
        | none => refuse .unreachableAfterWildcard line
      capture line names name
    | .capture _ (some p) name =>
      let names ← pattern n s last line names p
      capture line names name
    | .rest _ name => capture line names name
    | .sequence _ patterns =>
      let stars := patterns.filter fun
        | .rest .. => true
        | _ => false
      if 1 < stars.length then refuse .manyRests line
      patterns.foldlM inner names
    | .mapping _ keys patterns rest =>
      checkKeys [] line keys
      keys.forM (expr n s)
      capture line (← patterns.foldlM inner names) rest
    | .ofClass _ type patterns labels named =>
      attributes (labels.zip (named.map (patternLine line)))
      expr n s type
      (patterns ++ named).foldlM inner names
    | .anyOf _ patterns =>
      match patterns with
      | [] => return names
      | first :: rest =>
        let control ← pattern n s (last && rest.isEmpty) line [] first
        let rec alternatives : List Pattern → Except SourceError Unit
          | [] => .ok ()
          | p :: rest => do
            let bound ← pattern n s (last && rest.isEmpty) line [] p
            if bound.length ≠ control.length || bound.any (· ∉ control) then
              refuse .differentNames line
            alternatives rest
        alternatives rest
        control.reverse.foldlM (fun names name =>
          if name ∈ names then refuse (.repeatedName name) line else .ok (name :: names)) names

/-! ## Statements -/

mutual

/-- Checks that blocks can be left. A way out of a loop ends at the loop, which is what it answers;
what is to be run in the end is run then. -/
def leave (toLoop : Bool) (line : Nat) : Nat → Surroundings → List BlockKind →
    Except SourceError Bool
  | 0, _, _ => .ok true
  | _, _, [] => .ok false
  | n + 1, s, b :: rest => do
    match b with
    | .groupHandler => refuse .leavesGroupHandler line
    | .loop => if toLoop then return true else leave toLoop line n s rest
    | .final body =>
      body.forM (stmt n { s with blocks := rest })
      leave toLoop line n s rest
    | .other => leave toLoop line n s rest

/-- Checks a statement. -/
def stmt : Nat → Surroundings → Stmt → Checking
  | 0, _, _ => .ok ()
  | n + 1, s, .mk line form => do
    let look := expr n s
    let body := fun (s : Surroundings) (ss : List Stmt) => ss.forM (stmt n s)
    match form with
    | .expr value => look value
    | .assign targets value =>
      look value
      targets.forM (target n s)
    | .augment onto _ value =>
      match onto.form with
      | .name id =>
        look value
        bindName id onto.line
      | _ =>
        onto.form.parts.forM look
        look value
    | .declare onto declared value plain =>
      if let some value := value then
        look value
        target n s onto
      let atTop := !s.isFunction
      match onto.form with
      | .name id =>
        bindName id line
        if plain && atTop then look declared
      | .attribute inner name =>
        bindName name line
        if value.isNone then look inner
      | .subscript inner index =>
        if value.isNone then
          look inner
          look index
      | _ => pure ()
      if !plain && atTop then look declared
    | .delete targets => targets.forM (deleted n s)
    | .pass | .global _ | .nonlocal _ => pure ()
    | .leave =>
      if !(← leave true line n s s.blocks) then refuse .leaveOutside line
    | .next =>
      if !(← leave true line n s s.blocks) then refuse .nextOutside line
    | .result value =>
      if !s.isFunction then refuse .resultOutside line
      if value.isSome && s.waits && s.yields then refuse .resultInGenerator line
      value.forM look
      let _ ← leave false line n s s.blocks
    | .raise error cause =>
      error.forM look
      cause.forM look
    | .assert test message =>
      look test
      message.forM look
    | .importModules names =>
      names.forM fun i => bindName (i.target.getD i.name) line
    | .importFrom path names _ =>
      if path = some featureModule && s.lastFeatures < line then refuse .lateFeatures line
      names.forM fun i => bindName (i.target.getD i.name) line
    | .branch test whenTrue whenFalse =>
      look test
      body s whenTrue
      body s whenFalse
    | .loop test inner otherwise =>
      let within ← s.inside .loop line
      expr n within test
      body within inner
      body s otherwise
    | .each waits onto source inner otherwise =>
      if waits && s.unit ≠ .waitingFunction then refuse (.asyncOutside "for") line
      let within ← s.inside .loop line
      look source
      target n within onto
      body within inner
      body s otherwise
    | .within waits items inner =>
      if waits && s.unit ≠ .waitingFunction then refuse (.asyncOutside "with") line
      let within ← items.foldlM (fun s (value, onto) => do
        expr n s value
        let s ← s.inside .other line
        onto.forM (target n s)
        return s) s
      body within inner
    | .attempt inner handlers otherwise final grouped =>
      let around ← if final.isEmpty then pure s else s.inside (.final final) line
      if handlers.isEmpty then body around inner
      else
        body (← around.inside .other line) inner
        if !grouped then body around otherwise
        let handling ← around.inside (if grouped then .groupHandler else .other) line
        handle n handling handlers
        if grouped then body around otherwise
      body s final
    | .select subject cases =>
      look subject
      select n s cases
    | .function waits name parameters returns decorators inner =>
      parameters.written.forM fun p => bindName p.name line
      decorators.forM look
      parameters.defaults.forM look
      parameters.declared.forM (item n s)
      returns.forM look
      let parts := fun holds => inner.any (Stmt.anyPart holds n)
      body { unit := if waits then .waitingFunction else .function
             yields := parts (Expr.yields n)
             waits := waits || parts (Expr.waits n)
             lastFeatures := s.lastFeatures } inner
      bindName name line
    | .typeDef name bases keywords decorators inner =>
      decorators.forM look
      body { unit := .typeBody, lastFeatures := s.lastFeatures } inner
      checkKeywords line keywords
      bases.forM (item n s)
      keywords.forM fun k => look k.value
      bindName name line

/-- Checks what is done about errors. -/
def handle : Nat → Surroundings → List Handler → Checking
  | 0, _, _ | _, _, [] => .ok ()
  | n + 1, s, .mk line type name body :: rest => do
    if type.isNone && !rest.isEmpty then refuse .defaultHandlerFirst line
    type.forM (expr n s)
    name.forM (bindName · line)
    let within ← s.inside .other line
    body.forM (stmt n within)
    handle n s rest

/-- Checks the cases of a choice. -/
def select : Nat → Surroundings → List Case → Checking
  | 0, _, _ | _, _, [] => .ok ()
  | n + 1, s, .mk p guard body :: rest => do
    let _ ← pattern n s (guard.isSome || rest.isEmpty) (patternLine 0 p) [] p
    guard.forM (expr n s)
    body.forM (stmt n s)
    select n s rest

end

/-- The line of the last import of features at the beginning of a source, after such imports up to a
line. -/
def lastFeatures (line : Nat) : List Stmt → Except SourceError Nat
  | .mk place (.importFrom (some path) names 0) :: rest =>
    if path = featureModule then
      match names.find? (·.name ∉ languageFeatures) with
      | some i => refuse (if i.name = "braces" then .braces else .unknownFeature i.name) place
      | none => lastFeatures place rest
    else .ok line
  | _ => .ok line

end Check

/-- Checks the imports of features: the line of the last one. -/
def checkFeatures (source : List Stmt) : Except SourceError Nat :=
  Check.lastFeatures 0 <|
    match source with
    | .mk _ (.expr (.mk _ (.constant (.text _)))) :: rest => rest
    | rest => rest

/-- Checks that the statements and expressions of a source are where they belong. -/
def checkPlacement (depth lastFeatures : Nat) (source : List Stmt) : Checking :=
  source.forM (Check.stmt depth { lastFeatures })

end RecordForge.Source

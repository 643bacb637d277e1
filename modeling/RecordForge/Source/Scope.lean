import RecordForge.Source.Fault
import RecordForge.Source.NameReading
import RecordForge.Source.Parts

/-!
# Names and their scopes

A name belongs to a scope: that of the source, of a type or of a function, or to one around the
scope in which it is used. A first pass notes in each scope what is done with its names, and refuses
declarations that come too late; a second one finds out whether each name that is declared to belong
to a scope around is bound there.
-/

namespace RecordForge.Source

/-- What a scope belongs to. -/
inductive ScopeKind where
  | source
  | typeBody
  | function
  | comprehension
deriving DecidableEq, Repr

/-- What is done with a name. -/
inductive NameMark where
  | parameter
  | assigned
  | imported
  | used
  | declared
  | global
  | nonlocal
  /-- A loop of a comprehension binds the name. -/
  | loop
deriving DecidableEq, Repr

/-- The mark that a declaration leaves. -/
def OuterKind.mark : OuterKind → NameMark
  | .global => .global
  | .nonlocal => .nonlocal

/-- A scope and what has been noted about it. -/
structure Scope where
  kind : ScopeKind
  /-- The type that private names belong to. -/
  owner : Option String := none
  /-- What is done with each name, in the order in which the names come up. -/
  names : List (String × List NameMark) := []
  /-- The lines of the declarations that a name belongs to a scope around. -/
  directives : List (String × Nat) := []
  /-- Whether the targets of a loop of a comprehension are being looked at. -/
  inTarget : Bool := false
  /-- Whether what a comprehension goes through is being looked at. -/
  inSource : Bool := false
deriving Repr

/-- A scope with the scopes in it. -/
inductive ScopeTree where
  | mk (scope : Scope) (inner : List ScopeTree)

namespace Scope

/-- The name under which a scope knows a name. -/
def known (s : Scope) (name : String) : String :=
  match s.owner with
  | some owner => Text.nameWithin owner name
  | none => name

/-- The marks of a known name. -/
def marks (s : Scope) (known : String) : List NameMark :=
  (s.names.lookup known).getD []

/-- Adds a mark to a known name. -/
def mark (s : Scope) (known : String) (m : NameMark) : Scope :=
  if s.names.any (·.1 = known) then
    { s with names := s.names.map fun (name, ms) => (name, if name = known then m :: ms else ms) }
  else { s with names := s.names ++ [(known, [m])] }

end Scope

/-! ## Noting -/

/-- The scopes that are open, the innermost first, each with the finished scopes in it, the last one
first. -/
abbrev Noting := StateT (List (Scope × List ScopeTree)) (Except SourceError)

namespace Noting

/-- The innermost scope. -/
def scope : Noting Scope := do
  return ((← get).head?.map Prod.fst).getD { kind := .source }

/-- Changes the innermost scope. -/
def adjust (f : Scope → Scope) : Noting Unit :=
  modify fun
    | [] => []
    | (s, inner) :: rest => (f s, inner) :: rest

/-- Refuses the source for its use of a name. -/
def refuse {α : Type} (fault : NameFault) (line : Nat) : Noting α :=
  throw ⟨.name fault, line⟩

/-- Notes what is done with a name in a scope; it is a private name of the given scope. -/
def noteIn (s : Scope) (within : Scope) (name : String) (m : NameMark) (line : Nat) :
    Noting Scope := do
  let known := within.known name
  let marks := s.marks known
  if m = .parameter && .parameter ∈ marks then refuse (.duplicateParameter name) line
  let noted := s.mark known m
  if s.inTarget then
    let marks := noted.marks known
    if .global ∈ marks || .nonlocal ∈ marks then refuse (.loopRebinds name) line
    return noted.mark known .loop
  return noted

/-- Notes in the outermost scope that a name is declared to belong to it. -/
def noteGlobal (known : String) : Noting Unit :=
  modify fun scopes =>
    match scopes.reverse with
    | [] => []
    | (s, inner) :: rest => ((s.mark known .global, inner) :: rest).reverse

/-- Notes what is done with a name. -/
def note (name : String) (m : NameMark) (line : Nat) : Noting Unit := do
  let s ← scope
  let noted ← noteIn s s name m line
  adjust fun _ => noted
  if m = .global then noteGlobal (s.known name)

/-- Notes the line of a declaration. -/
def direct (name : String) (line : Nat) : Noting Unit :=
  adjust fun s => { s with directives := s.directives ++ [(s.known name, line)] }

/-- Looks at the parts of a new scope. -/
def within (kind : ScopeKind) (owner : Option String) (look : Noting Unit) : Noting Unit := do
  let s ← scope
  let opened : Scope :=
    { kind, owner := owner.or s.owner, inSource := s.inSource }
  modify ((opened, []) :: ·)
  look
  modify fun
    | (s, inner) :: (around, others) :: rest =>
      (around, .mk s inner.reverse :: others) :: rest
    | scopes => scopes

/-- Looks at something while what a comprehension goes through is being looked at. -/
def asSource (look : Noting Unit) : Noting Unit := do
  let s ← scope
  adjust fun s => { s with inSource := true }
  look
  adjust fun t => { t with inSource := s.inSource }

/-- Looks at the targets of a loop. -/
def asTarget (look : Noting Unit) : Noting Unit := do
  adjust fun s => { s with inTarget := true }
  look
  adjust fun s => { s with inTarget := false }

/-- A name that is bound within a comprehension is bound in the scope around all comprehensions.
The scopes are given with the innermost first, and are given back as they were or are changed. -/
def bindAround (name : String) (line : Nat) :
    List (Scope × List ScopeTree) → Noting (Option (OuterKind × List (Scope × List ScopeTree)))
  | [] => return none
  | (s, inner) :: rest => do
    match s.kind with
    | .comprehension =>
      if .loop ∈ s.marks name then refuse (.namedRebinds name) line
      return (← bindAround name line rest).map fun (kind, rest) => (kind, (s, inner) :: rest)
    | .function =>
      let kind := if .global ∈ s.marks name then OuterKind.global else .nonlocal
      let noted ← noteIn s (← scope) name .assigned line
      return some (kind, (noted, inner) :: rest)
    | .source =>
      let noted ← noteIn s (← scope) name .global line
      return some (.global, (noted, inner) :: rest)
    | .typeBody => refuse .namedInClass line

/-- Binds a name that is bound by an expression within a comprehension. -/
def extend (name : String) (line : Nat) : Noting Unit := do
  if let some (kind, scopes) ← bindAround name line (← get) then
    set scopes
    note name kind.mark line
    direct name line

/-- Notes a declaration that a name belongs to a scope around. -/
def declare (kind : OuterKind) (line : Nat) (name : String) : Noting Unit := do
  let s ← scope
  let marks := s.marks (s.known name)
  if .parameter ∈ marks then refuse (.parameterAnd name kind) line
  if .used ∈ marks then refuse (.usedBefore name kind) line
  if .declared ∈ marks then refuse (.declaredBefore name kind) line
  if .assigned ∈ marks then refuse (.assignedBefore name kind) line
  note name kind.mark line
  direct name line

/-- Notes the names that an import binds. -/
def importName (line : Nat) (i : Imported) : Noting Unit := do
  let name := i.target.getD i.name
  if name = "*" then
    if (← scope).kind ≠ .source then refuse .starImport line
  else note (String.ofList (name.toList.takeWhile (· ≠ '.'))) .imported line

/-- The word for a comprehension that gives out values. -/
def comprehensionWord : ComprehensionKind → String
  | .list => "list comprehension"
  | .set => "set comprehension"
  | .dict => "dict comprehension"
  | .generator => "generator expression"

/-- Looks at an expression. `binds` tells a target, `kind` the comprehension in which it stands. -/
def expr : Nat → (binds : Bool) → (kind : Option ComprehensionKind) → Expr → Noting Unit
  | 0, _, _, _ => pure ()
  | n + 1, binds, kind, .mk line form => do
    let look := expr n false kind
    match form with
    | .name id =>
      if binds || id ≠ constantWord then note id (if binds then .assigned else .used) line
      if !binds && id = "super" && (← scope).kind = .function then note "__class__" .used line
    | .tuple items | .list items => items.forM (expr n binds kind)
    | .starred value => expr n binds kind value
    | .named target value =>
      let s ← scope
      if s.inSource then refuse .namedInSource line
      if s.kind = .comprehension then
        match target.form with
        | .name id => extend id line
        | _ => pure ()
      look value
      expr n true kind target
    | .lambda parameters body =>
      parameters.defaults.forM look
      within .function none do
        parameters.all.forM fun p => note p.name .parameter p.line
        expr n false none body
    | .comprehension made element value clauses =>
      match clauses with
      | [] => pure ()
      | .mk _ target source conditions :: rest =>
        asSource (look source)
        within .comprehension none do
          let look := expr n false (some made)
          asTarget (expr n true (some made) target)
          conditions.forM look
          rest.forM fun
            | .mk _ target source conditions => do
              asTarget (expr n true (some made) target)
              asSource (look source)
              conditions.forM look
          value.forM look
          look element
    | .dict items =>
      items.forM fun | .mk key _ => key.forM look
      items.forM fun | .mk _ value => look value
    | .yield _ | .yieldFrom _ =>
      form.parts.forM look
      match kind with
      | some kind => refuse (.yieldInside (comprehensionWord kind)) line
      | none => pure ()
    | _ => form.parts.forM look

/-- Looks at a pattern. -/
def pattern : Nat → Pattern → Noting Unit
  | 0, _ => pure ()
  | n + 1, p => do
    let look := expr n false none
    match p with
    | .value e => look e
    | .constant _ => pure ()
    | .capture line inner name =>
      inner.forM (pattern n)
      name.forM fun name => note name .assigned line
    | .rest line name => name.forM fun name => note name .assigned line
    | .sequence _ patterns | .anyOf _ patterns => patterns.forM (pattern n)
    | .mapping line keys patterns rest =>
      keys.forM look
      patterns.forM (pattern n)
      rest.forM fun name => note name .assigned line
    | .ofClass _ type patterns _ named =>
      look type
      patterns.forM (pattern n)
      named.forM (pattern n)

/-- Looks at a statement. -/
def stmt : Nat → Stmt → Noting Unit
  | 0, _ => pure ()
  | n + 1, .mk line form => do
    let look := expr n false none
    let target := expr n true none
    let body : List Stmt → Noting Unit := fun ss => ss.forM (stmt n)
    match form with
    | .expr value => look value
    | .assign targets value =>
      targets.forM target
      look value
    | .augment onto _ value =>
      target onto
      look value
    | .declare onto declared value plain =>
      match onto with
      | .mk place (.name id) =>
        let s ← scope
        let marks := s.marks (s.known id)
        if plain && s.kind ≠ .source then
          if .global ∈ marks then refuse (.declaredBefore id .global) line
          if .nonlocal ∈ marks then refuse (.declaredBefore id .nonlocal) line
        if plain then
          note id .assigned place
          note id .declared place
        else if value.isSome then note id .assigned place
      | _ => target onto
      look declared
      value.forM look
    | .delete targets => targets.forM target
    | .pass | .leave | .next => pure ()
    | .result value => value.forM look
    | .raise error cause =>
      error.forM look
      cause.forM look
    | .global names => names.forM (declare .global line)
    | .nonlocal names => names.forM (declare .nonlocal line)
    | .assert test message =>
      look test
      message.forM look
    | .importModules names | .importFrom _ names _ => names.forM (importName line)
    | .branch test whenTrue whenFalse | .loop test whenTrue whenFalse =>
      look test
      body whenTrue
      body whenFalse
    | .each _ onto source inner otherwise =>
      target onto
      look source
      body inner
      body otherwise
    | .within _ items inner =>
      items.forM fun (value, onto) => do
        look value
        onto.forM target
      body inner
    | .attempt inner handlers otherwise final _ =>
      body inner
      body otherwise
      handlers.forM fun
        | .mk place type name inner => do
          type.forM look
          name.forM fun name => note name .assigned place
          body inner
      body final
    | .select subject cases =>
      look subject
      cases.forM fun
        | .mk p guard inner => do
          pattern n p
          guard.forM look
          body inner
    | .function _ name parameters returns decorators inner =>
      note name .assigned line
      parameters.defaults.forM look
      parameters.declared.forM look
      returns.forM look
      decorators.forM look
      within .function none do
        parameters.all.forM fun p => note p.name .parameter p.line
        body inner
    | .typeDef name bases keywords decorators inner =>
      note name .assigned line
      bases.forM look
      keywords.forM fun k => look k.value
      decorators.forM look
      within .typeBody (some name) (body inner)

end Noting

/-! ## Looking names up -/

namespace Scope

/-- The line of the first declaration of a name. -/
def directiveLine (s : Scope) (name : String) : Nat :=
  (s.directives.lookup name).getD 1

/-- Looks the names of a scope up, of which the scopes around bind some; there are none around the
whole source. The names that are bound for the scopes inside are given back. -/
def resolve (s : Scope) (around : Option (List String)) : Except SourceError (List String) := do
  let refuse (name : String) (fault : NameFault) : Except SourceError Unit :=
    .error ⟨.name fault, s.directiveLine name⟩
  let mut bound := around
  let mut own := []
  for (name, marks) in s.names do
    if .global ∈ marks then
      if .nonlocal ∈ marks then refuse name (.nonlocalAndGlobal name)
      bound := bound.map (·.erase name)
    else if .nonlocal ∈ marks then
      match bound with
      | none => refuse name .nonlocalAtTop
      | some names => if name ∉ names then refuse name (.noBinding name)
    else if marks.any (· ≠ .used) then own := name :: own
  match s.kind with
  | .typeBody => return "__class__" :: around.getD []
  | .source => return bound.getD []
  | .function | .comprehension => return own ++ bound.getD []

end Scope

/-- Looks the names of scopes and of the scopes in them up. -/
def ScopeTree.resolve : Nat → Option (List String) → ScopeTree → Except SourceError Unit
  | 0, _, _ => .ok ()
  | n + 1, around, .mk scope inner => do
    let bound ← scope.resolve around
    inner.forM (resolve n (some bound))

/-- The names that belong to a function itself, and those that it says belong to the source. -/
def functionNames (owner : Option String) (look : Noting Unit) : List String × List String :=
  match (Noting.within .function owner look).run [({ kind := .source }, [])] with
  | .ok (_, [(_, [.mk s _])]) =>
    let outer := s.names.filter fun (_, marks) => .global ∈ marks
    let own := s.names.filter fun (_, marks) =>
      marks.any (fun m => m ≠ .used && m ≠ .loop) && .global ∉ marks && .nonlocal ∉ marks
    (own.map Prod.fst, outer.map Prod.fst)
  | _ => ([], [])

/-- Checks that a source uses its names consistently. The depth is at least that of the source. -/
def checkNames (depth : Nat) (source : List Stmt) : Except SourceError Unit := do
  let (_, scopes) ← (source.forM (Noting.stmt depth)).run [({ kind := .source }, [])]
  match scopes with
  | [(scope, inner)] => ScopeTree.resolve depth none (.mk scope inner.reverse)
  | _ => pure ()

end RecordForge.Source

import RecordForge.Running.Operation
import RecordForge.Source.Scope

/-!
# Where statements are run

The frames that a statement sees, and what a name stands for in them. What an expression or a
statement does is said in terms of what its parts do, which is given as `Deeper`: a run goes one
level deeper for each of them.
-/

namespace RecordForge.Running

open Source

/-- Where a statement is run. -/
structure Site where
  /-- The places of the frames, the innermost first and that of the source last. -/
  frames : List Nat
  kind : ScopeKind := .source
  /-- The names that belong to the source. -/
  outer : List String := []
  /-- The type that private names belong to. -/
  owner : Option String := none
  /-- The frames in which an expression within a comprehension binds a name. -/
  home : Option (List Nat) := none
  /-- The names of the scopes around, with marks behind them. -/
  qualifier : String := ""

namespace Site

/-- The name under which a name is known. -/
def known (s : Site) (name : String) : String :=
  match s.owner with
  | some owner => Text.nameWithin owner name
  | none => name

/-- The place of the frame of the source. -/
def top (s : Site) : Nat :=
  s.frames.getLastD 0

/-- The place of the innermost frame. -/
def innermost (s : Site) : Nat :=
  s.frames.headD 0

end Site

/-! ## Names -/

/-- The name under which a source finds those of the language. -/
def builtinsName : String := "__builtins__"

/-- What a name of the language stands for. -/
def builtin? (name : String) : Option Datum :=
  if name ∈ plainTypes || name ∈ errorTypes then some (.type name)
  else if name ∈ builtinFunctions then some (.builtin name)
  else
    match errorAliases.lookup name, name with
    | some type, _ => some (.type type)
    | none, "NotImplemented" => some .notImplemented
    | none, "Ellipsis" => some .ellipsis
    | none, "__name__" => some (.text "builtins")
    | none, "__package__" => some (.text "")
    | none, "__doc__" | none, "__loader__" | none, "__spec__" => some .unknown
    | none, _ => none

/-- Raises the error about an unbound name. -/
def unbound {α : Type} (name : String) : Running α :=
  fail "NameError" ("name '" ++ name ++ "' is not defined")

/-- Raises the error about a name of a function that is not bound yet. -/
def unboundLocal {α : Type} (name : String) : Running α :=
  fail "UnboundLocalError"
    ("cannot access local variable '" ++ name ++ "' where it is not associated with a value")

/-- What the language has under a name. A source can put names of its own in place of those of the
language; its functions and types then find these. -/
def lookUpBuiltin (s : Site) (name : String) : Running (Option Datum) := do
  match s.kind, contentAt? (← frame s.top).names builtinsName with
  | .source, _ => return builtin? name
  | _, some (.object place) =>
    match ← thing place with
    | .dict entries => keyed? entries (.text name)
    | _ => return builtin? name
  | _, _ => return builtin? name

/-- What the source or the language has under a name. -/
def lookUpOutside (s : Site) (name : String) : Running Datum := do
  match contentAt? (← frame s.top).names name with
  | some d => return d
  | none =>
    match ← lookUpBuiltin s name with
    | some d => return d
    | none => unbound name

/-- What the scopes around have under a name. -/
def lookUpAround (s : Site) (name : String) : List Nat → Running Datum
  | [] | [_] => lookUpOutside s name
  | place :: rest => do
    let f ← frame place
    if name ∈ f.own then
      match contentAt? f.names name with
      | some d => return d
      | none =>
        fail "NameError" ("cannot access free variable '" ++ name
          ++ "' where it is not associated with a value in enclosing scope")
    else lookUpAround s name rest

/-- What stands under a name. -/
def lookUp (s : Site) (name : String) : Running Datum := do
  if name = constantWord then return .bool true
  let name := s.known name
  if name ∈ s.outer then return ← lookUpOutside s name
  match s.kind, s.frames with
  | .source, _ => lookUpOutside s name
  | .typeBody, place :: rest =>
    match contentAt? (← frame place).names name with
    | some d => return d
    | none => lookUpAround s name rest
  | _, place :: rest =>
    let f ← frame place
    if name ∈ f.own then
      match contentAt? f.names name with
      | some d => return d
      | none => unboundLocal name
    else lookUpAround s name rest
  | _, [] => unbound name

/-- The place of the frame that a name is bound in. -/
def frameOf (s : Site) (frames : List Nat) (name : String) : Running Nat := do
  if name ∈ s.outer then return s.top
  match s.kind with
  | .source | .typeBody => return frames.headD s.top
  | _ => return (← frames.findM? fun place => return name ∈ (← frame place).own).getD s.top

/-- Binds a name in one of some frames. -/
def bindIn (s : Site) (frames : List Nat) (name : String) (d : Datum) : Running Unit := do
  let name := s.known name
  let place ← frameOf s frames name
  let f ← frame place
  replace place (.frame { f with names := putEntry f.names name d })

/-- Binds a name. -/
def bind (s : Site) (name : String) (d : Datum) : Running Unit :=
  bindIn s s.frames name d

/-- Takes what is bound to a name away. -/
def unbind (s : Site) (name : String) : Running Unit := do
  let name := s.known name
  let place ← frameOf s s.frames name
  let f ← frame place
  if (contentAt? f.names name).isNone then
    if s.kind = .function && name ∈ f.own then unboundLocal name else unbound name
  replace place (.frame { f with names := f.names.filter (·.1 ≠ name) })

/-! ## Loops -/

/-- The largest number of rounds of a loop. -/
def maxRounds : Nat := 100000

/-- Runs the body of a loop: whether the loop goes on. -/
def round (body : Running Unit) : Running Bool :=
  try
    body
    return true
  catch stop =>
    match stop with
    | .leave => return false
    | .next => return true
    | stop => throw stop

/-- Runs a body as long as a test holds: whether the loop was not left. -/
def loopWhile (test : Running Bool) (body : Running Unit) : Nat → Running Bool
  | 0 => fail "RuntimeError" "the loop does not end"
  | n + 1 => do
    if ← test then
      if ← round body then loopWhile test body n else return false
    else return true

/-- Runs a body for each item: whether the loop was not left. -/
def loopOver (body : Datum → Running Unit) : List Datum → Running Bool
  | [] => return true
  | d :: rest => do if ← round (body d) then loopOver body rest else return false

/-! ## Values of expressions -/

/-- The value of a constant. -/
def ofConstant : Constant → Datum
  | .none => .none
  | .bool b => .bool b
  | .ellipsis => .ellipsis
  | .int n => .int n
  | .float x => .float x
  | .imaginary _ => .complex
  | .text s => .text s
  | .bytes codes => .bytes codes

/-- The sign of a comparison, if it is one of order. -/
def orderSign? : CompareOp → Option (String × List Ordering)
  | .less => some ("<", [.lt])
  | .lessEqual => some ("<=", [.lt, .eq])
  | .greater => some (">", [.gt])
  | .greaterEqual => some (">=", [.gt, .eq])
  | _ => none

/-- What a comparison says of two values. -/
def compareBy (op : CompareOp) (a b : Datum) : Running Datum := do
  if (← isOpen a) || (← isOpen b) then
    if op ≠ .isSame && op ≠ .isNotSame then return .unknown
  match op with
  | .equal => return .bool (← equal a b)
  | .notEqual => return .bool !(← equal a b)
  | .isSame => return .bool (a == b)
  | .isNotSame => return .bool (a != b)
  | .isIn => return .bool (← isIn a b)
  | .isNotIn => return .bool !(← isIn a b)
  | op =>
    match orderSign? op with
    | none => return .unknown
    | some (sign, wanted) =>
      match ← order sign a b with
      | some o => return .bool (wanted.contains o)
      | none => return .bool false

/-- What an operator makes of two values; a text with marks is filled. -/
def combine (sign : String) (op : BinaryOp) (a b : Datum) : Running Datum :=
  match op, a with
  | .modulo, .text s => fill s b
  | _, _ => operate sign op a b

/-- How a call names what it calls. -/
def calledName (f : Datum) : Running String := do
  match f with
  | .builtin name | .type name => return name ++ "()"
  | .operation owner name => return (← kindOf owner) ++ "." ++ name ++ "()"
  | .bound _ (.object place) | .object place =>
    match ← thing place with
    | .function f => return f.qualified ++ "()"
    | .type t => return t.name ++ "()"
    | _ => shown f
  | f => shown f

/-- The texts of a text with values in it, if all are known. -/
def joinedText (parts : List Datum) : Datum :=
  match parts.mapM fun
    | .text s => some s
    | _ => none with
  | some ss => .text (String.join ss)
  | none => .unknown

/-! ## Going deeper -/

/-- What the parts of expressions and statements do. -/
structure Deeper where
  expr : Site → Expr → Running Datum
  stmt : Site → Stmt → Running Unit
  call : Site → Datum → List Datum → List (String × Datum) → Running Datum
  /-- Assigns a value to a target. -/
  assign : Site → Expr → Datum → Running Unit
  /-- Takes away what a target stands for. -/
  delete : Site → Expr → Running Unit
  /-- The items of a value, if it has some. -/
  items? : Site → Datum → Running (Option (List Datum))
  /-- Whether a value matches a pattern. -/
  fits : Site → Datum → Pattern → Running Bool
  /-- Runs a text, or works out the value that it stands for. -/
  text : Site → (asValue : Bool) → String → Running Datum

namespace Deeper

/-- The items of a value. -/
def items (go : Deeper) (s : Site) (d : Datum) : Running (List Datum) := do
  match ← go.items? s d with
  | some found => return found
  | none => notIterable d

/-- What calls can make use of at a site. -/
def machine (go : Deeper) (s : Site) : Machine where
  call := go.call s
  items := go.items s
  source := go.text s
  outer := .object s.top
  inner := .object s.innermost

end Deeper

end RecordForge.Running

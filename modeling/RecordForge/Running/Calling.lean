import RecordForge.Arity
import RecordForge.Running.Layout

/-!
# Arguments of calls

What a call can do besides its own work is given to it: call functions, go through the items of a
value, and read further sources. The functions of the language have several ways to say that a
number of arguments does not suit them.
-/

namespace RecordForge.Running

/-- What calls can make use of. -/
structure Machine where
  call : Datum → List Datum → List (String × Datum) → Running Datum
  /-- The items of a value. -/
  items : Datum → Running (List Datum)
  /-- Runs a text, or works out the value that it stands for. -/
  source : (asValue : Bool) → String → Running Datum
  /-- The names of the whole source, and those of the scope at hand. -/
  outer : Datum
  inner : Datum

namespace Call

/-- "1 argument", "2 arguments" and so on. -/
def counted (n : Nat) : String :=
  toString n ++ " argument" ++ ArityError.plural n

/-- Refuses named arguments. -/
def noKeywords (name : String) (keywords : List (String × Datum)) : Running Unit :=
  if keywords.isEmpty then pure ()
  else wrongType (name ++ "() takes no keyword arguments")

/-- Checks for no arguments. -/
def nothing (name : String) (given : Nat) : Running Unit :=
  if given = 0 then pure ()
  else wrongType (name ++ "() takes no arguments (" ++ toString given ++ " given)")

/-- Checks for one argument. -/
def one (name : String) (arguments : List Datum) : Running Datum :=
  match arguments with
  | [d] => return d
  | _ =>
    wrongType (name ++ "() takes exactly one argument (" ++ toString arguments.length ++ " given)")

/-- Checks for a number of arguments between two bounds. -/
def between (name : String) (least most : Nat) (given : Nat) : Running Unit :=
  if least ≤ given ∧ given ≤ most then pure ()
  else
    let bound := if given < least then least else most
    let how := if least = most then "" else if given < least then "at least " else "at most "
    wrongType (name ++ " expected " ++ how ++ counted bound ++ ", got " ++ toString given)

/-- Checks for at most a number of arguments. -/
def atMost (name : String) (most : Nat) (given : Nat) : Running Unit :=
  if given ≤ most then pure ()
  else wrongType (name ++ "() takes at most " ++ counted most ++ " (" ++ toString given
    ++ " given)")

/-- The argument that is given by position or by name. -/
def named? (arguments : List Datum) (keywords : List (String × Datum)) (i : Nat) (name : String) :
    Option Datum :=
  arguments[i]?.or (contentAt? keywords name)

/-- Refuses named arguments that are not among the given ones. -/
def onlyKeywords (name : String) (allowed : List String) (keywords : List (String × Datum)) :
    Running Unit :=
  match keywords.find? (·.1 ∉ allowed) with
  | some (key, _) =>
    wrongType ("'" ++ key ++ "' is an invalid keyword argument for " ++ name ++ "()")
  | none => pure ()

/-- Refuses a call without an argument at a place. -/
def required {α : Type} (name parameter : String) (position : Nat) : Option α → Running α
  | some d => return d
  | none =>
    wrongType (name ++ "() missing required argument '" ++ parameter ++ "' (pos "
      ++ toString position ++ ")")

/-- The integer that an argument is. -/
def index (d : Datum) : Running Int :=
  match integral? d with
  | some n => return n
  | none => do
    if d == .unknown then return 0
    wrongType ("'" ++ (← kindOf d) ++ "' object cannot be interpreted as an integer")

end Call

end RecordForge.Running

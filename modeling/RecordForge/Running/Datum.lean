import RecordForge.Entries
import RecordForge.Source.Tree

/-!
# What a source works with when it is run

Values are numbers, texts and the like, or things that have a place of their own in the world of a
run: two values with the same place are the same thing, and change together. A run ends early with
an error, or with a way out of a loop or of a function.
-/

namespace RecordForge.Running

open Source

/-- A value. -/
inductive Datum where
  | none
  | ellipsis
  | notImplemented
  | bool (b : Bool)
  | int (n : Int)
  | float (x : Binary64)
  /-- A complex number, of which no more is said. -/
  | complex
  | text (s : String)
  | bytes (codes : List UInt8)
  | tuple (items : List Datum)
  | range (first last step : Int)
  | slice (first last step : Datum)
  /-- A function of the language. -/
  | builtin (name : String)
  /-- A type of the language or of the module for records. -/
  | type (name : String)
  /-- An operation of a value or of a type. -/
  | operation (owner : Datum) (name : String)
  /-- A function with the object that it is called on. -/
  | bound (receiver function : Datum)
  | module (path : String)
  /-- An error of a type of the language. -/
  | error (type : String) (arguments : List Datum)
  /-- A thing, by its place. -/
  | object (place : Nat)
  /-- A value of which nothing is known. -/
  | unknown
deriving BEq, Repr, Inhabited

/-- What a function does. -/
inductive Body where
  | value (e : Expr)
  | statements (ss : List Stmt)

/-- A function that a source defines. -/
structure Closure where
  name : String
  /-- The name with those of the scopes around. -/
  qualified : String
  parameters : Parameters
  /-- The default values of parameters. -/
  defaults : List (String × Datum)
  body : Body
  /-- The places of the frames around, the innermost first. -/
  frames : List Nat
  /-- The names that belong to the function itself. -/
  own : List String
  /-- The names that belong to the source. -/
  outer : List String
  /-- The type that private names belong to. -/
  owner : Option String
  waits : Bool := false
  yields : Bool := false

/-- A type that a source defines. -/
structure TypeBody where
  name : String
  bases : List Datum
  /-- The type itself and the types that it builds on, in the order in which names are looked up. -/
  chain : List Datum
  names : List (String × Datum)

/-- The names of a scope that is being run. -/
structure Frame where
  /-- The names that belong to the frame, bound or not. -/
  own : List String := []
  names : List (String × Datum) := []

/-- What stands at a place. -/
inductive Thing where
  | list (items : List Datum)
  | set (items : List Datum) (frozen : Bool)
  | dict (entries : List (Datum × Datum))
  | function (f : Closure)
  | type (t : TypeBody)
  /-- An object of a type; an error has arguments. -/
  | made (type : Datum) (names : List (String × Datum)) (arguments : List Datum)
  | frame (f : Frame)
  /-- Values that are given out one by one. -/
  | iterator (kind : String) (rest : List Datum)
  /-- Values that are worked out when they are asked for. -/
  | generator (frames : List Nat) (owner : Option String) (element : Expr) (clauses : List Clause)
      (source : List Datum)
  /-- A function that is called in a way of its own. -/
  | wrapped (kind : String) (function : Datum)

/-- Why a run ends early. -/
inductive Stop where
  | raised (error : Datum)
  | leave
  | next
  | result (value : Datum)

/-- The state of a run. -/
structure World where
  things : Array Thing := #[]
  /-- The errors that are being dealt with, the last one first. -/
  handled : List Datum := []
  /-- The number of calls within each other. -/
  depth : Nat := 0
  /-- Whether the types that are declared are worked out. -/
  declares : Bool := true

end RecordForge.Running

namespace RecordForge

/-- A computation that changes a world and may end early. -/
abbrev Running := ExceptT Running.Stop (StateM Running.World)

namespace Running

/-- Raises an error. -/
def raise {α : Type} (error : Datum) : Running α :=
  throw (.raised error)

/-- Raises an error of a type of the language. -/
def fail {α : Type} (type message : String) : Running α :=
  raise (.error type [.text message])

/-- Raises the error about a value of a wrong type. -/
def wrongType {α : Type} (message : String) : Running α :=
  fail "TypeError" message

/-- Raises the error about a wrong value. -/
def wrongValue {α : Type} (message : String) : Running α :=
  fail "ValueError" message

/-- Puts a thing into the world. -/
def place (t : Thing) : Running Datum := do
  let world ← get
  set { world with things := world.things.push t }
  return .object world.things.size

/-- The thing at a place. -/
def thing (place : Nat) : Running Thing := do
  return (← get).things.getD place (.iterator "" [])

/-- Changes the thing at a place. -/
def replace (place : Nat) (t : Thing) : Running Unit :=
  modify fun world => { world with things := world.things.setIfInBounds place t }

/-- A new list. -/
def newList (items : List Datum) : Running Datum :=
  place (.list items)

/-- A new iterator. -/
def newIterator (kind : String) (items : List Datum) : Running Datum :=
  place (.iterator kind items)

/-- Opens a frame, and gives its place. -/
def openFrame (f : Frame) : Running Nat := do
  let new := (← get).things.size
  let _ ← place (.frame f)
  return new

/-- The frame at a place. -/
def frame (place : Nat) : Running Frame := do
  match ← thing place with
  | .frame f => return f
  | _ => return {}

end Running

end RecordForge

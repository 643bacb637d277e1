import RecordForge.Entries
import RecordForge.Number.Binary64

/-!
# Dynamic values

What a column annotation, a version marker or a stored field may hold: a scalar, a list, or a
dictionary with text keys in insertion order.
-/

namespace RecordForge

/-- A dynamic value. -/
inductive Value where
  | null
  | bool (b : Bool)
  | int (n : Int)
  | float (x : Binary64)
  | text (s : String)
  | list (items : List Value)
  | dict (entries : List (String × Value))
deriving Inhabited, Repr

namespace Value

/-- A dictionary from entries in which a later one replaces the content of an earlier one. -/
def ofEntries (entries : List (String × Value)) : Value :=
  .dict (putEntries [] entries)

/-- A text that may be absent. -/
def ofText? : Option String → Value
  | some s => .text s
  | none => .null

/-- The name of the kind of a value. -/
def kindName : Value → String
  | .null => "NoneType"
  | .bool _ => "bool"
  | .int _ => "int"
  | .float _ => "float"
  | .text _ => "str"
  | .list _ => "list"
  | .dict _ => "dict"

/-- The truth of a value: false for the empty, zero and null ones. -/
def truth : Value → Bool
  | .null => false
  | .bool b => b
  | .int n => n ≠ 0
  | .float x => !x.isZero
  | .text s => s ≠ ""
  | .list items => !items.isEmpty
  | .dict entries => !entries.isEmpty

/-- The value as an integer that is not a truth value and is at least one. -/
def positive? : Value → Option Int
  | .int n => if 1 ≤ n then some n else none
  | _ => none

end Value

end RecordForge

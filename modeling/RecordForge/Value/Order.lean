import RecordForge.Value.Equality
import RecordForge.Value.Text

/-!
# Keys and their order

A value can be the key of an entry unless it is a container, which has no hash. Keys are ordered
only among numbers and among texts: numbers by value, where truth values count as zero and one and
not-a-number is below nothing, and texts by their characters.
-/

namespace RecordForge

/-- Why values cannot be keys in order. -/
inductive KeyError where
  /-- Values of this kind have no hash. -/
  | unhashable (kind : String)
  /-- Values of the two kinds have no order. -/
  | incomparable (left right : String)
  /-- A value whose text is the key has no text. -/
  | unwritable
deriving DecidableEq, Repr, Inhabited

/-- The wording of the error. -/
def KeyError.message : KeyError → String
  | .unhashable kind => "unhashable type: '" ++ kind ++ "'"
  | .incomparable left right =>
    "'<' not supported between instances of '" ++ left ++ "' and '" ++ right ++ "'"
  | .unwritable => Unwritable.message {}

namespace Value

/-- Fails if the value is a container. -/
def checkKey : Value → Except KeyError Unit
  | .list items => .error (.unhashable (Value.list items).kindName)
  | .dict entries => .error (.unhashable (Value.dict entries).kindName)
  | _ => .ok ()

/-- The text of a value as a key in its place, if it has one. -/
def keyText (v : Value) : Except KeyError String :=
  if v.isWritable then .ok v.plain else .error .unwritable

/-- Whether a key is below another one. -/
def less (a b : Value) : Except KeyError Bool :=
  match a.integral?, b.integral? with
  | some m, some n => .ok (m < n)
  | some m, none => match b with
    | .float y => .ok (y.exceedsInt m)
    | b => .error (.incomparable a.kindName b.kindName)
  | none, some n => match a with
    | .float x => .ok (x.belowInt n)
    | a => .error (.incomparable a.kindName b.kindName)
  | none, none => match a, b with
    | .float x, .float y => .ok (x.below y)
    | .text s, .text t => .ok (s < t)
    | a, b => .error (.incomparable a.kindName b.kindName)

end Value

end RecordForge

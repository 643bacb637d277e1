import RecordForge.Value.Basic

/-!
# Equality of values

Truth values are the integers zero and one, an integer equals a floating-point number of the same
value, not-a-number equals nothing, lists are compared item by item, and dictionaries by their
entries in any order.
-/

namespace RecordForge.Value

/-- The integer that a truth value or integer stands for. -/
def integral? : Value → Option Int
  | .bool b => some (if b then 1 else 0)
  | .int n => some n
  | _ => none

/-- Equality of two values that are not containers. -/
def equalsScalar (a b : Value) : Bool :=
  match a.integral?, b.integral? with
  | some m, some n => m = n
  | some m, none => match b with
    | .float y => y.equalsInt m
    | _ => false
  | none, some n => match a with
    | .float x => x.equalsInt n
    | _ => false
  | none, none => match a, b with
    | .null, .null => true
    | .float x, .float y => x.equals y
    | .text s, .text t => s = t
    | _, _ => false

mutual

/-- Equality of values. -/
def equals : Value → Value → Bool
  | .list xs, b => match b with
    | .list ys => equalItems xs ys
    | _ => false
  | .dict xs, b => match b with
    | .dict ys => xs.length = ys.length && equalEntries xs ys
    | _ => false
  | .null, b => equalsScalar .null b
  | .bool x, b => equalsScalar (.bool x) b
  | .int n, b => equalsScalar (.int n) b
  | .float x, b => equalsScalar (.float x) b
  | .text s, b => equalsScalar (.text s) b

/-- Equality of lists, item by item. -/
def equalItems : List Value → List Value → Bool
  | [], ys => ys.isEmpty
  | x :: xs, ys => match ys with
    | [] => false
    | y :: rest => x.equals y && equalItems xs rest

/-- Whether each entry has an equal one under its key. -/
def equalEntries : List (String × Value) → List (String × Value) → Bool
  | [], _ => true
  | (k, x) :: xs, ys =>
    (match contentAt? ys k with
      | some y => x.equals y
      | none => false) && equalEntries xs ys

end

/-- Whether the value is the integer `n`. -/
def equalsInt (v : Value) (n : Int) : Bool :=
  v.equals (.int n)

end RecordForge.Value

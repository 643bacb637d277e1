import RecordForge.Running.Kind

/-!
# Truth, equality and order of values

Numbers of all types are compared by what they are worth, and collections item by item. Things can
hold themselves, so collections are compared to a certain depth.
-/

namespace RecordForge.Running

/-- The number of items of a range. -/
def rangeSize (first last step : Int) : Nat :=
  if step > 0 then ((last - first + step - 1) / step).toNat
  else if step < 0 then ((first - last - step - 1) / (-step)).toNat
  else 0

/-- Whether a value counts as true. -/
def truth : Datum → Running Bool
  | .none => return false
  | .bool b => return b
  | .int n => return n ≠ 0
  | .float x => return !x.isZero
  | .text s => return s ≠ ""
  | .bytes codes => return !codes.isEmpty
  | .tuple items => return !items.isEmpty
  | .range first last step => return rangeSize first last step ≠ 0
  | .object place => do
    match ← thing place with
    | .list items | .set items _ => return !items.isEmpty
    | .dict entries => return !entries.isEmpty
    | _ => return true
  | _ => return true

/-- The integer that a whole number or a truth value is. -/
def integral? : Datum → Option Int
  | .bool b => some (if b then 1 else 0)
  | .int n => some n
  | _ => none

/-- The order of two texts, or of two lists of codes. -/
def textOrder [BEq α] (less : α → α → Bool) : List α → List α → Ordering
  | [], [] => .eq
  | [], _ => .lt
  | _, [] => .gt
  | a :: as, b :: bs => if a == b then textOrder less as bs else if less a b then .lt else .gt

/-- The order of two numbers; not-a-number has none. -/
def numberOrder? : Datum → Datum → Option (Option Ordering)
  | .float x, .float y =>
    some (if x.equals y then some .eq else if x.below y then some .lt
      else if y.below x then some .gt else none)
  | .float x, d => (integral? d).map fun n =>
    if x.equalsInt n then some .eq else if x.belowInt n then some .lt
    else if x.exceedsInt n then some .gt else none
  | d, .float x => (integral? d).map fun n =>
    if x.equalsInt n then some .eq else if x.belowInt n then some .gt
    else if x.exceedsInt n then some .lt else none
  | a, b => do
    let m ← integral? a
    let n ← integral? b
    return some (compare m n)

/-- The depth to which collections are compared. -/
def compareDepth : Nat := 50

/-- Whether two values are equal. -/
def equalWithin : (depth : Nat) → Datum → Datum → Running Bool
  | 0, _, _ => return false
  | n + 1, a, b => do
    let same := fun (as bs : List Datum) => do
      if as.length ≠ bs.length then return false
      (as.zip bs).allM fun (a, b) => equalWithin n a b
    let isIn := fun (items : List Datum) (d : Datum) => items.anyM (equalWithin n d)
    match numberOrder? a b with
    | some order => return order = some .eq
    | none =>
      match a, b with
      | .tuple as, .tuple bs => same as bs
      | .object p, .object q =>
        if p = q then return true
        match ← thing p, ← thing q with
        | .list as, .list bs => same as bs
        | .set as _, .set bs _ =>
          return as.length = bs.length && (← as.allM (isIn bs))
        | .dict as, .dict bs =>
          if as.length ≠ bs.length then return false
          as.allM fun (key, value) => bs.anyM fun (k, v) => do
            return (← equalWithin n key k) && (← equalWithin n value v)
        | _, _ => return false
      | a, b => return a == b

/-- Whether two values are equal. -/
def equal (a b : Datum) : Running Bool :=
  equalWithin compareDepth a b

/-- Whether some item equals a value. -/
def isAmong (items : List Datum) (d : Datum) : Running Bool :=
  items.anyM (equal d)

/-- Checks that a value can be looked up. -/
def checkHashable : (depth : Nat) → Datum → Running Unit
  | 0, _ => pure ()
  | n + 1, d =>
    match d with
    | .tuple items => items.forM (checkHashable n)
    | .slice .. => wrongType "unhashable type: 'slice'"
    | .object place => do
      match ← thing place with
      | .list _ | .dict _ | .set _ false | .frame _ =>
        wrongType ("unhashable type: '" ++ (← kindOf d) ++ "'")
      | _ => pure ()
    | _ => pure ()

/-- Checks that a value can be a key. -/
def checkKey (d : Datum) : Running Unit :=
  checkHashable compareDepth d

/-- Checks values and drops those that occur a second time. -/
def distinct (items : List Datum) : Running (List Datum) := do
  items.foldlM (fun found d => do
    checkKey d
    return if ← isAmong found d then found else found ++ [d]) []

/-- Puts an entry into a dictionary. -/
def putKey (key value : Datum) : List (Datum × Datum) → Running (List (Datum × Datum))
  | [] => return [(key, value)]
  | (k, v) :: rest => do
    if ← equal key k then return (k, value) :: rest
    return (k, v) :: (← putKey key value rest)

/-- The value of a key. -/
def keyed? (entries : List (Datum × Datum)) (key : Datum) : Running (Option Datum) := do
  return (← entries.findM? fun (k, _) => equal key k).map Prod.snd

/-- The order of two values, if they have one. `sign` is the comparison that asks for it. -/
def orderWithin (sign : String) : (depth : Nat) → Datum → Datum → Running (Option Ordering)
  | 0, _, _ => return none
  | n + 1, a, b => do
    let refuse : Running (Option Ordering) := do
      wrongType ("'" ++ sign ++ "' not supported between instances of '" ++ (← kindOf a)
        ++ "' and '" ++ (← kindOf b) ++ "'")
    let rec sequences : List Datum → List Datum → Running (Option Ordering)
      | [], [] => return some .eq
      | [], _ => return some .lt
      | _, [] => return some .gt
      | x :: xs, y :: ys => do
        if ← equal x y then sequences xs ys else orderWithin sign n x y
    match numberOrder? a b with
    | some order => return order
    | none =>
      match a, b with
      | .unknown, _ | _, .unknown => return some .lt
      | .text s, .text t => return some (textOrder (fun a b => a < b) s.toList t.toList)
      | .bytes s, .bytes t => return some (textOrder (fun a b => a < b) s t)
      | .tuple as, .tuple bs => sequences as bs
      | .object p, .object q =>
        match ← thing p, ← thing q with
        | .list as, .list bs => sequences as bs
        | .set as _, .set bs _ =>
          let below ← as.allM (isAmong bs)
          let above ← bs.allM (isAmong as)
          return if below && above then some .eq else if below then some .lt
            else if above then some .gt else none
        | _, _ => refuse
      | _, _ => refuse

/-- The order of two values, if they have one. -/
def order (sign : String) (a b : Datum) : Running (Option Ordering) :=
  orderWithin sign compareDepth a b

/-- Values in ascending order; equal ones stay in their order. -/
def sorted (items : List (Datum × Datum)) : Running (List (Datum × Datum)) := do
  let rec insert (x : Datum × Datum) :
      List (Datum × Datum) → Running (List (Datum × Datum))
    | [] => return [x]
    | y :: rest => do
      if (← order "<" x.1 y.1) = some .lt then return x :: y :: rest
      return y :: (← insert x rest)
  items.foldlM (fun done x => insert x done) []

end RecordForge.Running

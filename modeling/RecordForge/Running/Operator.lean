import RecordForge.Number.Arithmetic
import RecordForge.Running.Compare

/-!
# Operators

What the operators of the language make of values. An operator that makes nothing of two values says
so with the types of both; texts and lists have wordings of their own.
-/

namespace RecordForge.Running

open Source

/-- The sign of an operator. -/
def signOf : BinaryOp → String
  | .add => "+"
  | .subtract => "-"
  | .multiply => "*"
  | .matrixMultiply => "@"
  | .divide => "/"
  | .floorDivide => "//"
  | .modulo => "%"
  | .power => "**"
  | .shiftLeft => "<<"
  | .shiftRight => ">>"
  | .bitAnd => "&"
  | .bitOr => "|"
  | .bitXor => "^"

/-- Raises the error about values that an operator makes nothing of. -/
def unsupported {α : Type} (sign : String) (a b : Datum) : Running α := do
  wrongType ("unsupported operand type(s) for " ++ sign ++ ": '" ++ (← kindOf a) ++ "' and '"
    ++ (← kindOf b) ++ "'")

/-- Raises the error about a division by zero. -/
def zeroDivision {α : Type} (message : String) : Running α :=
  fail "ZeroDivisionError" message

/-! ## Numbers -/

/-- The largest number of binary digits that a number is worked out to. -/
def maxDigits : Nat := 20000

/-- The bits of two integers, combined. -/
def bitwise (onNat : Nat → Nat → Nat) (onBool : Bool → Bool → Bool) (m n : Int) : Int :=
  let bits := fun (i : Int) => if i < 0 then (-i - 1).toNat else i.toNat
  let width := max (Nat.log2 (bits m)) (Nat.log2 (bits n)) + 1
  let all := Nat.pow 2 width - 1
  let word := fun (i : Int) => if i < 0 then all - bits i else bits i
  let r := onNat (word m) (word n)
  if onBool (m < 0) (n < 0) then (r : Int) - Nat.pow 2 width else r

/-- What an operator makes of two integers. -/
def onIntegers (op : BinaryOp) (m n : Int) : Running Datum :=
  let divisible (message : String) (d : Datum) : Running Datum :=
    if n = 0 then zeroDivision message else return d
  match op with
  | .add => return .int (m + n)
  | .subtract => return .int (m - n)
  | .multiply => return .int (m * n)
  | .matrixMultiply => unsupported "@" (.int m) (.int n)
  | .divide => do
    if n = 0 then zeroDivision "division by zero"
    match Binary64.ofRatio ((m < 0) != decide (n < 0)) m.natAbs n.natAbs with
    | .infinite _ => fail "OverflowError" "integer division result too large for a float"
    | x => return .float x
  | .floorDivide => divisible "integer division or modulo by zero" (.int (m.fdiv n))
  | .modulo => divisible "integer modulo by zero" (.int (m.fmod n))
  | .power =>
    if n < 0 then
      if m = 0 then zeroDivision "0.0 cannot be raised to a negative power"
      else return .float ((Binary64.ofInt 1).divide ((Binary64.ofInt m).power n.natAbs))
    else if m.natAbs ≤ 1 ∨ (Nat.log2 m.natAbs + 1) * n.toNat ≤ maxDigits then
      let times := if m.natAbs ≤ 1 then (if n = 0 then 0 else 2 - n.toNat % 2) else n.toNat
      return .int (Int.pow m times)
    else return .unknown
  | .shiftLeft =>
    if n < 0 then wrongValue "negative shift count"
    else if n.toNat ≤ maxDigits then return .int (m * (Nat.pow 2 n.toNat : Nat))
    else return .unknown
  | .shiftRight =>
    if n < 0 then wrongValue "negative shift count"
    else return .int (m.fdiv (Nat.pow 2 (min n.toNat maxDigits) : Nat))
  | .bitAnd => return .int (bitwise Nat.land (· && ·) m n)
  | .bitOr => return .int (bitwise Nat.lor (· || ·) m n)
  | .bitXor => return .int (bitwise Nat.xor (· != ·) m n)

/-- Whether a value is a number that is not complex. -/
def isReal (d : Datum) : Bool :=
  (integral? d).isSome || d matches .float _

/-- The floating-point number that a number is. -/
def realOf : Datum → Running Binary64
  | .float x => return x
  | d =>
    match Binary64.ofInt ((integral? d).getD 0) with
    | .infinite _ => fail "OverflowError" "int too large to convert to float"
    | x => return x

/-- What an operator makes of two numbers of which one is no integer. -/
def onReals (sign : String) (op : BinaryOp) (a b : Datum) (x y : Binary64) : Running Datum :=
  let divisible (message : String) (d : Datum) : Running Datum :=
    if y.isZero then zeroDivision message else return d
  match op with
  | .add => return .float (x.add y)
  | .subtract => return .float (x.add y.negate)
  | .multiply => return .float (x.multiply y)
  | .divide => divisible "float division by zero" (.float (x.divide y))
  | .floorDivide =>
    divisible "float floor division by zero"
      (((x.floorQuotient? y).map fun n => Datum.float (.ofInt n)).getD .unknown)
  | .modulo =>
    divisible "float modulo"
      (((x.floorQuotient? y).map fun n =>
        Datum.float (x.add ((Binary64.ofInt n).multiply y).negate)).getD .unknown)
  | .power =>
    if x.isZero && y.isNegative && !y.isZero then
      zeroDivision "0.0 cannot be raised to a negative power"
    else
      match y.truncate? with
      | some n =>
        if y.equalsInt n && n.natAbs ≤ 1000 then
          let p := x.power n.natAbs
          return .float (if n < 0 then (Binary64.ofInt 1).divide p else p)
        else return .unknown
      | none => return .unknown
  | _ => unsupported sign a b

/-! ## Collections -/

/-- The largest number of items that a collection is worked out to. -/
def maxItems : Nat := 100000

/-- A list, repeated. -/
def repeatedItems {α : Type} (n : Int) (items : List α) : Option (List α) :=
  if items.length * n.toNat ≤ maxItems then some (List.replicate n.toNat items).flatten else none

/-- A collection with items in an order, repeated. -/
def repeatDatum (d : Datum) (n : Int) : Running Datum :=
  match d with
  | .text s =>
    return ((repeatedItems n s.toList).map fun cs => Datum.text (String.ofList cs)).getD .unknown
  | .bytes codes => return ((repeatedItems n codes).map Datum.bytes).getD .unknown
  | .tuple items => return ((repeatedItems n items).map Datum.tuple).getD .unknown
  | .object place => do
    match ← thing place with
    | .list items =>
      match repeatedItems n items with
      | some items => newList items
      | none => return .unknown
    | _ => return .unknown
  | _ => return .unknown

/-- Whether a value is a collection with items in an order. -/
def isSequence : Datum → Running Bool
  | .text _ | .bytes _ | .tuple _ => return true
  | .object place => do
    match ← thing place with
    | .list _ => return true
    | _ => return false
  | _ => return false

/-- What an operator makes of two sets. -/
def onSets (op : BinaryOp) (as bs : List Datum) : Running (Option (List Datum)) := do
  let without := fun (as bs : List Datum) => as.filterM fun a => do return !(← isAmong bs a)
  match op with
  | .subtract => return some (← without as bs)
  | .bitAnd => return some (← as.filterM (isAmong bs))
  | .bitOr => return some (as ++ (← without bs as))
  | .bitXor => return some ((← without as bs) ++ (← without bs as))
  | _ => return none

/-- Whether a value can stand for a type in a choice of types. -/
def isTypeChoice : Datum → Running Bool
  | .none => return true
  | d => isType d

/-- Puts a collection behind another one, or says why that cannot be done. -/
def concatenate (sign : String) (a b : Datum) : Running Datum := do
  let only := fun kind => do
    wrongType ("can only concatenate " ++ kind ++ " (not \"" ++ (← kindOf b) ++ "\") to " ++ kind)
  match a, b with
  | .text s, .text t => return .text (s ++ t)
  | .text _, _ => only "str"
  | .bytes s, .bytes t => return .bytes (s ++ t)
  | .bytes _, _ => wrongType ("can't concat " ++ (← kindOf b) ++ " to bytes")
  | .tuple as, .tuple bs => return .tuple (as ++ bs)
  | .tuple _, _ => only "tuple"
  | .object p, b =>
    match ← thing p with
    | .list as =>
      match b with
      | .object q =>
        match ← thing q with
        | .list bs => newList (as ++ bs)
        | _ => only "list"
      | _ => only "list"
    | _ => unsupported sign a b
  | a, b => unsupported sign a b

/-- Whether a value is an object of a type that a source defines, of whose operators nothing is
said. -/
def isOpen : Datum → Running Bool
  | .unknown => return true
  | .object place => do
    match ← thing place with
    | .made (.object type) _ _ =>
      match ← thing type with
      | .type t => return t.names.any fun (name, _) => name.startsWith "__" && name ≠ "__init__"
          && name ≠ "__module__" && name ≠ "__qualname__" && name ≠ "__doc__"
      | _ => return true
    | _ => return false
  | _ => return false

/-- What an operator makes of two values that are not both numbers. -/
def onOthers (sign : String) (op : BinaryOp) (a b : Datum) : Running Datum := do
  if a == .complex || b == .complex then
    if isReal a || isReal b || a == b then return .complex
  match op with
  | .add => concatenate sign a b
  | .multiply =>
    let times := fun (items count : Datum) => do
      match integral? count with
      | some n => repeatDatum items n
      | none => wrongType ("can't multiply sequence by non-int of type '" ++ (← kindOf count) ++ "'")
    if ← isSequence a then times a b
    else if ← isSequence b then times b a
    else unsupported sign a b
  | .bitOr | .bitAnd | .bitXor | .subtract =>
    if op = .bitOr && (← isTypeChoice a) && (← isTypeChoice b)
        && ((← isType a) || (← isType b)) then return .unknown
    match a, b with
    | .object p, .object q =>
      match ← thing p, ← thing q with
      | .set as frozen, .set bs _ =>
        match ← onSets op as bs with
        | some items => place (.set items frozen)
        | none => unsupported sign a b
      | .dict as, .dict bs =>
        if op ≠ .bitOr then unsupported sign a b
        place (.dict (← bs.foldlM (fun found (k, v) => putKey k v found) as))
      | _, _ => unsupported sign a b
    | _, _ => unsupported sign a b
  | .power => unsupported (if sign = "**" then "** or pow()" else sign) a b
  | _ => unsupported sign a b

/-- What an operator makes of two values. -/
def operate (sign : String) (op : BinaryOp) (a b : Datum) : Running Datum := do
  if (← isOpen a) || (← isOpen b) then return .unknown
  match a, b with
  | .bool x, .bool y =>
    match op with
    | .bitAnd => return .bool (x && y)
    | .bitOr => return .bool (x || y)
    | .bitXor => return .bool (x != y)
    | _ => pure ()
  | _, _ => pure ()
  match integral? a, integral? b with
  | some m, some n =>
    if op = .matrixMultiply then unsupported sign a b
    onIntegers op m n
  | _, _ =>
    if isReal a && isReal b then onReals sign op a b (← realOf a) (← realOf b)
    else onOthers sign op a b

/-- What an operator with one operand makes of a value. -/
def operateUnary (op : UnaryOp) (d : Datum) : Running Datum := do
  let refuse := fun sign => do
    if ← isOpen d then return Datum.unknown
    wrongType ("bad operand type for unary " ++ sign ++ ": '" ++ (← kindOf d) ++ "'")
  match op with
  | .not => return .bool !(← truth d)
  | .plus =>
    match d, integral? d with
    | .float x, _ => return .float x
    | .complex, _ => return .complex
    | _, some n => return .int n
    | _, none => refuse "+"
  | .minus =>
    match d, integral? d with
    | .float x, _ => return .float x.negate
    | .complex, _ => return .complex
    | _, some n => return .int (-n)
    | _, none => refuse "-"
  | .invert =>
    match integral? d with
    | some n => return .int (-n - 1)
    | none => refuse "~"

end RecordForge.Running

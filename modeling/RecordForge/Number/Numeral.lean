import RecordForge.Number.Shortest
import RecordForge.Text.Blank
import RecordForge.Text.DecimalDigit

/-!
# Numerals

Reading integers and floating-point numbers from text, and writing floating-point numbers. A numeral
may be surrounded by blanks, carry one sign, use the decimal digits of any script, and group its
digits with single underscores. An integer numeral has at most 4300 digits. A floating-point numeral
is a decimal with an optional exponent, or a name of infinity or of not-a-number in any case.
-/

namespace RecordForge.Numeral

open RecordForge.Text

/-- The most digits that an integer numeral may have, zeros in front included. -/
def maxIntegerDigits : Nat := 4300

/-- The first number with more than so many digits. -/
def firstBeyond (digits : Nat) : Nat := Nat.pow 10 digits

/-! ## Reading -/

/-- Writes every decimal digit as its ASCII form. -/
def asciiDigit (c : Char) : Char :=
  match decimalDigit? c with
  | some d => Nat.digitChar d
  | none => c

/-- Removes underscores, each of which must stand between two digits. -/
def ungroup (before : Char) : List Char → Option (List Char)
  | [] => if before = '_' then none else some []
  | c :: rest =>
    if c = '_' then
      if before.isDigit then ungroup c rest else none
    else if before = '_' && !c.isDigit then none
    else (ungroup c rest).map (c :: ·)

/-- The characters of a numeral: without blanks around it, with ASCII digits and no underscores. -/
def prepare (cs : List Char) : Option (List Char) :=
  ungroup ' ' ((strip isNumeralBlank cs).map asciiDigit)

/-- A sign in front, and the rest. -/
def splitSign : List Char → Bool × List Char
  | '-' :: rest => (true, rest)
  | '+' :: rest => (false, rest)
  | cs => (false, cs)

/-- The number that a list of ASCII digits denotes. -/
def digitsValue (cs : List Char) : Nat :=
  cs.foldl (fun n c => 10 * n + (c.toNat - '0'.toNat)) 0

/-- The integer that a text denotes. -/
def integer? (s : String) : Option Int := do
  let (negative, digits) := splitSign (← prepare s.toList)
  if digits.isEmpty || !digits.all Char.isDigit || maxIntegerDigits < digits.length then none
  else
    let n : Int := digitsValue digits
    return if negative then -n else n

/-- The exponent part of a floating-point numeral; none at all stands for zero. -/
def exponent? : List Char → Option Int
  | [] => some 0
  | c :: rest =>
    if c = 'e' ∨ c = 'E' then
      let (negative, digits) := splitSign rest
      if digits.isEmpty || !digits.all Char.isDigit then none
      else
        let n : Int := digitsValue digits
        some (if negative then -n else n)
    else none

/-- A decimal with an optional point and exponent. -/
def decimal? (negative : Bool) (cs : List Char) : Option Binary64 := do
  let whole := cs.takeWhile Char.isDigit
  let rest := cs.dropWhile Char.isDigit
  let (fraction, rest) := match rest with
    | '.' :: r => (r.takeWhile Char.isDigit, r.dropWhile Char.isDigit)
    | r => ([], r)
  if whole.isEmpty && fraction.isEmpty then none
  else
    let e ← exponent? rest
    return Binary64.ofDecimal negative (digitsValue (whole ++ fraction)) (e - fraction.length)

/-- The floating-point number that a text denotes. -/
def float? (s : String) : Option Binary64 := do
  let (negative, cs) := splitSign (← prepare s.toList)
  let name := cs.map Char.toLower
  if name = "inf".toList ∨ name = "infinity".toList then return .infinite negative
  else if name = "nan".toList then return .nan
  else decimal? negative cs

/-! ## Writing -/

/-- The layout of a floating-point number: it is written with a point when the exponent of its first
digit is at least `fixedFrom` and below `fixedBelow`, and otherwise with an exponent of at least
`exponentWidth` digits. -/
structure FloatLayout where
  fixedFrom : Int
  fixedBelow : Int
  exponentWidth : Nat

/-- Numbers from `0.0001` up to below `10^16` are written with a point. -/
def standardLayout : FloatLayout := ⟨-4, 16, 2⟩

/-- Zeros in front up to the width. -/
def padded (width : Nat) (digits : String) : String :=
  String.ofList (List.replicate (width - digits.length) '0') ++ digits

/-- A decimal with a point, and at least one digit on each side of it. -/
def fixedText (d : Decimal) : String :=
  let digits := Nat.repr d.digits
  if 0 ≤ d.exponent then
    digits ++ String.ofList (List.replicate d.exponent.toNat '0') ++ ".0"
  else
    let places := (-d.exponent).toNat
    let all := (padded (places + 1) digits).toList
    String.ofList (all.take (all.length - places)) ++ "."
      ++ String.ofList (all.drop (all.length - places))

/-- A decimal with one digit in front of the point and an exponent with a sign. -/
def scientificText (layout : FloatLayout) (d : Decimal) : String :=
  let digits := (Nat.repr d.digits).toList
  let e : Int := d.exponent + digits.length - 1
  let mantissa := match digits with
    | [] => ""
    | [c] => String.ofList [c]
    | c :: rest => String.ofList (c :: '.' :: rest)
  mantissa ++ (if e < 0 then "e-" else "e+") ++ padded layout.exponentWidth (Nat.repr e.natAbs)

/-- A decimal in the layout. -/
def decimalText (layout : FloatLayout) (d : Decimal) : String :=
  let first : Int := d.exponent + (Nat.repr d.digits).length - 1
  if layout.fixedFrom ≤ first ∧ first < layout.fixedBelow then fixedText d
  else scientificText layout d

/-- The text of a floating-point number: the fewest digits that read back as the number. -/
def floatText : Binary64 → String
  | .nan => "nan"
  | .infinite negative => if negative then "-inf" else "inf"
  | .finite negative m e =>
    (if negative then "-" else "")
      ++ (if m = 0 then "0.0" else decimalText standardLayout (Binary64.shortest m e))

end RecordForge.Numeral

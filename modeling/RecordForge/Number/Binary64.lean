/-!
# Binary floating-point numbers

Floating-point numbers with a 53-bit significand, held exactly: a finite number is
`significand · 2^exponent` with a sign, so that every comparison and conversion is integer
arithmetic. `ofRatio` rounds a quotient to the nearest number, ties to the even significand, with
gradual underflow below `2^(-1022)` and an infinity from the midpoint above the largest number on.
-/

namespace RecordForge

/-- A floating-point number. A finite one has the value `significand · 2^exponent`. -/
inductive Binary64 where
  | nan
  | infinite (negative : Bool)
  | finite (negative : Bool) (significand : Nat) (exponent : Int)
deriving DecidableEq, Repr, Inhabited

namespace Binary64

/-- The exponent of the smallest positive number. -/
def minExponent : Int := -1074

/-- The exponent of the largest finite numbers. -/
def maxExponent : Int := 971

/-- The bound of all significands, which have at most 53 bits. -/
def significandBound : Nat := Nat.pow 2 53

/-- Zero with a sign. -/
def zero (negative : Bool) : Binary64 :=
  .finite negative 0 minExponent

/-- `n · b^e` as a quotient of natural numbers. -/
def scaled (n b : Nat) (e : Int) : Nat × Nat :=
  (n * Nat.pow b e.toNat, Nat.pow b (-e).toNat)

/-- The quotient rounded to the nearest integer, ties to even. -/
def roundQuotient (num den : Nat) : Nat :=
  let q := num / den
  let r := num % den
  if 2 * r < den then q
  else if 2 * r = den then q + q % 2
  else q + 1

/-- The integer `k` with `2^k ≤ num / den < 2^(k+1)`, for positive operands. -/
def floorLog2 (num den : Nat) : Int :=
  let k : Int := (Nat.log2 num : Int) - Nat.log2 den
  let (d, s) := scaled den 2 k
  if num * s < d then k - 1 else k

/-- The number with the given significand and exponent, where a significand that reaches the bound
is carried into the exponent and an exponent above the range gives an infinity. -/
def carried (negative : Bool) (m : Nat) (e : Int) : Binary64 :=
  let (m, e) := if m = significandBound then (significandBound / 2, e + 1) else (m, e)
  if maxExponent < e then .infinite negative else .finite negative m e

/-- The number nearest to `num / den`. -/
def ofRatio (negative : Bool) (num den : Nat) : Binary64 :=
  if num = 0 then zero negative
  else
    let e := max (floorLog2 num den - 52) minExponent
    let (d, s) := scaled den 2 e
    carried negative (roundQuotient (num * s) d) e

/-- The number nearest to an integer. -/
def ofInt (n : Int) : Binary64 :=
  ofRatio (n < 0) n.natAbs 1

/-- The number nearest to `digits · 10^exponent`. Beyond the decimal range of the format the powers
of ten are not worked out. -/
def ofDecimal (negative : Bool) (digits : Nat) (exponent : Int) : Binary64 :=
  if digits = 0 then zero negative
  else
    let length : Int := (Nat.repr digits).length
    if 400 < length + exponent then .infinite negative
    else if length + exponent < -400 then zero negative
    else
      let (num, den) := scaled digits 10 exponent
      ofRatio negative num den

/-- The integer part of a finite number, rounded toward zero. -/
def truncate? : Binary64 → Option Int
  | .finite negative m e =>
    let (num, den) := scaled m 2 e
    some (if negative then -((num / den : Nat) : Int) else (num / den : Nat))
  | _ => none

/-- The significand with the sign. -/
def signed (negative : Bool) (m : Nat) : Int :=
  if negative then -(m : Int) else m

/-- Whether `m · 2^e` and `n · 2^f` are the same number. -/
def sameScaled (m : Int) (e : Int) (n : Int) (f : Int) : Bool :=
  m * (Nat.pow 2 (e - f).toNat : Nat) = n * (Nat.pow 2 (f - e).toNat : Nat)

/-- Numeric equality: not-a-number differs from everything, and the two zeros are equal. -/
def equals : Binary64 → Binary64 → Bool
  | .infinite s, .infinite t => s = t
  | .finite s m e, .finite t n f => sameScaled (signed s m) e (signed t n) f
  | _, _ => false

/-- Numeric equality with an integer. -/
def equalsInt : Binary64 → Int → Bool
  | .finite s m e, n => sameScaled (signed s m) e n 0
  | _, _ => false

/-- Whether `m · 2^e` is below `n · 2^f`. -/
def belowScaled (m : Int) (e : Int) (n : Int) (f : Int) : Bool :=
  m * (Nat.pow 2 (e - f).toNat : Nat) < n * (Nat.pow 2 (f - e).toNat : Nat)

/-- Numeric order: not-a-number is below nothing, and nothing is below it. -/
def below : Binary64 → Binary64 → Bool
  | .infinite s, .infinite t => s && !t
  | .infinite s, .finite _ _ _ => s
  | .finite _ _ _, .infinite t => !t
  | .finite s m e, .finite t n f => belowScaled (signed s m) e (signed t n) f
  | _, _ => false

/-- Whether the number is below an integer. -/
def belowInt : Binary64 → Int → Bool
  | .infinite s, _ => s
  | .finite s m e, n => belowScaled (signed s m) e n 0
  | .nan, _ => false

/-- Whether the number exceeds an integer. -/
def exceedsInt : Binary64 → Int → Bool
  | .infinite s, _ => !s
  | .finite s m e, n => belowScaled n 0 (signed s m) e
  | .nan, _ => false

/-- Whether the number is a zero. -/
def isZero : Binary64 → Bool
  | .finite _ m _ => m = 0
  | _ => false

end Binary64

end RecordForge

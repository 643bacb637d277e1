import RecordForge.Number.Binary64

/-!
# Arithmetic on binary floating-point numbers

Sums, products and quotients are worked out exactly and rounded once.
-/

namespace RecordForge.Binary64

/-- The number nearest to `m · 2^e`. -/
def ofScaled (m e : Int) : Binary64 :=
  let (num, den) := scaled m.natAbs 2 e
  ofRatio (m < 0) num den

/-- Whether a number has a sign in front. -/
def isNegative : Binary64 → Bool
  | .nan => false
  | .infinite negative => negative
  | .finite negative _ _ => negative

/-- The number with the other sign. -/
def negate : Binary64 → Binary64
  | .nan => .nan
  | .infinite negative => .infinite !negative
  | .finite negative m e => .finite (!negative) m e

/-- The sum of two numbers. -/
def add : Binary64 → Binary64 → Binary64
  | .finite s m e, .finite t n f =>
    if m = 0 ∧ n = 0 then zero (s && t)
    else
      let g := min e f
      ofScaled (signed s m * (Nat.pow 2 (e - g).toNat : Nat)
        + signed t n * (Nat.pow 2 (f - g).toNat : Nat)) g
  | .infinite s, .infinite t => if s = t then .infinite s else .nan
  | .infinite s, .finite .. | .finite .., .infinite s => .infinite s
  | _, _ => .nan

/-- The product of two numbers. -/
def multiply (a b : Binary64) : Binary64 :=
  let negative := a.isNegative != b.isNegative
  match a, b with
  | .finite _ m e, .finite _ n f =>
    let (num, den) := scaled (m * n) 2 (e + f)
    ofRatio negative num den
  | .nan, _ | _, .nan => .nan
  | x, y => if x.isZero || y.isZero then .nan else .infinite negative

/-- The quotient of two numbers, of which the second is not zero. -/
def divide (a b : Binary64) : Binary64 :=
  let negative := a.isNegative != b.isNegative
  match a, b with
  | .finite _ m e, .finite _ n f =>
    let (num, den) := scaled m 2 (e - f)
    ofRatio negative num (den * n)
  | .nan, _ | _, .nan => .nan
  | .infinite _, .infinite _ => .nan
  | .infinite _, _ => .infinite negative
  | _, .infinite _ => zero negative

/-- The quotient of two finite numbers, rounded down. -/
def floorQuotient? : Binary64 → Binary64 → Option Int
  | .finite s m e, .finite t n f =>
    let g := min e f
    some ((signed s m * (Nat.pow 2 (e - g).toNat : Nat)).fdiv
      (signed t n * (Nat.pow 2 (f - g).toNat : Nat)))
  | _, _ => none

/-- A number to the power of a natural number. -/
def power (x : Binary64) : Nat → Binary64
  | 0 => ofInt 1
  | n + 1 => (power x n).multiply x

end RecordForge.Binary64

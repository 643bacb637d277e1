import RecordForge.Number.Binary64

/-!
# Shortest decimals

The shortest decimal that reads back as a given floating-point number, and among those the nearest
to it. The reals that round to the number form an interval, closed when the significand is even; for
one digit, two digits and so on up to seventeen the two neighbours of the number on that decimal
grid are tested, and the first grid with a hit wins. Seventeen digits always hit.
-/

namespace RecordForge

/-- The decimal number `digits · 10^exponent`. -/
structure Decimal where
  digits : Nat
  exponent : Int
deriving DecidableEq, Repr, Inhabited

namespace Decimal

/-- Moves the zeros at the end of the digits into the exponent; `fuel` bounds their number. -/
def trimFrom : (fuel : Nat) → Decimal → Decimal
  | 0, d => d
  | fuel + 1, d =>
    if d.digits % 10 = 0 then trimFrom fuel ⟨d.digits / 10, d.exponent + 1⟩ else d

/-- The same decimal without zeros at the end of its digits. -/
def trim (d : Decimal) : Decimal :=
  if d.digits = 0 then d else trimFrom (Nat.repr d.digits).length d

end Decimal

namespace Binary64

/-- The `p` with `10^(p-1) ≤ num / den < 10^p`, for positive operands. -/
def decimalPoint (num den : Nat) : Int :=
  if den ≤ num then (Nat.repr (num / den)).length
  else
    let d := (Nat.repr (den / num)).length
    if num * Nat.pow 10 (d - 1) = den then 2 - (d : Int) else 1 - (d : Int)

/-- Whether `c · 10^k` rounds to `m · 2^e`. The lower half of the interval is half as wide when the
significand is the smallest of its binade. -/
def roundsTo (m : Nat) (e : Int) (c : Nat) (k : Int) : Bool :=
  let (cn, cd) := scaled c 10 k
  let below := if 2 * m = significandBound ∧ minExponent < e then 4 * m - 1 else 4 * m - 2
  let (ln, ld) := scaled below 2 (e - 2)
  let (hn, hd) := scaled (4 * m + 2) 2 (e - 2)
  if m % 2 = 0 then ln * cd ≤ cn * ld && cn * hd ≤ hn * cd
  else ln * cd < cn * ld && cn * hd < hn * cd

/-- The nearer of the two neighbours of `m · 2^e` on the grid of multiples of `10^k` that round to
it, if one does; of two that are equally near the even one. -/
def onGrid? (m : Nat) (e k : Int) : Option Decimal :=
  let (n, d) := scaled m 2 e
  let (t, s) := scaled 1 10 k
  let num := n * s
  let den := d * t
  let q := num / den
  let r := num % den
  let lower := roundsTo m e q k
  let upper := roundsTo m e (q + 1) k
  if lower && (!upper || 2 * r < den || (2 * r = den && q % 2 = 0)) then some ⟨q, k⟩
  else if upper then some ⟨q + 1, k⟩
  else none

/-- The shortest decimal that rounds to `m · 2^e`, for a positive significand. -/
def shortest (m : Nat) (e : Int) : Decimal :=
  let (n, d) := scaled m 2 e
  let p := decimalPoint n d
  let hit := (List.range 17).findSome? fun i => onGrid? m e (p - (i + 1 : Nat))
  (hit.getD ⟨0, 0⟩).trim

end Binary64

end RecordForge

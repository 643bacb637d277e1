import Mathlib.Tactic.Ring
import RecordForge.Number.Binary64

/-!
# Integers beyond the range of floating-point numbers

Rounding an integer gives an infinity exactly from the midpoint between the largest number and
`2^1024` on (`ofInt_infinite_iff`). The binade of the integer decides all cases but the uppermost
one, where the significand may be rounded up to its bound (`roundQuotient_eq_iff`).
-/

namespace RecordForge.Binary64

/-! ## Rounding -/

/-- The binade of a positive integer. -/
theorem floorLog2_one {n : Nat} (h : n ≠ 0) : floorLog2 n 1 = (Nat.log2 n : Int) := by
  have hle : Nat.pow 2 (Nat.log2 n) ≤ n := Nat.log2_self_le h
  have hk : ((Nat.log2 n : Int) - (Nat.log2 1 : Nat)) = (Nat.log2 n : Int) := by
    rw [show Nat.log2 1 = 0 from by decide]
    omega
  have hdown : (-(Nat.log2 n : Int)).toNat = 0 := by omega
  rw [floorLog2, hk]
  simp only [scaled, Int.toNat_natCast, hdown]
  have hone : Nat.pow 2 0 = 1 := rfl
  rw [if_neg]
  rw [hone]
  omega

/-- A quotient that is below an even number is rounded up to it exactly from the midpoint below it
on: of two neighbours at the same distance the even one counts. -/
theorem roundQuotient_eq_iff {n d m : Nat} (hd : 0 < d) (hm : m % 2 = 0) (hn : n < 2 * d * m) :
    roundQuotient n (2 * d) = m ↔ (2 * m - 1) * d ≤ n := by
  have hq : n / (2 * d) < m := Nat.div_lt_of_lt_mul hn
  have hr : n % (2 * d) < 2 * d := Nat.mod_lt _ (by omega)
  have hsplit : 2 * d * (n / (2 * d)) + n % (2 * d) = n := Nat.div_add_mod n (2 * d)
  rw [roundQuotient]
  generalize n / (2 * d) = q at *
  generalize n % (2 * d) = r at *
  obtain ⟨t, rfl⟩ : ∃ t, m = q + 1 + t := ⟨m - (q + 1), by omega⟩
  have hbound : (2 * (q + 1 + t) - 1) * d = 2 * d * q + d + 2 * (t * d) := by
    rw [show 2 * (q + 1 + t) - 1 = 2 * q + 1 + 2 * t from by omega]
    ring
  rw [hbound, ← hsplit]
  rcases Nat.eq_zero_or_pos t with rfl | ht
  · -- Below the next integer, which is even, the remainder decides.
    have hodd : q % 2 = 1 := by omega
    split
    next hlt => omega
    next hge =>
      split
      next htie => omega
      next habove => omega
  · have htd : d ≤ t * d := Nat.le_mul_of_pos_left d ht
    split
    next hlt => omega
    next hge =>
      split
      next htie => omega
      next habove => omega

/-- A number is an infinity once its exponent is above the range, be it by carrying. -/
theorem carried_infinite_iff {negative : Bool} {m : Nat} {e : Int} :
    (∃ s, carried negative m e = .infinite s)
      ↔ maxExponent < e ∨ m = significandBound ∧ maxExponent ≤ e := by
  rw [carried]
  by_cases hm : m = significandBound
  · simp only [if_pos hm]
    by_cases he : maxExponent < e + 1
    · simp only [if_pos he]
      exact ⟨fun _ => Or.inr ⟨hm, by omega⟩, fun _ => ⟨negative, rfl⟩⟩
    · simp only [if_neg he]
      exact ⟨fun ⟨_, h⟩ => (by cases h), fun h => by omega⟩
  · simp only [if_neg hm]
    by_cases he : maxExponent < e
    · simp only [if_pos he]
      exact ⟨fun _ => Or.inl he, fun _ => ⟨negative, rfl⟩⟩
    · simp only [if_neg he]
      exact ⟨fun ⟨_, h⟩ => (by cases h), fun h => by omega⟩

/-! ## Integers around a bound

The exponent of the unit is a variable here, so that no power is worked out. -/

section

variable {n u : Nat}

theorem pow_two_add (j k : Nat) : Nat.pow 2 (j + k) = Nat.pow 2 j * Nat.pow 2 k :=
  Nat.pow_add 2 j k

theorem pow_two_le {j k : Nat} (h : j ≤ k) : Nat.pow 2 j ≤ Nat.pow 2 k :=
  Nat.pow_le_pow_right (by decide) h

/-- The midpoint between the largest number with a unit and the next power of two. -/
def midpoint (u : Nat) : Nat :=
  (2 * significandBound - 1) * Nat.pow 2 u

theorem lt_midpoint (hk : Nat.log2 n < 53 + u) : n < midpoint u :=
  calc n < Nat.pow 2 (Nat.log2 n + 1) := Nat.lt_log2_self
    _ ≤ Nat.pow 2 (53 + u) := pow_two_le hk
    _ = significandBound * Nat.pow 2 u := pow_two_add 53 u
    _ ≤ midpoint u := Nat.mul_le_mul_right _ (by decide)

theorem midpoint_le (hk : 53 + u < Nat.log2 n) : midpoint u ≤ n := by
  have hn : n ≠ 0 := by
    rintro rfl
    rw [show Nat.log2 0 = 0 from by decide] at hk
    omega
  calc midpoint u
    _ ≤ Nat.pow 2 54 * Nat.pow 2 u := Nat.mul_le_mul_right _ (by decide)
    _ = Nat.pow 2 (54 + u) := (pow_two_add 54 u).symm
    _ ≤ Nat.pow 2 (Nat.log2 n) := pow_two_le (by omega)
    _ ≤ n := Nat.log2_self_le hn

/-- In the binade of the midpoint, the unit is `2^(u + 1)`, and rounding goes up from the midpoint
on. -/
theorem round_eq_iff (hk : Nat.log2 n = 53 + u) :
    roundQuotient (n * (scaled 1 2 ((u + 1 : Nat) : Int)).2) (scaled 1 2 ((u + 1 : Nat) : Int)).1
        = significandBound ↔ midpoint u ≤ n := by
  have hscaled : scaled 1 2 ((u + 1 : Nat) : Int) = (2 * Nat.pow 2 u, 1) := by
    have hdown : (-((u + 1 : Nat) : Int)).toNat = 0 := by omega
    rw [scaled, hdown, Int.toNat_natCast, Nat.add_comm, pow_two_add, Nat.one_mul]
  have hlt : n < 2 * Nat.pow 2 u * significandBound :=
    calc n < Nat.pow 2 (Nat.log2 n + 1) := Nat.lt_log2_self
      _ ≤ Nat.pow 2 (54 + u) := pow_two_le (by omega)
      _ = Nat.pow 2 54 * Nat.pow 2 u := pow_two_add 54 u
      _ = 2 * significandBound * Nat.pow 2 u := congrArg (· * Nat.pow 2 u) (by decide)
      _ = 2 * Nat.pow 2 u * significandBound := Nat.mul_right_comm _ _ _
  rw [hscaled, Nat.mul_one]
  exact roundQuotient_eq_iff (Nat.pow_pos (by decide)) (by decide) hlt

end

/-! ## The range -/

/-- The midpoint between the largest number and `2^1024`. -/
def overflowBound : Nat :=
  midpoint 970

theorem overflowBound_pos : 0 < overflowBound :=
  lt_midpoint (by decide)

/-- An integer is scaled to its binade, or less far if it is small, and rounded there. -/
theorem ofInt_eq_carried {n : Int} (h : n.natAbs ≠ 0) :
    ofInt n = carried (n < 0)
      (roundQuotient (n.natAbs * (scaled 1 2 (max (Nat.log2 n.natAbs - 52) minExponent)).2)
        (scaled 1 2 (max (Nat.log2 n.natAbs - 52) minExponent)).1)
      (max (Nat.log2 n.natAbs - 52) minExponent) := by
  rw [ofInt, ofRatio, if_neg h, floorLog2_one h]

/-- **An integer is beyond the range exactly from the overflow bound on.** -/
theorem ofInt_infinite_iff (n : Int) :
    (∃ s, ofInt n = .infinite s) ↔ overflowBound ≤ n.natAbs := by
  rw [overflowBound]
  by_cases h : n.natAbs = 0
  · have hlog : Nat.log2 n.natAbs < 53 + 970 := by
      rw [h]
      decide
    have hbound := lt_midpoint hlog
    rw [ofInt, ofRatio, if_pos h]
    exact ⟨fun ⟨_, hzero⟩ => (by cases hzero), fun hle => by omega⟩
  · rw [ofInt_eq_carried h, carried_infinite_iff]
    rcases Nat.lt_trichotomy (Nat.log2 n.natAbs) (53 + 970) with hk | hk | hk
    · -- Even if the significand is carried, the exponent stays within the range.
      have hbound := lt_midpoint hk
      simp only [minExponent, maxExponent]
      exact ⟨fun hexp => by omega, fun hle => by omega⟩
    · -- The exponent is the largest one, so that all depends on whether it is raised.
      have hexp : max (((53 + 970 : Nat) : Int) - 52) minExponent = ((970 + 1 : Nat) : Int) := by
        decide
      have hround := round_eq_iff hk
      rw [hk, hexp, hround]
      simp only [maxExponent]
      exact ⟨fun hor => by omega, fun hle => Or.inr ⟨hle, by omega⟩⟩
    · -- The exponent is above the range before anything is rounded.
      have hbound := midpoint_le hk
      simp only [minExponent, maxExponent]
      exact ⟨fun _ => hbound, fun _ => Or.inl (by omega)⟩

end RecordForge.Binary64

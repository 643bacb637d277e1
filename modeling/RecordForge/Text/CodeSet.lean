/-!
# Sets of code points

A set of characters is given by ascending, disjoint, inclusive ranges of code points. Membership is
a walk along the ranges that stops at the first range lying above the character, so the common case
of an ASCII character looks at one or two ranges only.
-/

namespace RecordForge.Text

/-- A set of characters, as ascending and disjoint inclusive ranges of code points. -/
structure CodeSet where
  ranges : List (Nat × Nat)
deriving Repr

namespace CodeSet

/-- Whether `n` lies in one of the ranges, looked up in ascending order. -/
def inside (n : Nat) : List (Nat × Nat) → Bool
  | [] => false
  | (lo, hi) :: rest => if n < lo then false else if n ≤ hi then true else inside n rest

/-- Whether the character belongs to the set. -/
def contains (s : CodeSet) (c : Char) : Bool :=
  inside c.toNat s.ranges

/-- A member lies in one of the ranges; the converse needs the ranges to ascend. -/
theorem exists_range_of_inside {n : Nat} :
    ∀ {rs : List (Nat × Nat)}, inside n rs = true → ∃ r ∈ rs, r.1 ≤ n ∧ n ≤ r.2
  | [], h => by simp [inside] at h
  | (lo, hi) :: rest, h => by
    unfold inside at h
    split at h
    · simp at h
    · split at h
      · exact ⟨(lo, hi), by simp, by simp only; omega, by simp only; omega⟩
      · obtain ⟨r, hr, hb⟩ := exists_range_of_inside h
        exact ⟨r, List.mem_cons_of_mem _ hr, hb⟩

end CodeSet

end RecordForge.Text

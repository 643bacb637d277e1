import RecordForge.Number.Numeral

/-!
# Texts of numbers

Integers are written in digits and a sign, each in its own way (`toList_toString_injective`). A
floating-point number is written in digits, signs and a few letters, and never like an integer: it
has a point, an exponent, or it is a word (`isFloatText_floatText`).
-/

namespace RecordForge

namespace Numeral

/-! ## Characters -/

/-- A digit or the minus sign, as integers are written in. -/
def isIntegerChar (c : Char) : Bool :=
  c.isDigit || c = '-'

/-- A character that floating-point numbers are written in. -/
def isFloatChar (c : Char) : Bool :=
  c.isDigit || "+-.einfa".toList.contains c

theorem isDigit_of_mem_repr {n : Nat} {c : Char} (h : c ∈ (Nat.repr n).toList) :
    c.isDigit = true := by
  rw [Nat.toList_repr] at h
  exact Nat.isDigit_of_mem_toDigits (by decide) (by decide) h

/-- Different numbers have different digits. -/
theorem toDigits_injective {m n : Nat} (h : Nat.toDigits 10 m = Nat.toDigits 10 n) : m = n := by
  have hread := congrArg (fun digits => Nat.ofDigitChars 10 digits 0) h
  rwa [Nat.ofDigitChars_toDigits (by decide) (by decide),
    Nat.ofDigitChars_toDigits (by decide) (by decide)] at hread

theorem toList_repr_injective {m n : Nat} (h : (Nat.repr m).toList = (Nat.repr n).toList) :
    m = n :=
  toDigits_injective (Nat.toList_repr.symm.trans (h.trans Nat.toList_repr))

theorem isFloatChar_of_isDigit {c : Char} (h : c.isDigit = true) : isFloatChar c = true := by
  rw [isFloatChar, h, Bool.true_or]

/-- Integers are written in characters of floating-point numbers. -/
theorem isFloatChar_of_isIntegerChar {c : Char} (h : isIntegerChar c = true) :
    isFloatChar c = true := by
  rw [isIntegerChar, Bool.or_eq_true, decide_eq_true_eq] at h
  rcases h with hdigit | rfl
  · exact isFloatChar_of_isDigit hdigit
  · decide

/-! ## Integers -/

theorem toList_toString_negSucc (n : Nat) :
    (toString (Int.negSucc n)).toList = '-' :: (Nat.repr (n + 1)).toList := by
  have htext : toString (Int.negSucc n) = "-" ++ Nat.repr (n + 1) := rfl
  rw [htext, String.toList_append]
  rfl

theorem isIntegerChar_of_mem_toString {n : Int} {c : Char} (h : c ∈ (toString n).toList) :
    isIntegerChar c = true := by
  have hdigit : ∀ {m : Nat}, c ∈ (Nat.repr m).toList → isIntegerChar c = true := by
    intro m hc
    rw [isIntegerChar, isDigit_of_mem_repr hc, Bool.true_or]
  cases n with
  | ofNat n => exact hdigit h
  | negSucc n =>
    rw [toList_toString_negSucc] at h
    rcases List.mem_cons.mp h with rfl | hc
    · decide
    · exact hdigit hc

/-- Different integers are written differently. -/
theorem toList_toString_injective {m n : Int} (h : (toString m).toList = (toString n).toList) :
    m = n := by
  -- No digits begin with a sign.
  have hsign : ∀ {k : Nat} {cs : List Char}, (Nat.repr k).toList ≠ '-' :: cs := by
    intro k cs heq
    have hdigit := isDigit_of_mem_repr (heq ▸ List.mem_cons_self ..)
    exact absurd hdigit (by decide)
  cases m with
  | ofNat m =>
    cases n with
    | ofNat n => exact congrArg Int.ofNat (toList_repr_injective h)
    | negSucc n => exact absurd (h.trans (toList_toString_negSucc n)) hsign
  | negSucc m =>
    cases n with
    | ofNat n => exact absurd (h.symm.trans (toList_toString_negSucc m)) hsign
    | negSucc n =>
      rw [toList_toString_negSucc, toList_toString_negSucc] at h
      exact congrArg Int.negSucc (Nat.succ.inj (toList_repr_injective (List.cons.inj h).2))

/-! ## Floating-point numbers -/

/-- A text in the characters of floating-point numbers that is not that of an integer. -/
def IsFloatText (s : String) : Prop :=
  s.toList.all isFloatChar = true ∧ s.toList.all isIntegerChar = false

instance (s : String) : Decidable (IsFloatText s) :=
  inferInstanceAs (Decidable (_ ∧ _))

variable {s t : String}

theorem IsFloatText.append_left (hs : ∀ c ∈ s.toList, isFloatChar c = true)
    (ht : IsFloatText t) : IsFloatText (s ++ t) := by
  obtain ⟨hchars, hmark⟩ := ht
  rw [IsFloatText, String.toList_append, List.all_append, List.all_append, hchars, hmark,
    List.all_eq_true.mpr hs, Bool.and_false]
  exact ⟨rfl, rfl⟩

theorem IsFloatText.append_right (hs : IsFloatText s)
    (ht : ∀ c ∈ t.toList, isFloatChar c = true) : IsFloatText (s ++ t) := by
  obtain ⟨hchars, hmark⟩ := hs
  rw [IsFloatText, String.toList_append, List.all_append, List.all_append, hchars, hmark,
    List.all_eq_true.mpr ht, Bool.false_and]
  exact ⟨rfl, rfl⟩

theorem isFloatChar_of_mem_repr {n : Nat} {c : Char} (h : c ∈ (Nat.repr n).toList) :
    isFloatChar c = true :=
  isFloatChar_of_isDigit (isDigit_of_mem_repr h)

theorem isFloatChar_of_mem_padded {width n : Nat} {c : Char}
    (h : c ∈ (padded width (Nat.repr n)).toList) : isFloatChar c = true := by
  rw [padded, String.toList_append, String.toList_ofList, List.mem_append] at h
  rcases h with h | h
  · rw [List.eq_of_mem_replicate h]
    decide
  · exact isFloatChar_of_mem_repr h

/-- A decimal with a point is written in digits and the point. -/
theorem isFloatText_fixedText (d : Decimal) : IsFloatText (fixedText d) := by
  have hpoint : IsFloatText "." := by decide
  unfold fixedText
  dsimp only
  split
  next =>
    have hzero : IsFloatText ".0" := by decide
    refine .append_left (fun c hc => ?_) hzero
    rw [String.toList_append, List.mem_append, String.toList_ofList] at hc
    rcases hc with hc | hc
    · exact isFloatChar_of_mem_repr hc
    · rw [List.eq_of_mem_replicate hc]
      decide
  next =>
    refine .append_right (.append_left (fun c hc => ?_) hpoint) (fun c hc => ?_)
    · rw [String.toList_ofList] at hc
      exact isFloatChar_of_mem_padded (List.mem_of_mem_take hc)
    · rw [String.toList_ofList] at hc
      exact isFloatChar_of_mem_padded (List.mem_of_mem_drop hc)

/-- A decimal with an exponent is written in digits, the letter of the exponent, and signs. -/
theorem isFloatText_scientificText (layout : FloatLayout) (d : Decimal) :
    IsFloatText (scientificText layout d) := by
  unfold scientificText
  dsimp only
  refine .append_right (.append_left (fun c hc => ?_) ?_) fun c => isFloatChar_of_mem_padded
  · have hrepr : ∀ c ∈ (Nat.repr d.digits).toList, isFloatChar c = true :=
      fun c => isFloatChar_of_mem_repr
    split at hc
    next => exact absurd hc (by simp)
    next digit heq => exact hrepr c (by simpa [heq] using hc)
    next first rest _ heq =>
      rw [String.toList_ofList, List.mem_cons, List.mem_cons] at hc
      rcases hc with rfl | rfl | hc
      · exact hrepr c (by simp [heq])
      · decide
      · exact hrepr c (by simp [heq, hc])
  · split <;> decide

/-- **The text of a floating-point number** is not that of anything else. -/
theorem isFloatText_floatText (x : Binary64) : IsFloatText (floatText x) := by
  unfold floatText
  split
  next => decide
  next negative => cases negative <;> decide
  next negative m e =>
    refine .append_left (fun c hc => ?_) ?_
    · cases negative
      · exact absurd hc (by simp)
      · obtain rfl : c = '-' := by simpa using hc
        decide
    · split
      next => decide
      next =>
        unfold decimalText
        dsimp only
        split
        next => exact isFloatText_fixedText _
        next => exact isFloatText_scientificText _ _

end Numeral

end RecordForge

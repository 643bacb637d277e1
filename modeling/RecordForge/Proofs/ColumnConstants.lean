import Mathlib.Data.List.Chain
import RecordForge.Proofs.Naming

/-!
# Constants of columns

The constant of a column keeps the alphanumeric characters of the column's name, in upper case, and
has an underscore for every other one. Not all of those it keeps may stand in an identifier:
superscripts, fractions and circled digits have a numeric value, and some letters are mere forms of
others. These are the strays of a name.

Upper case never leads out of the characters of identifiers (`identifierContinue_upperChar`), and
leaves strays as they are (`upperChar_of_isStray`). So the strays of the name are what is foreign to
identifiers in the constant, and it is an identifier exactly if there are none
(`isIdentifier_constantName_iff`).
-/

namespace RecordForge

namespace Text

-- The tables of characters are decided line by line.
set_option maxRecDepth 8000

/-! ## Sets of code points -/

namespace CodeSet

variable {s : CodeSet} {c : Char} {n lo hi : Nat}

/-- The ranges of the set ascend, and they hold code points of characters only. -/
structure Proper (s : CodeSet) : Prop where
  ascending : s.ranges.Pairwise fun p q => p.1 ≤ q.1
  valid : ∀ p ∈ s.ranges, p.2 < 0xd800 ∨ 0xdfff < p.1 ∧ p.2 < 0x110000

/-- Whether one range of the set reaches from `lo` to `hi`. -/
def spans (s : CodeSet) (lo hi : Nat) : Bool :=
  s.ranges.any fun p => hi.ble p.2 && p.1.ble lo

/-- Whether no range of the set meets what lies from `lo` to `hi`. -/
def avoids (s : CodeSet) (lo hi : Nat) : Bool :=
  s.ranges.all fun p => p.2.blt lo || hi.blt p.1

/-- Where ranges ascend, the search does not stop before one that holds the code point. -/
theorem inside_of_mem {rs : List (Nat × Nat)} (h : rs.Pairwise fun p q => p.1 ≤ q.1)
    {p : Nat × Nat} (hp : p ∈ rs) (hlo : p.1 ≤ n) (hhi : n ≤ p.2) : inside n rs = true := by
  induction rs with
  | nil => exact absurd hp List.not_mem_nil
  | cons q rest ih =>
    obtain ⟨hq, hrest⟩ := List.pairwise_cons.mp h
    rw [inside]
    rcases List.mem_cons.mp hp with rfl | hin
    · rw [if_neg (by omega), if_pos hhi]
    · have hle : q.1 ≤ n := Nat.le_trans (hq p hin) hlo
      rw [if_neg (by omega), ih hrest hin]
      split <;> rfl

theorem Proper.contains_ofNat (hs : s.Proper) (h : s.spans lo hi = true) (hlo : lo ≤ n)
    (hhi : n ≤ hi) : s.contains (Char.ofNat n) = true := by
  simp only [spans, List.any_eq_true, Bool.and_eq_true, Nat.ble_eq] at h
  obtain ⟨p, hp, hlast, hfirst⟩ := h
  have hvalid : n.isValidChar := by
    have := hs.valid p hp
    omega
  have hcode : (Char.ofNat n).toNat = n := by
    rw [Char.ofNat, dif_pos hvalid]
    rfl
  rw [contains, hcode]
  exact inside_of_mem hs.ascending hp (by omega) (by omega)

theorem contains_of_avoids (h : s.avoids lo hi = true) (hlo : lo ≤ c.toNat) (hhi : c.toNat ≤ hi) :
    s.contains c = false := by
  by_contra hin
  rw [Bool.not_eq_false, contains] at hin
  obtain ⟨p, hp, hfirst, hlast⟩ := exists_range_of_inside hin
  simp only [avoids, List.all_eq_true, Bool.or_eq_true, Nat.blt_eq] at h
  have := h p hp
  omega

end CodeSet

/-- Whether a run leads from the set into the set. All that it moves lies in one range, and so does
all that it leads to; the latter may also lie in several ranges, one for each character. -/
def CaseRun.staysWithin (s : CodeSet) (r : CaseRun) : Bool :=
  s.spans r.first r.last
    && (s.spans ((r.first : Int) + r.shift).toNat ((r.last : Int) + r.shift).toNat
      || (List.range (r.last + 1 - r.first)).all fun k =>
        (r.image? (r.first + k)).all fun m => s.spans m m)

theorem CodeSet.Proper.contains_of_staysWithin {s : CodeSet} (hs : s.Proper) {r : CaseRun}
    (hr : r.staysWithin s = true) {n m : Nat} (h : r.image? n = some m) :
    s.contains (Char.ofNat n) = true ∧ s.contains (Char.ofNat m) = true := by
  obtain ⟨hfirst, hlast, hmoved⟩ := CaseRun.of_image? h
  rw [CaseRun.staysWithin, Bool.and_eq_true, Bool.or_eq_true] at hr
  obtain ⟨hsources, himages⟩ := hr
  refine ⟨hs.contains_ofNat hsources hfirst hlast, ?_⟩
  rcases himages with himages | himages
  · exact hs.contains_ofNat himages (by omega) (by omega)
  · have hpoint : s.spans m m = true := by
      rw [List.all_eq_true] at himages
      have hmember := himages (n - r.first) (List.mem_range.mpr (by omega))
      rw [Nat.add_sub_cancel' hfirst, h] at hmember
      exact hmember
    exact hs.contains_ofNat hpoint (Nat.le_refl m) (Nat.le_refl m)

/-! ## Upper case of identifier characters -/

theorem proper_identifierContinue : identifierContinue.Proper where
  ascending := by
    have hascends : Trans (fun p q : Nat × Nat => p.1 ≤ q.1) (fun p q : Nat × Nat => p.1 ≤ q.1)
        (fun p q : Nat × Nat => p.1 ≤ q.1) := ⟨Nat.le_trans⟩
    rw [← List.isChain_iff_pairwise]
    decide +kernel
  valid := by decide +kernel

/-- What upper case moves are characters of identifiers, and it moves them to such; except for the
circled letters, which are not alphanumeric either. -/
theorem upperRuns_cases : ∀ r ∈ upperRuns,
    (r.staysWithin identifierContinue
      || (identifierContinue.avoids r.first r.last && alphanumeric.avoids r.first r.last)) = true := by
  decide +kernel

/-- What upper case expands are characters of identifiers, and so is all that it expands them to. -/
theorem upperExpansions_within : ∀ e ∈ upperExpansions,
    (identifierContinue.spans e.1 e.1 && e.2.all fun n => identifierContinue.spans n n) = true := by
  decide +kernel

/-- Upper case does not lead out of the characters that may stand in an identifier. -/
theorem identifierContinue_upperChar {c : Char} (hc : identifierContinue.contains c = true) :
    ∀ d ∈ upperChar c, identifierContinue.contains d = true := by
  rcases caseImage_cases upperRuns upperExpansions c with
    ⟨r, hr, m, hmoved, himage⟩ | ⟨e, he, -, himage⟩ | himage
  · rw [upperChar, himage, List.forall_mem_singleton]
    have hcases := upperRuns_cases r hr
    rw [Bool.or_eq_true, Bool.and_eq_true] at hcases
    rcases hcases with hwithin | ⟨havoids, -⟩
    · exact (proper_identifierContinue.contains_of_staysWithin hwithin hmoved).2
    · obtain ⟨hfirst, hlast, -⟩ := CaseRun.of_image? hmoved
      exact absurd hc (by simp [CodeSet.contains_of_avoids havoids hfirst hlast])
  · rw [upperChar, himage, List.forall_mem_map]
    intro n hn
    have hwithin := upperExpansions_within e he
    rw [Bool.and_eq_true, List.all_eq_true] at hwithin
    exact proper_identifierContinue.contains_ofNat (hwithin.2 n hn) (Nat.le_refl n) (Nat.le_refl n)
  · rw [upperChar, himage, List.forall_mem_singleton]
    exact hc

/-- Whether a character is alphanumeric, but may not stand in an identifier. -/
def isStray (c : Char) : Bool :=
  isWord c && !identifierContinue.contains c

/-- Strays have no upper case. -/
theorem upperChar_of_isStray {c : Char} (h : isStray c = true) : upperChar c = [c] := by
  simp only [isStray, Bool.and_eq_true, Bool.not_eq_true'] at h
  obtain ⟨hword, hforeign⟩ := h
  have halphanumeric : alphanumeric.contains c = true := by
    have hne : c ≠ '_' := by
      rintro rfl
      exact absurd hforeign (by decide)
    simpa [isWord, hne] using hword
  rcases caseImage_cases upperRuns upperExpansions c with
    ⟨r, hr, m, hmoved, -⟩ | ⟨e, he, hcode, -⟩ | himage
  · have hcases := upperRuns_cases r hr
    rw [Bool.or_eq_true, Bool.and_eq_true] at hcases
    rcases hcases with hwithin | ⟨-, havoids⟩
    · have hmember := (proper_identifierContinue.contains_of_staysWithin hwithin hmoved).1
      rw [Char.ofNat_toNat] at hmember
      exact absurd hmember (by simp [hforeign])
    · obtain ⟨hfirst, hlast, -⟩ := CaseRun.of_image? hmoved
      exact absurd halphanumeric (by simp [CodeSet.contains_of_avoids havoids hfirst hlast])
  · have hwithin := upperExpansions_within e he
    rw [Bool.and_eq_true] at hwithin
    have hmember := proper_identifierContinue.contains_ofNat hwithin.1
      (Nat.le_refl e.1) (Nat.le_refl e.1)
    rw [hcode, Char.ofNat_toNat] at hmember
    exact absurd hmember (by simp [hforeign])
  · exact himage

end Text

namespace Naming

open RecordForge.Text

/-! ## Constants -/

/-- The characters of a text that may not stand in an identifier. -/
def foreignChars (cs : List Char) : List Char :=
  cs.filter (!identifierContinue.contains ·)

theorem foreignChars_eq_nil_iff {cs : List Char} :
    foreignChars cs = [] ↔ ∀ c ∈ cs, identifierContinue.contains c = true := by
  simp [foreignChars, List.filter_eq_nil_iff]

/-- A character of a column gives the constant something foreign only if it is a stray, and then
itself. -/
theorem foreignChars_upperChar (c : Char) :
    foreignChars (upperChar (if isWord c then c else '_')) = if isStray c then [c] else [] := by
  cases hstray : isStray c with
  | true =>
    obtain ⟨hword, hforeign⟩ : isWord c = true ∧ identifierContinue.contains c = false := by
      simpa [isStray] using hstray
    rw [if_pos hword, upperChar_of_isStray hstray]
    simp [foreignChars, hforeign]
  | false =>
    have hkept : identifierContinue.contains (if isWord c then c else '_') = true := by
      by_cases hword : isWord c = true
      · simpa [isStray, hword] using hstray
      · rw [if_neg hword]
        decide
    exact foreignChars_eq_nil_iff.mpr (identifierContinue_upperChar hkept)

/-- **What is foreign to identifiers in the constant of a column**: the strays of the column, in
their order. -/
theorem foreignChars_constantName (column : String) :
    foreignChars (constantName column).toList = column.toList.filter isStray := by
  have hword : foreignChars "COLUMN_".toList = [] := by decide
  rw [toList_constantName, foreignChars, List.filter_append, ← foreignChars, hword, List.nil_append]
  induction column.toList with
  | nil => rfl
  | cons c cs ih =>
    rw [List.map_cons, upper_cons, List.filter_append, ← foreignChars, foreignChars_upperChar, ih]
    cases hstray : isStray c <;> simp [hstray]

/-- **When the constant of a column is an identifier**: exactly if the column has no strays, which
are all that is foreign to identifiers in the constant. -/
theorem isIdentifier_constantName_iff (column : String) :
    foreignChars (constantName column).toList = column.toList.filter isStray
      ∧ (isIdentifier (constantName column).toList = true
        ↔ ∀ c ∈ column.toList, isStray c = false) := by
  refine ⟨foreignChars_constantName column, ?_⟩
  have hstart : isIdentifier (constantName column).toList = true
      ↔ foreignChars (constantName column).toList = [] := by
    obtain ⟨rest, hrest⟩ := List.head?_eq_some_iff.mp (head?_constantName column)
    have hfirst : identifierStart.contains 'C' = true ∧ identifierContinue.contains 'C' = true := by
      decide
    rw [hrest, foreignChars_eq_nil_iff, List.forall_mem_cons, isIdentifier, Bool.and_eq_true,
      List.all_eq_true]
    simp [hfirst]
  rw [hstart, foreignChars_constantName, List.filter_eq_nil_iff]
  simp

/-- A superscript of the name stays in the constant, which is no identifier then. -/
theorem constantName_superscript :
    constantName "area_m²" = "COLUMN_AREA_M²"
      ∧ isIdentifier (constantName "area_m²").toList = false := by
  decide +kernel

end Naming

end RecordForge

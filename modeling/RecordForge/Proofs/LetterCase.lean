import Mathlib.Data.List.Basic
import RecordForge.Text.Case

/-!
# What case conversion leads to

A character is converted by a run, by an expansion or not at all (`caseImage_cases`), and never to
nothing. So what leads to a given character can be read off the tables: `eq_of_head?_caseImage` for
a character that no run and no expansion reaches from elsewhere. Lower-casing leads to most of the
ASCII characters from within the ASCII range only (`eq_of_head?_lowerAfter`).
-/

namespace RecordForge.Text

-- The tables of characters are decided line by line.
set_option maxRecDepth 4000

variable {runs : List CaseRun} {expansions : List (Nat × List Nat)} {c d : Char}
  {before rest cs : List Char}

/-! ## Conversion of a character -/

/-- A character is converted by the run that moves it, by the line that expands it, or not at
all. -/
theorem caseImage_cases (runs : List CaseRun) (expansions : List (Nat × List Nat)) (c : Char) :
    (∃ r ∈ runs, ∃ n, r.image? c.toNat = some n ∧ caseImage runs expansions c = [Char.ofNat n])
      ∨ (∃ e ∈ expansions, e.1 = c.toNat ∧ caseImage runs expansions c = e.2.map Char.ofNat)
      ∨ caseImage runs expansions c = [c] := by
  unfold caseImage
  split
  next n hn =>
    obtain ⟨r, hr, hmoved⟩ := List.exists_of_findSome?_eq_some hn
    exact Or.inl ⟨r, hr, n, hmoved, rfl⟩
  next =>
    split
    next ns hns =>
      obtain ⟨before, after, hsplit, -⟩ := List.lookup_eq_some_iff.mp hns
      refine Or.inr (Or.inl ⟨(c.toNat, ns), ?_, rfl, rfl⟩)
      rw [hsplit]
      exact List.mem_append_right _ (List.mem_cons_self ..)
    next => exact Or.inr (Or.inr rfl)

/-- No character is converted to nothing, if no line of the table says so. -/
theorem caseImage_ne_nil (hexpansions : ∀ e ∈ expansions, e.2 ≠ []) (c : Char) :
    caseImage runs expansions c ≠ [] := by
  rcases caseImage_cases runs expansions c with ⟨r, -, n, -, himage⟩ | ⟨e, he, -, himage⟩ | himage
  · rw [himage]
    simp
  · rw [himage, Ne, List.map_eq_nil_iff]
    exact hexpansions e he
  · rw [himage]
    simp

theorem toNat_of_ofNat_eq {n : Nat} (hd : d.toNat ≠ 0) (h : Char.ofNat n = d) : n = d.toNat := by
  by_cases hvalid : n.isValidChar
  · rw [Char.ofNat, dif_pos hvalid] at h
    exact congrArg Char.toNat h
  · -- Numbers that are no code points stand for the character of code point zero.
    rw [Char.ofNat, dif_neg hvalid] at h
    exact absurd (h ▸ rfl) hd

/-- A run moves code points between its ends, all by its distance. -/
theorem CaseRun.of_image? {r : CaseRun} {n m : Nat} (h : r.image? n = some m) :
    r.first ≤ n ∧ n ≤ r.last ∧ m = ((n : Int) + r.shift).toNat := by
  rw [image?] at h
  split at h
  next hin => exact ⟨hin.1, hin.2.1, (Option.some.inj h).symm⟩
  next => exact absurd h (by simp)

/-- Where a run moves a code point from, given where it moves it. -/
theorem CaseRun.source_of_image? {r : CaseRun} {n m : Nat} (hm : m ≠ 0)
    (h : r.image? n = some m) :
    (n : Int) = m - r.shift ∧ (r.first : Int) ≤ m - r.shift ∧ m - r.shift ≤ (r.last : Int) := by
  obtain ⟨hfirst, hlast, hmoved⟩ := of_image? h
  omega

/-- A character is converted to itself, and nothing else to a text that begins with it, if no
expansion begins with it and no run that reaches it does so from a character that is allowed. -/
theorem eq_of_head?_caseImage (hd : d.toNat ≠ 0)
    (hruns : ∀ r ∈ runs, (c.toNat : Int) = d.toNat - r.shift →
      ¬ ((r.first : Int) ≤ d.toNat - r.shift ∧ d.toNat - r.shift ≤ (r.last : Int)))
    (hexpansions : ∀ e ∈ expansions, (e.2.map Char.ofNat).head? ≠ some d)
    (h : (caseImage runs expansions c).head? = some d) : c = d := by
  rcases caseImage_cases runs expansions c with
    ⟨r, hr, n, hmoved, himage⟩ | ⟨e, he, -, himage⟩ | himage
  · rw [himage, List.head?_cons, Option.some.injEq] at h
    obtain rfl := toNat_of_ofNat_eq hd h
    obtain ⟨hsource, hbounds⟩ := CaseRun.source_of_image? hd hmoved
    exact absurd hbounds (hruns r hr hsource)
  · rw [himage] at h
    exact absurd h (hexpansions e he)
  · rw [himage] at h
    simpa using h

/-! ## Upper case -/

/-- No character is upper-cased to nothing. -/
theorem upperChar_ne_nil (c : Char) : upperChar c ≠ [] :=
  caseImage_ne_nil (by decide) c

/-- Only the underscore is upper-cased to something that begins with an underscore. -/
theorem eq_underscore_of_head?_upperChar (h : (upperChar c).head? = some '_') : c = '_' := by
  have hruns : ∀ r ∈ upperRuns,
      ¬ ((r.first : Int) ≤ 0x5f - r.shift ∧ 0x5f - r.shift ≤ (r.last : Int)) := by
    decide
  exact eq_of_head?_caseImage (by decide) (fun r hr _ => hruns r hr) (by decide) h

/-! ## Lower case -/

/-- No character is lower-cased to nothing. -/
theorem lowerChar_ne_nil (c : Char) : lowerChar c ≠ [] :=
  caseImage_ne_nil (by decide) c

theorem lowerAfter_eq_nil_iff : lowerAfter before cs = [] ↔ cs = [] := by
  cases cs with
  | nil => exact iff_of_true rfl rfl
  | cons c rest =>
    refine iff_of_false (fun h => ?_) (List.cons_ne_nil c rest)
    rw [lowerAfter, List.append_eq_nil_iff] at h
    split at h
    next => exact absurd h.1 (List.cons_ne_nil _ _)
    next => exact lowerChar_ne_nil c h.1

/-- The capitals of the ASCII range. -/
theorem isUpper_iff : c.isUpper = true ↔ 0x41 ≤ c.toNat ∧ c.toNat ≤ 0x5a := by
  have hdef : c.isUpper = decide (c.val ≥ 'A'.val ∧ c.val ≤ 'Z'.val) := rfl
  rw [hdef, decide_eq_true_eq, ge_iff_le, UInt32.le_iff_toNat_le, UInt32.le_iff_toNat_le]
  exact Iff.rfl

theorem toNat_lt_of_isUpper (h : c.isUpper = true) : c.toNat < 0x80 :=
  Nat.lt_of_le_of_lt (isUpper_iff.mp h).2 (by decide)

/-- The ASCII characters that lower-casing leads to from the ASCII range only. There are others: the
Kelvin sign becomes a `k`, and a capital i with a dot an `i` that the dot follows. -/
def hasAsciiSource (c : Char) : Bool :=
  c.toNat ≠ 0 && c.toNat < 0x80 && c ≠ 'i' && c ≠ 'k'

theorem toNat_lt_of_hasAsciiSource (h : hasAsciiSource c = true) : c.toNat < 0x80 := by
  simp only [hasAsciiSource, Bool.and_eq_true, decide_eq_true_eq] at h
  exact h.1.1.2

/-- Lower-casing leads to them from nowhere else but from capitals. -/
theorem eq_of_head?_lowerChar (hd : hasAsciiSource d = true) (hc : c.isUpper = false)
    (h : (lowerChar c).head? = some d) : c = d := by
  simp only [hasAsciiSource, Bool.and_eq_true, decide_eq_true_eq] at hd
  obtain ⟨⟨⟨hzero, hascii⟩, hi⟩, hk⟩ := hd
  have hruns : ∀ r ∈ lowerRuns, (r.first = 0x41 ∧ r.last = 0x5a ∧ r.shift = 32)
      ∨ (r.first : Int) + r.shift = 0x6b ∧ r.first = r.last ∨ 0x80 ≤ (r.first : Int) + r.shift := by
    decide
  have hexpansions : ∀ e ∈ lowerExpansions, (e.2.map Char.ofNat).head? = some 'i' := by
    decide
  refine eq_of_head?_caseImage hzero (fun r hr hsource hbounds => ?_) (fun e he heq => ?_) h
  · rcases hruns r hr with ⟨hfirst, hlast, hshift⟩ | ⟨hkelvin, hsingle⟩ | hbeyond
    · -- The run would move the character from the range of the capitals.
      exact Bool.false_ne_true (hc.symm.trans (isUpper_iff.mpr (by omega)))
    · exact hk (Char.toNat_inj.mp (by change d.toNat = 0x6b; omega))
    · omega
  · exact hi (Option.some.inj (heq.symm.trans (hexpansions e he)))

/-- A text that is lower-cased to one beginning with such a character begins with it, unless it
begins with a capital. -/
theorem eq_of_head?_lowerAfter (hd : hasAsciiSource d = true) (hc : c.isUpper = false)
    (h : (lowerAfter before (c :: rest)).head? = some d) : c = d := by
  rw [lowerAfter] at h
  by_cases hsigma : c = 'Σ'
  · -- A sigma becomes one of two other letters.
    rw [if_pos hsigma, List.cons_append, List.head?_cons, Option.some.injEq] at h
    split at h <;> subst h <;> exact absurd hd (by decide)
  · rw [if_neg hsigma] at h
    obtain ⟨x, xs, hx⟩ := List.exists_cons_of_ne_nil (lowerChar_ne_nil c)
    apply eq_of_head?_lowerChar hd hc
    rw [hx] at h ⊢
    exact h

end RecordForge.Text

import Mathlib.Data.List.Basic
import RecordForge.Source.Plain

/-!
# Plain names

A text of ASCII characters is an identifier exactly when it begins with a letter or an underscore
and goes on with letters, digits and underscores (`isIdentifier_iff`). Such characters are
upper- and lower-cased one by one, so letter case never leads out of them. A plain name is read as
it is written (`readName_of_isPlainName`), and a name that begins in a way no reserved word does is
plain (`isPlainName_append`).
-/

namespace RecordForge

open RecordForge.Text

-- The tables of characters are decided line by line.
set_option maxRecDepth 4000

/-! ## Word characters of the ASCII range -/

/-- The letters, digits and the underscore of the ASCII range. -/
def isAsciiWord (c : Char) : Bool :=
  c.isAlphanum || c = '_'

/-- What holds of the 128 characters of the ASCII range holds of every character in it. -/
theorem forall_ascii {p : Char → Prop} (h : ∀ n : Fin 128, p (Char.ofNat n)) {c : Char}
    (hc : c.toNat < 0x80) : p c := by
  have hn := h ⟨c.toNat, hc⟩
  rwa [Char.ofNat_toNat] at hn

theorem toNat_lt_of_isAsciiWord {c : Char} (h : isAsciiWord c = true) : c.toNat < 0x80 := by
  rw [isAsciiWord, Bool.or_eq_true, decide_eq_true_eq] at h
  rcases h with h | rfl
  · have halphanum : c.isAlphanum
        = ((decide (c.val ≥ 'A'.val ∧ c.val ≤ 'Z'.val)
            || (decide (c.val ≥ 'a'.val) && decide (c.val ≤ 'z'.val)))
          || (decide (c.val ≥ '0'.val) && decide (c.val ≤ '9'.val))) := rfl
    have hlimits : 'z'.toNat = 122 ∧ 'Z'.toNat = 90 ∧ '9'.toNat = 57 := by decide
    unfold Char.toNat at hlimits ⊢
    simp only [halphanum, Bool.or_eq_true, Bool.and_eq_true, decide_eq_true_eq,
      UInt32.le_iff_toNat_le] at h
    omega
  · decide

theorem isAscii_of_forall_isAsciiWord {cs : List Char} (h : ∀ c ∈ cs, isAsciiWord c = true) :
    isAscii cs = true := by
  simp only [isAscii, List.all_eq_true, decide_eq_true_eq]
  exact fun c hc => toNat_lt_of_isAsciiWord (h c hc)

/-- An ASCII character may continue an identifier exactly when it is a word character. -/
theorem identifierContinue_eq {c : Char} (h : c.toNat < 0x80) :
    identifierContinue.contains c = isAsciiWord c := by
  have hall : ∀ n : Fin 128,
      identifierContinue.contains (Char.ofNat n) = isAsciiWord (Char.ofNat n) := by
    decide
  exact forall_ascii (p := fun c => identifierContinue.contains c = isAsciiWord c) hall h

/-- An ASCII character may begin an identifier exactly when it is a word character other than a
digit. -/
theorem identifierStart_eq {c : Char} (h : c.toNat < 0x80) :
    identifierStart.contains c = (isAsciiWord c && !c.isDigit) := by
  have hall : ∀ n : Fin 128, identifierStart.contains (Char.ofNat n)
      = (isAsciiWord (Char.ofNat n) && !(Char.ofNat n).isDigit) := by
    decide
  exact forall_ascii
    (p := fun c => identifierStart.contains c = (isAsciiWord c && !c.isDigit)) hall h

/-! ## Letter case -/

/-- A run does not move what lies below it. -/
theorem image?_of_lt_first {r : CaseRun} {n : Nat} (h : n < r.first) : r.image? n = none := by
  rw [CaseRun.image?, if_neg (by omega)]

/-- A mapping whose first run alone touches the ASCII range acts there by that run. -/
theorem caseImage_of_ascii {first : CaseRun} {runs : List CaseRun}
    {expansions : List (Nat × List Nat)} (hruns : ∀ r ∈ runs, 0x80 ≤ r.first)
    (hexpansions : ∀ e ∈ expansions, 0x80 ≤ e.1) {c : Char} (h : c.toNat < 0x80) :
    caseImage (first :: runs) expansions c
      = match first.image? c.toNat with
        | some n => [Char.ofNat n]
        | none => [c] := by
  have hmiss : runs.findSome? (·.image? c.toNat) = none := by
    rw [List.findSome?_eq_none_iff]
    exact fun r hr => image?_of_lt_first (Nat.lt_of_lt_of_le h (hruns r hr))
  have hlookup : expansions.lookup c.toNat = none := by
    rw [List.lookup_eq_none_iff]
    intro e he
    have := hexpansions e he
    rw [bne_iff_ne]
    omega
  rw [caseImage, List.findSome?_cons]
  cases first.image? c.toNat with
  | none => simp [hmiss, hlookup]
  | some n => rfl

theorem upperChar_eq_of_ascii {c : Char} (h : c.toNat < 0x80) : upperChar c = [c.toUpper] := by
  have hhead : upperRuns = ⟨0x61, 0x7a, 1, -32⟩ :: upperRuns.tail := rfl
  have hall : ∀ n : Fin 128,
      (match (⟨0x61, 0x7a, 1, -32⟩ : CaseRun).image? (Char.ofNat n).toNat with
        | some m => [Char.ofNat m]
        | none => [Char.ofNat n]) = [(Char.ofNat n).toUpper] := by
    decide
  rw [upperChar, hhead, caseImage_of_ascii (by decide) (by decide) h]
  exact forall_ascii (p := fun c =>
    (match (⟨0x61, 0x7a, 1, -32⟩ : CaseRun).image? c.toNat with
      | some m => [Char.ofNat m]
      | none => [c]) = [c.toUpper]) hall h

theorem lowerChar_eq_of_ascii {c : Char} (h : c.toNat < 0x80) : lowerChar c = [c.toLower] := by
  have hhead : lowerRuns = ⟨0x41, 0x5a, 1, 32⟩ :: lowerRuns.tail := rfl
  have hall : ∀ n : Fin 128,
      (match (⟨0x41, 0x5a, 1, 32⟩ : CaseRun).image? (Char.ofNat n).toNat with
        | some m => [Char.ofNat m]
        | none => [Char.ofNat n]) = [(Char.ofNat n).toLower] := by
    decide
  rw [lowerChar, hhead, caseImage_of_ascii (by decide) (by decide) h]
  exact forall_ascii (p := fun c =>
    (match (⟨0x41, 0x5a, 1, 32⟩ : CaseRun).image? c.toNat with
      | some m => [Char.ofNat m]
      | none => [c]) = [c.toLower]) hall h

theorem isAsciiWord_toUpper {c : Char} (h : isAsciiWord c = true) :
    isAsciiWord c.toUpper = true := by
  have hall : ∀ n : Fin 128, isAsciiWord (Char.ofNat n) = true →
      isAsciiWord (Char.ofNat n).toUpper = true := by
    decide
  exact forall_ascii (p := fun c => isAsciiWord c = true → isAsciiWord c.toUpper = true) hall
    (toNat_lt_of_isAsciiWord h) h

/-- Lower-casing leaves word characters, and makes no digit out of anything else. -/
theorem isAsciiWord_toLower {c : Char} (h : isAsciiWord c = true) :
    isAsciiWord c.toLower = true ∧ c.toLower.isDigit = c.isDigit := by
  have hall : ∀ n : Fin 128, isAsciiWord (Char.ofNat n) = true →
      isAsciiWord (Char.ofNat n).toLower = true
        ∧ (Char.ofNat n).toLower.isDigit = (Char.ofNat n).isDigit := by
    decide
  exact forall_ascii (p := fun c => isAsciiWord c = true →
    isAsciiWord c.toLower = true ∧ c.toLower.isDigit = c.isDigit) hall (toNat_lt_of_isAsciiWord h) h

/-- An ASCII text is lower-cased character by character, and then what follows it. -/
theorem lowerAfter_append_of_ascii {cs : List Char} (h : isAscii cs = true) (rest : List Char) :
    ∀ before, lowerAfter before (cs ++ rest)
      = cs.map Char.toLower ++ lowerAfter (cs.reverse ++ before) rest := by
  simp only [isAscii, List.all_eq_true, decide_eq_true_eq] at h
  induction cs with
  | nil => exact fun _ => rfl
  | cons c cs ih =>
    intro before
    obtain ⟨hc, hcs⟩ := List.forall_mem_cons.mp h
    have hsigma : c ≠ 'Σ' := by
      rintro rfl
      exact absurd hc (by decide)
    rw [List.cons_append, lowerAfter, if_neg hsigma, lowerChar_eq_of_ascii hc, ih hcs]
    simp

/-- Lower-casing an ASCII text goes character by character. -/
theorem lower_eq_map {cs : List Char} (h : isAscii cs = true) : lower cs = cs.map Char.toLower := by
  simpa [lower, lowerAfter] using lowerAfter_append_of_ascii h [] []

/-- What a text follows makes a difference only between the two small sigmas. -/
theorem length_lowerAfter (cs : List Char) :
    ∀ before before', (lowerAfter before cs).length = (lowerAfter before' cs).length := by
  induction cs with
  | nil => exact fun _ _ => rfl
  | cons c cs ih =>
    intro before before'
    rw [lowerAfter, lowerAfter, List.length_append, List.length_append,
      ih (c :: before) (c :: before')]
    by_cases hc : c = 'Σ' <;> simp [hc]

/-- Upper-casing an ASCII text goes character by character. -/
theorem upper_eq_map {cs : List Char} (h : isAscii cs = true) : upper cs = cs.map Char.toUpper := by
  simp only [isAscii, List.all_eq_true, decide_eq_true_eq] at h
  rw [upper, List.map_eq_flatMap]
  exact List.flatMap_congr fun c hc => upperChar_eq_of_ascii (h c hc)

/-! ## Identifiers -/

/-- A text of word characters is an identifier exactly when it begins with one that is no digit. -/
theorem isIdentifier_iff {cs : List Char} (h : ∀ c ∈ cs, isAsciiWord c = true) :
    isIdentifier cs = true ↔ ∃ c rest, cs = c :: rest ∧ c.isDigit = false := by
  cases cs with
  | nil => simp [isIdentifier]
  | cons c rest =>
    have hc := h c (List.mem_cons_self ..)
    have hrest : rest.all identifierContinue.contains = true := by
      rw [List.all_eq_true]
      intro d hd
      have hword := h d (List.mem_cons_of_mem _ hd)
      rw [identifierContinue_eq (toNat_lt_of_isAsciiWord hword)]
      exact hword
    simp [isIdentifier, hrest, identifierStart_eq (toNat_lt_of_isAsciiWord hc), hc]

/-- The characters of an ASCII identifier are word characters. -/
theorem isAsciiWord_of_isIdentifier {cs : List Char} (hascii : isAscii cs = true)
    (h : isIdentifier cs = true) : ∀ c ∈ cs, isAsciiWord c = true := by
  simp only [isAscii, List.all_eq_true, decide_eq_true_eq] at hascii
  cases cs with
  | nil => simp
  | cons c rest =>
    simp only [isIdentifier, Bool.and_eq_true, List.all_eq_true] at h
    obtain ⟨hstart, hrest⟩ := h
    intro d hd
    rcases List.mem_cons.mp hd with rfl | hin
    · rw [identifierStart_eq (hascii d hd), Bool.and_eq_true] at hstart
      exact hstart.1
    · rw [← identifierContinue_eq (hascii d hd)]
      exact hrest d hin

/-! ## Plain names -/

theorem isPlainName_iff {name : String} :
    isPlainName name = true ↔ isAscii name.toList = true ∧ isIdentifier name.toList = true
      ∧ isKeyword name = false ∧ name ≠ debugName := by
  simp [isPlainName, and_assoc]

theorem isNameChar_of_isAsciiWord {c : Char} (h : isAsciiWord c = true) :
    NumberToken.isNameChar c = true := by
  simp only [isAsciiWord, Bool.or_eq_true] at h
  simp only [NumberToken.isNameChar, Bool.or_eq_true]
  exact Or.inl h

/-- A plain name is read as it is written. -/
theorem readName_of_isPlainName {name : String} (h : isPlainName name = true) :
    readName name = name := by
  obtain ⟨hascii, hident, -, -⟩ := isPlainName_iff.mp h
  apply readName_eq_self _ hascii
  exact fun c hc => isNameChar_of_isAsciiWord (isAsciiWord_of_isIdentifier hascii hident c hc)

/-- A word that no reserved name begins with makes every name plain that goes on with word
characters. -/
theorem isPlainName_append {word : List Char} (hword : word.all isAsciiWord = true)
    (hident : isIdentifier word = true)
    (hfree : ∀ k ∈ debugName :: keywords, word.isPrefixOf k.toList = false)
    {cs : List Char} (hcs : ∀ c ∈ cs, isAsciiWord c = true) :
    isPlainName (String.ofList (word ++ cs)) = true := by
  rw [List.all_eq_true] at hword
  have hall : ∀ c ∈ word ++ cs, isAsciiWord c = true := by
    intro c hc
    rcases List.mem_append.mp hc with h | h
    · exact hword c h
    · exact hcs c h
  have hne : ∀ k ∈ debugName :: keywords, String.ofList (word ++ cs) ≠ k := by
    intro k hk heq
    have hprefix : word.isPrefixOf k.toList = true := by
      rw [← heq, String.toList_ofList, List.isPrefixOf_iff_prefix]
      exact List.prefix_append ..
    exact absurd hprefix (by simp [hfree k hk])
  obtain ⟨c, rest, rfl, hdigit⟩ := (isIdentifier_iff hword).mp hident
  rw [isPlainName_iff, String.toList_ofList]
  refine ⟨isAscii_of_forall_isAsciiWord hall, ?_, ?_, hne _ (List.mem_cons_self ..)⟩
  · exact (isIdentifier_iff hall).mpr ⟨c, rest ++ cs, rfl, hdigit⟩
  · simp only [isKeyword, List.contains_eq_mem, decide_eq_false_iff_not]
    exact fun hin => hne _ (List.mem_cons_of_mem _ hin) rfl

end RecordForge

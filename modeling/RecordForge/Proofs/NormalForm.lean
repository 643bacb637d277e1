import RecordForge.Proofs.PlainNames

/-!
# What the normal form leaves alone

ASCII characters neither come apart nor compose to the left, and no mark passes them. So a text that
begins with ASCII characters keeps them in its normal form, but for the last of them, which may take
marks that follow it unless it is an underscore (`prefix_normalForm`). Names that are told apart by
how they begin are therefore told apart when they are read (`prefix_readName`).
-/

namespace RecordForge.Text

/-! ## ASCII characters -/

set_option maxRecDepth 10000 in
theorem le_of_mem_combiningClasses : ∀ e ∈ combiningClasses, 0x80 ≤ e.1 := by decide

set_option maxRecDepth 10000 in
theorem le_of_mem_composedCodes : ∀ e ∈ composedCodes, 0x80 ≤ e.2.2 := by decide

set_option maxRecDepth 10000 in
theorem ne_underscore_of_mem_composedCodes : ∀ e ∈ composedCodes, e.2.1 ≠ '_'.toNat := by decide

/-- An ASCII character is no mark. -/
theorem combiningClass_of_ascii {c : Char} (h : c.toNat < 0x80) : combiningClass c = 0 := by
  rw [combiningClass]
  split
  next lo hi k hfound =>
    have hlo := le_of_mem_combiningClasses _ (List.mem_of_find?_eq_some hfound)
    have hmember := List.find?_some hfound
    simp only [Bool.and_eq_true, decide_eq_true_eq] at hmember
    omega
  next => rfl

/-- An ASCII character does not compose with what stands before it. -/
theorem composePair_ascii (a : Char) {b : Char} (h : b.toNat < 0x80) : composePair a b = none := by
  rw [composePair]
  split
  next c _ hfound =>
    have hsecond := le_of_mem_composedCodes _ (List.mem_of_find?_eq_some hfound)
    have hmember := List.find?_some hfound
    simp only [Bool.and_eq_true, decide_eq_true_eq] at hsecond hmember
    omega
  next =>
    unfold composeSyllable
    rw [if_neg (by omega), if_neg (by omega)]

/-- An underscore does not compose with what stands behind it. -/
theorem composePair_underscore (b : Char) : composePair '_' b = none := by
  rw [composePair]
  split
  next hfound =>
    have hmember := List.find?_some hfound
    simp only [Bool.and_eq_true, decide_eq_true_eq] at hmember
    exact absurd hmember.1
      (ne_underscore_of_mem_composedCodes _ (List.mem_of_find?_eq_some hfound))
  next =>
    have hcode : '_'.toNat = 0x5f := rfl
    unfold composeSyllable
    rw [if_neg (by omega), if_neg (by omega)]

/-! ## The three steps -/

theorem flatMap_decompose_append {cs rest : List Char} (h : isAscii cs = true) :
    (cs ++ rest).flatMap (decompose decompositionSteps)
      = cs ++ rest.flatMap (decompose decompositionSteps) := by
  have hkept : cs.flatMap (decompose decompositionSteps) = cs.flatMap ([·]) := by
    apply List.flatMap_congr
    intro c hc
    simp only [isAscii, List.all_eq_true, decide_eq_true_eq] at h
    rw [decompositionSteps, decompose, if_pos (h c hc)]
  rw [List.flatMap_append, hkept, List.flatMap_singleton']

theorem orderMarks_append {cs rest : List Char} (h : isAscii cs = true) :
    orderMarks (cs ++ rest) = cs ++ orderMarks rest := by
  induction cs with
  | nil => rfl
  | cons c cs ih =>
    simp only [isAscii, List.all_cons, Bool.and_eq_true, decide_eq_true_eq] at h
    -- Nothing is of a lower class than a character that is no mark.
    have hplace : ∀ marks, placeMark c marks = c :: marks := by
      intro marks
      cases marks with
      | nil => rfl
      | cons d marks =>
        rw [placeMark, combiningClass_of_ascii h.1, if_neg (by omega)]
    rw [List.cons_append, orderMarks, List.foldr_cons, hplace]
    exact congrArg (c :: ·) (ih h.2)

/-- A letter before an ASCII character is done. -/
theorem composeFrom_cons_ascii (letter : Char) {c : Char} (h : c.toNat < 0x80) (rest : List Char) :
    composeFrom letter [] (c :: rest) = letter :: composeFrom c [] rest := by
  simp [composeFrom, composePair_ascii letter h, combiningClass_of_ascii h]

/-- Composing leaves ASCII characters, and begins anew with the last of them. -/
theorem composeFrom_append_ascii {cs : List Char} {c : Char} {rest : List Char} :
    ∀ {letter : Char}, isAscii (cs ++ [c]) = true →
      composeFrom letter [] (cs ++ c :: rest) = letter :: cs ++ composeFrom c [] rest := by
  induction cs with
  | nil =>
    intro letter h
    simp only [List.nil_append, isAscii, List.all_cons, List.all_nil, Bool.and_true,
      decide_eq_true_eq] at h
    exact composeFrom_cons_ascii letter h rest
  | cons d cs ih =>
    intro letter h
    simp only [List.cons_append, isAscii, List.all_cons, Bool.and_eq_true, decide_eq_true_eq] at h
    rw [List.cons_append, composeFrom_cons_ascii letter h.1, ih h.2]
    rfl

/-- A letter that composes with nothing stays in front. -/
theorem exists_composeFrom_eq_cons {letter : Char} (h : ∀ d, composePair letter d = none)
    (rest : List Char) :
    ∀ marks, ∃ tail, composeFrom letter marks rest = letter :: tail := by
  induction rest with
  | nil => exact fun marks => ⟨_, rfl⟩
  | cons d rest ih =>
    intro marks
    simp only [composeFrom, h d, ite_self]
    split
    · exact ⟨_, rfl⟩
    · exact ih _

/-! ## The normal form -/

/-- **ASCII characters in front stay there**; the last of them does so if it is an underscore. -/
theorem prefix_normalForm {cs : List Char} {c : Char} {rest : List Char}
    (h : isAscii (cs ++ [c]) = true) :
    cs <+: (normalForm (String.ofList (cs ++ c :: rest))).toList
      ∧ (c = '_' → cs ++ [c] <+: (normalForm (String.ofList (cs ++ c :: rest))).toList) := by
  have hsplit : cs ++ c :: rest = cs ++ [c] ++ rest := by simp
  unfold normalForm
  split
  next =>
    -- A text of ASCII characters is its own normal form.
    rw [String.toList_ofList]
    exact ⟨List.prefix_append .., fun _ => hsplit ▸ List.prefix_append ..⟩
  next =>
    rw [String.toList_ofList, String.toList_ofList, hsplit, flatMap_decompose_append h,
      orderMarks_append h, List.append_assoc, List.singleton_append]
    generalize orderMarks (rest.flatMap (decompose decompositionSteps)) = marked
    have hcomposed : composeAll (cs ++ c :: marked) = cs ++ composeFrom c [] marked := by
      cases cs with
      | nil => rfl
      | cons letter cs =>
        rw [List.cons_append, composeAll]
        apply composeFrom_append_ascii
        simp only [List.cons_append, isAscii, List.all_cons, Bool.and_eq_true] at h
        exact h.2
    rw [hcomposed]
    refine ⟨List.prefix_append .., ?_⟩
    rintro rfl
    obtain ⟨tail, htail⟩ := exists_composeFrom_eq_cons composePair_underscore marked []
    rw [htail]
    exact ⟨tail, by simp⟩

/-- So it is when a name is read that begins with such characters. -/
theorem prefix_readName {name : String} {cs : List Char} {c : Char} {rest : List Char}
    (hname : name.toList = cs ++ c :: rest) (h : (cs ++ [c]).all isAsciiWord = true) :
    cs <+: (readName name).toList ∧ (c = '_' → cs ++ [c] <+: (readName name).toList) := by
  rw [List.all_eq_true] at h
  have hword : ∀ d ∈ cs ++ [c], NumberToken.isNameChar d = true :=
    fun d hd => isNameChar_of_isAsciiWord (h d hd)
  have hsplit : cs ++ c :: rest = cs ++ [c] ++ rest := by simp
  have hgaps : (cs ++ c :: rest).dropWhile isGap = cs ++ c :: rest := by
    cases cs with
    | nil =>
      exact List.dropWhile_cons_of_neg (by simp [isGap_of_isNameChar (hword c (by simp))])
    | cons d cs =>
      exact List.dropWhile_cons_of_neg (by simp [isGap_of_isNameChar (hword d (by simp))])
  have htaken : (cs ++ c :: rest).takeWhile NumberToken.isNameChar
      = cs ++ c :: rest.takeWhile NumberToken.isNameChar := by
    rw [hsplit, List.takeWhile_append_of_pos hword, List.append_assoc, List.singleton_append]
  rw [readName, hname, hgaps, htaken]
  exact prefix_normalForm (isAscii_of_forall_isAsciiWord h)

end RecordForge.Text

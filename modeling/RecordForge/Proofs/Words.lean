import RecordForge.Naming
import RecordForge.Proofs.LetterCase
import RecordForge.Proofs.PlainNames
import RecordForge.Text.Cut

/-!
# Words of a name

A capital word is an ASCII capital with small letters and digits behind it. In lower case a word can
be told from its neighbours by an underscore between them, since it holds none, and has its capital
back by its first letter; so a row of words can be read back from its snake case (`words_of_snake`).
It can also be read back from the words set one after the other, since they begin where the capitals
are (`words_of_flatten`).
-/

namespace RecordForge.Naming

open RecordForge.Text

/-- A small letter or a digit of the ASCII range. -/
def isSmall (c : Char) : Bool :=
  c.isLower || c.isDigit

/-- A capital followed by small letters and digits, if by anything. -/
def isCapitalWord : List Char → Bool
  | [] => false
  | c :: rest => c.isUpper && rest.all isSmall

variable {word : List Char} {words words' : List (List Char)} {c : Char}

theorem exists_of_isCapitalWord (h : isCapitalWord word = true) :
    ∃ c rest, word = c :: rest ∧ c.isUpper = true ∧ ∀ d ∈ rest, isSmall d = true := by
  cases word with
  | nil => exact absurd h (by decide)
  | cons c rest =>
    simp only [isCapitalWord, Bool.and_eq_true, List.all_eq_true] at h
    exact ⟨c, rest, rfl, h.1, h.2⟩

/-! ## Characters of words -/

/-- Word characters are capitals, small characters and the underscore. -/
theorem isAsciiWord_eq (c : Char) : isAsciiWord c = (c.isUpper || isSmall c || c = '_') := by
  have halphanum : c.isAlphanum = (c.isUpper || c.isLower || c.isDigit) := rfl
  rw [isAsciiWord, halphanum, isSmall, Bool.or_assoc c.isUpper]

theorem isAsciiWord_of_isSmall (h : isSmall c = true) : isAsciiWord c = true := by
  simp [isAsciiWord_eq, h]

theorem isAsciiWord_of_isUpper (h : c.isUpper = true) : isAsciiWord c = true := by
  simp [isAsciiWord_eq, h]

/-- Small characters stay as they are in lower case. -/
theorem toLower_of_isSmall (h : isSmall c = true) : c.isUpper = false ∧ c.toLower = c := by
  have hall : ∀ n : Fin 128, isSmall (Char.ofNat n) = true →
      (Char.ofNat n).isUpper = false ∧ (Char.ofNat n).toLower = Char.ofNat n := by
    decide
  exact forall_ascii (p := fun c => isSmall c = true → c.isUpper = false ∧ c.toLower = c) hall
    (toNat_lt_of_isAsciiWord (isAsciiWord_of_isSmall h)) h

/-- A capital becomes a small letter, from which it can be had back. -/
theorem toLower_of_isUpper (h : c.isUpper = true) :
    isSmall c.toLower = true ∧ c.toLower.toUpper = c := by
  have hall : ∀ n : Fin 128, (Char.ofNat n).isUpper = true →
      isSmall (Char.ofNat n).toLower = true ∧ (Char.ofNat n).toLower.toUpper = Char.ofNat n := by
    decide
  exact forall_ascii
    (p := fun c => c.isUpper = true → isSmall c.toLower = true ∧ c.toLower.toUpper = c) hall
    (toNat_lt_of_isUpper h) h

/-- A capital stays as it is in upper case. -/
theorem toUpper_of_isUpper (h : c.isUpper = true) : c.toUpper = c := by
  have hall : ∀ n : Fin 128, (Char.ofNat n).isUpper = true →
      (Char.ofNat n).toUpper = Char.ofNat n := by
    decide
  exact forall_ascii (p := fun c => c.isUpper = true → c.toUpper = c) hall
    (toNat_lt_of_isUpper h) h

theorem isAsciiWord_of_mem (h : isCapitalWord word = true) :
    ∀ c ∈ word, isAsciiWord c = true := by
  obtain ⟨c, rest, rfl, hc, hrest⟩ := exists_of_isCapitalWord h
  exact List.forall_mem_cons.mpr
    ⟨isAsciiWord_of_isUpper hc, fun d hd => isAsciiWord_of_isSmall (hrest d hd)⟩

theorem underscore_not_mem (h : isCapitalWord word = true) : '_' ∉ word := by
  obtain ⟨c, rest, rfl, hc, hrest⟩ := exists_of_isCapitalWord h
  rw [List.mem_cons, not_or]
  refine ⟨?_, fun hin => absurd (hrest _ hin) (by decide)⟩
  rintro rfl
  exact absurd hc (by decide)

/-! ## Words in lower case -/

/-- A word in lower case holds small characters only. -/
theorem isSmall_of_mem_map_toLower (h : isCapitalWord word = true) :
    ∀ c ∈ word.map Char.toLower, isSmall c = true := by
  obtain ⟨c, rest, rfl, hc, hrest⟩ := exists_of_isCapitalWord h
  rw [List.map_cons, List.forall_mem_cons]
  refine ⟨(toLower_of_isUpper hc).1, List.forall_mem_map.mpr fun d hd => ?_⟩
  rw [(toLower_of_isSmall (hrest d hd)).2]
  exact hrest d hd

/-- Gives a word in lower case its capital back. -/
def recapitalize : List Char → List Char
  | [] => []
  | c :: rest => c.toUpper :: rest

theorem recapitalize_map_toLower (h : isCapitalWord word = true) :
    recapitalize (word.map Char.toLower) = word := by
  obtain ⟨c, rest, rfl, hc, hrest⟩ := exists_of_isCapitalWord h
  have hsame : rest.map Char.toLower = rest :=
    (List.map_congr_left fun d hd => (toLower_of_isSmall (hrest d hd)).2).trans (List.map_id' rest)
  rw [List.map_cons, hsame, recapitalize, (toLower_of_isUpper hc).2]

/-- The words in lower case, with underscores between them. -/
def snake (words : List (List Char)) : List Char :=
  joinWith '_' (words.map (·.map Char.toLower))

/-- **The words can be read back** from their snake case. -/
theorem words_of_snake (hne : words ≠ []) (h : ∀ word ∈ words, isCapitalWord word = true) :
    (cutAt '_' (snake words)).map recapitalize = words := by
  have hmark : ∀ part ∈ words.map (·.map Char.toLower), '_' ∉ part := by
    rw [List.forall_mem_map]
    intro word hword hin
    exact absurd (isSmall_of_mem_map_toLower (h word hword) _ hin) (by decide)
  rw [snake, cutAt_joinWith (mt List.map_eq_nil_iff.mp hne) hmark, List.map_map]
  exact (List.map_congr_left fun word hword => recapitalize_map_toLower (h word hword)).trans
    (List.map_id' words)

/-- Words with the same snake case are the same words. -/
theorem snake_injective (hne : words ≠ []) (h : ∀ word ∈ words, isCapitalWord word = true)
    (hne' : words' ≠ []) (h' : ∀ word ∈ words', isCapitalWord word = true)
    (heq : snake words = snake words') : words = words' := by
  rw [← words_of_snake hne h, heq, words_of_snake hne' h']

/-! ## Words set one after the other -/

/-- A word is broken before its capital, and nowhere else. -/
theorem breakCapitals_word (h : isCapitalWord word = true) : breakCapitals word = '_' :: word := by
  obtain ⟨c, rest, rfl, hc, hrest⟩ := exists_of_isCapitalWord h
  have hkept : rest.flatMap (fun d => if d.isUpper then ['_', d] else [d]) = rest := by
    rw [List.flatMap_congr fun d hd => by rw [(toLower_of_isSmall (hrest d hd)).1]]
    simp
  rw [breakCapitals, List.flatMap_cons, hc, if_pos rfl, hkept]
  rfl

/-- A row of words is broken in front of each of them. -/
theorem breakCapitals_flatten (hne : words ≠ [])
    (h : ∀ word ∈ words, isCapitalWord word = true) :
    breakCapitals words.flatten = '_' :: joinWith '_' words := by
  induction words with
  | nil => exact absurd rfl hne
  | cons word words ih =>
    obtain ⟨hword, hwords⟩ := List.forall_mem_cons.mp h
    have hsplit : breakCapitals (word :: words).flatten
        = '_' :: word ++ breakCapitals words.flatten := by
      rw [← breakCapitals_word hword, List.flatten_cons, breakCapitals, List.flatMap_append]
      rfl
    rw [hsplit]
    cases words with
    | nil => simp [breakCapitals, joinWith]
    | cons next words =>
      rw [ih (List.cons_ne_nil _ _) hwords, joinWith_cons_cons, List.cons_append]

/-- **The words can be read back** from the text in which they follow each other. -/
theorem words_of_flatten (hne : words ≠ []) (h : ∀ word ∈ words, isCapitalWord word = true) :
    cutAt '_' (breakCapitals words.flatten).tail = words := by
  rw [breakCapitals_flatten hne h, List.tail_cons]
  exact cutAt_joinWith hne fun word hword => underscore_not_mem (h word hword)

/-- Words that make up the same text are the same words. -/
theorem flatten_injective (hne : words ≠ []) (h : ∀ word ∈ words, isCapitalWord word = true)
    (hne' : words' ≠ []) (h' : ∀ word ∈ words', isCapitalWord word = true)
    (heq : words.flatten = words'.flatten) : words = words' := by
  rw [← words_of_flatten hne h, heq, words_of_flatten hne' h']

end RecordForge.Naming

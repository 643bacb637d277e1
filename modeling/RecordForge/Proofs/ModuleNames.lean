import RecordForge.Config
import RecordForge.Files.Writer
import RecordForge.Proofs.Words

/-!
# Names of modules

A conventional name is a row of capitalized words. The module of a class named by such a row and a
suffix is named by the words in lower case with underscores between them, followed by what comes of
the suffix (`toList_moduleName`), and the words can be read back from there. Of the default suffix
`_db_object` comes (`moduleName_defaultSuffix`). What comes of another one may depend on the words,
by a final sigma, but its length does not. So different conventional names give different modules,
also under the names of their packages (`qualifiedModule_injective`).
-/

namespace RecordForge

open RecordForge.Text

namespace Naming

/-! ## Words -/

/-- A capital followed by small letters and digits, at least one. -/
def isCapitalized : List Char → Bool
  | [] => false
  | c :: rest => c.isUpper && rest ≠ [] && rest.all isSmall

/-- A name that is a row of capitalized words. -/
def IsConventional (name : String) : Prop :=
  ∃ words : List (List Char), words ≠ [] ∧ (∀ word ∈ words, isCapitalized word = true)
    ∧ name.toList = words.flatten

variable {word : List Char} {words : List (List Char)}

theorem exists_of_isCapitalized (h : isCapitalized word = true) :
    ∃ c rest, word = c :: rest ∧ c.isUpper = true ∧ rest ≠ [] ∧ ∀ d ∈ rest, isSmall d = true := by
  cases word with
  | nil => exact absurd h (by decide)
  | cons c rest =>
    simp only [isCapitalized, Bool.and_eq_true, decide_eq_true_eq, List.all_eq_true] at h
    exact ⟨c, rest, rfl, h.1.1, h.1.2, h.2⟩

theorem isCapitalWord_of_isCapitalized (h : isCapitalized word = true) :
    isCapitalWord word = true := by
  obtain ⟨c, rest, rfl, hc, -, hrest⟩ := exists_of_isCapitalized h
  simpa [isCapitalWord, hc] using hrest

theorem forall_isCapitalWord (h : ∀ word ∈ words, isCapitalized word = true) :
    ∀ word ∈ words, isCapitalWord word = true :=
  fun word hword => isCapitalWord_of_isCapitalized (h word hword)

theorem point_not_mem_snake (h : ∀ word ∈ words, isCapitalWord word = true) :
    '.' ∉ snake words := by
  intro hin
  rcases mem_joinWith hin with hmark | ⟨part, hpart, hin⟩
  · exact absurd hmark (by decide)
  · obtain ⟨word, hword, rfl⟩ := List.mem_map.mp hpart
    exact absurd (isSmall_of_mem_map_toLower (h word hword) _ hin) (by decide)

/-! ## The module of a conventional name -/

variable {rest : List Char}

/-- After a small character it makes no difference which one it was. -/
theorem breakWords_of_isSmall {b : Char} (hb : isSmall b = true) (cs : List Char) :
    breakWords (some b) cs = breakWords (some 'a') cs := by
  cases cs with
  | nil => rfl
  | cons c rest =>
    rw [isSmall] at hb
    simp [breakWords, breaksBefore, hb]

/-- There is no break before small characters. -/
theorem breakWords_append_small {small : List Char} (hne : small ≠ [])
    (h : ∀ c ∈ small, isSmall c = true) (rest : List Char) :
    ∀ before, breakWords before (small ++ rest) = small ++ breakWords (some 'a') rest := by
  induction small with
  | nil => exact absurd rfl hne
  | cons c small ih =>
    intro before
    obtain ⟨hc, hsmall⟩ := List.forall_mem_cons.mp h
    have hbreak : ∀ after, breaksBefore before c after = false := by
      intro after
      rw [breaksBefore, (toLower_of_isSmall hc).1, Bool.false_and]
    rw [List.cons_append, breakWords, if_neg (by simp [hbreak])]
    cases small with
    | nil => rw [List.nil_append, breakWords_of_isSmall hc, List.singleton_append]
    | cons d small =>
      rw [ih (List.cons_ne_nil _ _) hsmall]
      rfl

/-- A word has a break before it, unless it is the first one, and none within. -/
theorem breakWords_append_word (h : isCapitalized word = true) (rest : List Char) :
    breakWords none (word ++ rest) = word ++ breakWords (some 'a') rest
      ∧ breakWords (some 'a') (word ++ rest) = '_' :: word ++ breakWords (some 'a') rest := by
  obtain ⟨c, tail, rfl, hc, hne, htail⟩ := exists_of_isCapitalized h
  have hsmall : ∀ before, breakWords before (tail ++ rest) = tail ++ breakWords (some 'a') rest :=
    breakWords_append_small hne htail rest
  have hfirst : ∀ after, breaksBefore none c after = false := by
    intro after
    simp [breaksBefore]
  have hlater : ∀ after, breaksBefore (some 'a') c after = true := by
    intro after
    simp [breaksBefore, hc]
  constructor
  · rw [List.cons_append, breakWords, if_neg (by simp [hfirst]), hsmall, List.cons_append]
  · rw [List.cons_append, breakWords, if_pos (hlater _), hsmall, List.cons_append, List.cons_append]

/-- The breaks of a row of words are those between them. -/
theorem breakWords_append_words (hne : words ≠ [])
    (h : ∀ word ∈ words, isCapitalized word = true) (rest : List Char) :
    breakWords none (words.flatten ++ rest)
        = joinWith '_' words ++ breakWords (some 'a') rest
      ∧ breakWords (some 'a') (words.flatten ++ rest)
        = '_' :: joinWith '_' words ++ breakWords (some 'a') rest := by
  -- Both at once, since after its first word a row goes on like one that follows a word.
  induction words with
  | nil => exact absurd rfl hne
  | cons word words ih =>
    obtain ⟨hword, hwords⟩ := List.forall_mem_cons.mp h
    cases words with
    | nil => simpa [joinWith] using breakWords_append_word hword rest
    | cons next words =>
      obtain ⟨hfirst, hlater⟩ := breakWords_append_word hword ((next :: words).flatten ++ rest)
      obtain ⟨-, hnext⟩ := ih (List.cons_ne_nil _ _) hwords
      rw [List.flatten_cons, List.append_assoc, hfirst, hlater, hnext, joinWith_cons_cons]
      simp

/-- **The module of a class with a conventional name** is named by the words in lower case, with
underscores between them, and by what comes of the suffix. -/
theorem toList_moduleName (hne : words ≠ []) (h : ∀ word ∈ words, isCapitalized word = true)
    {name : String} (hname : name.toList = words.flatten) (suffix : String) :
    (moduleName (className name suffix)).toList
      = snake words ++ lowerAfter (joinWith '_' words).reverse
          (breakWords (some 'a') suffix.toList) := by
  have hascii : Text.isAscii (joinWith '_' words) = true := by
    apply isAscii_of_forall_isAsciiWord
    intro c hc
    rcases mem_joinWith hc with rfl | ⟨word, hword, hin⟩
    · decide
    · exact isAsciiWord_of_mem (isCapitalWord_of_isCapitalized (h word hword)) c hin
  rw [moduleName, String.toList_ofList, className, String.toList_append, hname,
    (breakWords_append_words hne h suffix.toList).1, lower, lowerAfter_append_of_ascii hascii,
    map_joinWith, List.append_nil]
  rfl

/-! ## The default suffix -/

/-- What comes of the default suffix: it is broken at its two words, the first of which is an
acronym. -/
theorem lowerAfter_defaultSuffix (before : List Char) :
    lowerAfter before (breakWords (some 'a') ({} : Config).classSuffix.toList)
      = "_db_object".toList := by
  have hbreak : breakWords (some 'a') ({} : Config).classSuffix.toList = "_DB_Object".toList := by
    decide
  have hascii : isAscii "_DB_Object".toList = true := by decide
  have hlower := lowerAfter_append_of_ascii hascii [] before
  rw [List.append_nil, lowerAfter] at hlower
  rw [hbreak, hlower]
  decide

/-- **With the default suffix the module of a class is named by its words**, in lower case with
underscores between them, and `_db_object`; so types named by different words have modules of
different names. -/
theorem moduleName_defaultSuffix (words words' : List (List Char)) (hne : words ≠ [])
    (h : ∀ word ∈ words, isCapitalized word = true) (hne' : words' ≠ [])
    (h' : ∀ word ∈ words', isCapitalized word = true) :
    moduleName (className (String.ofList words.flatten) ({} : Config).classSuffix)
        = String.ofList (snake words ++ "_db_object".toList)
      ∧ (moduleName (className (String.ofList words.flatten) ({} : Config).classSuffix)
          = moduleName (className (String.ofList words'.flatten) ({} : Config).classSuffix)
        ↔ words = words') := by
  have hmodule : ∀ row : List (List Char), row ≠ [] →
      (∀ word ∈ row, isCapitalized word = true) →
      moduleName (className (String.ofList row.flatten) ({} : Config).classSuffix)
        = String.ofList (snake row ++ "_db_object".toList) := by
    intro row hrow hwords
    apply String.toList_inj.mp
    rw [toList_moduleName hrow hwords String.toList_ofList, lowerAfter_defaultSuffix]
    exact String.toList_ofList.symm
  refine ⟨hmodule words hne h, fun heq => ?_, fun heq => heq ▸ rfl⟩
  rw [hmodule words hne h, hmodule words' hne' h', String.ofList_inj] at heq
  exact snake_injective hne (forall_isCapitalWord h) hne' (forall_isCapitalWord h')
    (List.append_cancel_right heq)

/-- The modules of two types that differ in the first of two words, one of them with a digit. -/
theorem moduleName_http2Server :
    moduleName (className "Http2Server" ({} : Config).classSuffix) = "http2_server_db_object"
      ∧ moduleName (className "Http2Server" ({} : Config).classSuffix)
        ≠ moduleName (className "WebServer" ({} : Config).classSuffix) := by
  obtain ⟨hname, hiff⟩ := moduleName_defaultSuffix ["Http2".toList, "Server".toList]
    ["Web".toList, "Server".toList] (by decide) (by decide) (by decide) (by decide)
  exact ⟨hname, fun heq => absurd (hiff.mp heq) (by decide)⟩

/-! ## Modules in packages -/

/-- What the name of a module in a package begins with. -/
def packagePrefix (package : String) : List Char :=
  if package = "" then [] else package.toList ++ ['.']

theorem toList_qualifiedModule (package module : String) :
    (Writer.qualifiedModule package module).toList = packagePrefix package ++ module.toList := by
  unfold Writer.qualifiedModule packagePrefix
  split
  next => rfl
  next => simp

/-- A package is known by what the names of its modules begin with. -/
theorem packagePrefix_injective {package package' : String}
    (h : packagePrefix package = packagePrefix package') : package = package' := by
  unfold packagePrefix at h
  split at h
  next hempty =>
    split at h
    next hempty' => rw [hempty, hempty']
    next => simp at h
  next =>
    split at h
    next => simp at h
    next => exact String.toList_inj.mp (List.append_cancel_right h)

/-- What the name begins with ends in a point, unless it is empty. -/
theorem eq_nil_of_packagePrefix {package : String} {front back : List Char}
    (h : packagePrefix package = front ++ back) (hpoint : '.' ∉ back) : back = [] := by
  by_contra hne
  unfold packagePrefix at h
  split at h
  next => exact hne (List.append_eq_nil_iff.mp h.symm).2
  next =>
    have hlast := congrArg List.getLast? h
    rw [List.getLast?_concat, List.getLast?_append_of_ne_nil _ hne] at hlast
    exact hpoint (List.mem_of_getLast? hlast.symm)

/-- The last point of a text is where the package ends. -/
theorem packagePrefix_append_injective {package package' : String} {cs cs' : List Char}
    (h : '.' ∉ cs) (h' : '.' ∉ cs')
    (heq : packagePrefix package ++ cs = packagePrefix package' ++ cs') :
    package = package' ∧ cs = cs' := by
  rcases List.append_eq_append_iff.mp heq with ⟨between, hlonger, rfl⟩ | ⟨between, hlonger, rfl⟩
  · obtain rfl := eq_nil_of_packagePrefix hlonger fun hin => h (List.mem_append_left _ hin)
    rw [List.append_nil] at hlonger
    exact ⟨(packagePrefix_injective hlonger).symm, rfl⟩
  · obtain rfl := eq_nil_of_packagePrefix hlonger fun hin => h' (List.mem_append_left _ hin)
    rw [List.append_nil] at hlonger
    exact ⟨packagePrefix_injective hlonger, rfl⟩

/-- **Different conventional names give different modules**, whatever the suffix, and in whatever
packages they are. -/
theorem qualifiedModule_injective {name name' : String} (h : IsConventional name)
    (h' : IsConventional name') {suffix package package' : String}
    (heq : Writer.qualifiedModule package (moduleName (className name suffix))
      = Writer.qualifiedModule package' (moduleName (className name' suffix))) :
    package = package' ∧ name = name' := by
  obtain ⟨words, hne, hwords, hname⟩ := h
  obtain ⟨words', hne', hwords', hname'⟩ := h'
  have hcapital := forall_isCapitalWord hwords
  have hcapital' := forall_isCapitalWord hwords'
  have htext := congrArg String.toList heq
  rw [toList_qualifiedModule, toList_qualifiedModule, toList_moduleName hne hwords hname,
    toList_moduleName hne' hwords' hname', ← List.append_assoc, ← List.append_assoc] at htext
  -- What comes of the suffix is of one length, so that it can be cut off on both sides.
  obtain ⟨hfront, -⟩ := List.append_inj' htext (length_lowerAfter _ _ _)
  obtain ⟨hpackage, hsnake⟩ :=
    packagePrefix_append_injective (point_not_mem_snake hcapital) (point_not_mem_snake hcapital')
      hfront
  refine ⟨hpackage, String.toList_inj.mp ?_⟩
  rw [hname, hname', snake_injective hne hcapital hne' hcapital' hsnake]

end Naming

end RecordForge

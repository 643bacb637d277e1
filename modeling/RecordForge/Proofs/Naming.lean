import RecordForge.ColumnSpec
import RecordForge.Proofs.LetterCase
import RecordForge.Proofs.NumberTexts
import RecordForge.Proofs.PlainNames
import RecordForge.Proofs.Steps

/-!
# The names of a field

What the names that a field gives rise to look like, over all identifiers. Constants begin with
`COLUMN_`, getters with `get`, setters with `set`, so the three never meet. Of the operations of a
record exactly those of `recordWords` can be the name of an accessor, and `hidingIdentifiers` lists
the identifiers whose accessors take such a name (`accessorName_mem_recordMethods_iff`).

For a field whose identifier is of word characters the constant and the accessor names are always
plain. The parameter of the setter is what is left of the identifier without its mark, so it fails
to be an identifier exactly when a digit follows the mark (`isIdentifier_parameter_iff`).
-/

namespace RecordForge.Naming

open RecordForge.Text

-- The tables of characters and of reserved words are decided line by line.
set_option maxRecDepth 4000

/-! ## What names begin with -/

theorem toList_constantName (column : String) :
    (constantName column).toList
      = "COLUMN_".toList ++ upper (column.toList.map fun c => if isWord c then c else '_') := by
  rw [constantName, String.toList_append, String.toList_ofList, String.toList_ofList]

theorem toList_accessorName {identifier : String} (h : identifier ≠ "") (kind : AccessorKind) :
    (accessorName identifier kind).toList
      = kind.verb ++ capitalize (dropMark identifier.toList) := by
  rw [accessorName, if_neg h, String.toList_ofList]

/-- Constants, getters and setters differ in their first letter. -/
theorem head?_constantName (column : String) : (constantName column).toList.head? = some 'C' := by
  rw [toList_constantName]
  rfl

theorem head?_getterName {identifier : String} (h : identifier ≠ "") :
    (accessorName identifier .getter).toList.head? = some 'g' := by
  rw [toList_accessorName h]
  rfl

theorem head?_setterName {identifier : String} (h : identifier ≠ "") :
    (accessorName identifier .setter).toList.head? = some 's' := by
  rw [toList_accessorName h]
  rfl

/-! ## Accessors that take the name of an operation of records -/

/-- What follows the verb in the names of the operations that fetch something from a record. -/
def recordWords : List String :=
  ["_template", "_value", "_integer_value", "_long_value", "_text_value", "_double_value"]

/-- The identifiers with an accessor that takes the name of an operation of records: those words,
bare or behind a member mark. -/
def hidingIdentifiers : List String :=
  recordWords.flatMap fun word => [word, "m" ++ word, "s" ++ word]

/-- A capitalised text begins with an underscore exactly when the text does. -/
theorem capitalize_eq_iff {cs word : List Char} :
    capitalize cs = '_' :: word ↔ cs = '_' :: word := by
  constructor
  · intro h
    cases cs with
    | nil => exact absurd h (by simp [capitalize])
    | cons c rest =>
      rw [capitalize] at h
      have hhead : (upperChar c).head? = some '_' := by
        obtain ⟨d, ds, hd⟩ := List.exists_cons_of_ne_nil (upperChar_ne_nil c)
        rw [hd, List.cons_append] at h
        rw [hd, List.head?_cons, (List.cons.inj h).1]
      obtain rfl := eq_underscore_of_head?_upperChar hhead
      exact h
  · rintro rfl
    rfl

/-- What is left of an identifier without its mark begins with an underscore exactly when the
identifier does, perhaps behind a mark. -/
theorem dropMark_eq_iff {cs word : List Char} :
    dropMark cs = '_' :: word
      ↔ cs = '_' :: word ∨ cs = 'm' :: '_' :: word ∨ cs = 's' :: '_' :: word := by
  cases cs with
  | nil => simp [dropMark]
  | cons c rest =>
    cases rest with
    | nil => simp [dropMark]
    | cons d rest =>
      by_cases hmark : isMemberMark c
      · have hc : c = 'm' ∨ c = 's' := by simpa [isMemberMark] using hmark
        rcases hc with rfl | rfl <;> simp [dropMark, hmark]
      · have hm : c ≠ 'm' := fun h => hmark (by simp [isMemberMark, h])
        have hs : c ≠ 's' := fun h => hmark (by simp [isMemberMark, h])
        simp [dropMark, hmark, hm, hs]

theorem accessorName_eq_iff {identifier : String} (h : identifier ≠ "") {kind : AccessorKind}
    {name : String} :
    accessorName identifier kind = name
      ↔ kind.verb ++ capitalize (dropMark identifier.toList) = name.toList := by
  rw [← String.toList_inj, toList_accessorName h]

/-- A getter takes the name of an operation of records exactly if one of the words is left of the
identifier. -/
theorem getterName_mem_iff {identifier : String} (h : identifier ≠ "") :
    accessorName identifier .getter ∈ LoadedClass.recordMethods
      ↔ ∃ word ∈ recordWords, dropMark identifier.toList = word.toList := by
  simp [LoadedClass.recordMethods, typedRetrievals, recordWords, accessorName_eq_iff h,
    AccessorKind.verb, capitalize_eq_iff]

/-- The only operation of records that a setter can take the name of is `set_value`. -/
theorem setterName_mem_iff {identifier : String} (h : identifier ≠ "") :
    accessorName identifier .setter ∈ LoadedClass.recordMethods
      ↔ dropMark identifier.toList = "_value".toList := by
  simp [LoadedClass.recordMethods, typedRetrievals, accessorName_eq_iff h, AccessorKind.verb,
    capitalize_eq_iff]

/-- An identifier is one of the listed ones exactly if one of the words is left of it. -/
theorem mem_hidingIdentifiers_iff {identifier : String} :
    identifier ∈ hidingIdentifiers
      ↔ ∃ word ∈ recordWords, dropMark identifier.toList = word.toList := by
  have hunderscore : ∀ word ∈ recordWords, word.toList.head? = some '_' := by decide
  rw [hidingIdentifiers, List.mem_flatMap]
  refine exists_congr fun word => and_congr_right fun hword => ?_
  obtain ⟨rest, hrest⟩ := List.head?_eq_some_iff.mp (hunderscore word hword)
  rw [hrest, dropMark_eq_iff, ← hrest]
  simp [← String.toList_inj]

/-- **The identifiers that hide an operation of records**: one of the accessors takes the name of
an operation exactly for the listed identifiers, and then the getter does. -/
theorem accessorName_mem_recordMethods_iff {identifier : String} (h : identifier ≠ "") :
    (accessorName identifier .getter ∈ LoadedClass.recordMethods
        ∨ accessorName identifier .setter ∈ LoadedClass.recordMethods)
      ↔ identifier ∈ hidingIdentifiers := by
  have hsetter : accessorName identifier .setter ∈ LoadedClass.recordMethods →
      accessorName identifier .getter ∈ LoadedClass.recordMethods := by
    rw [setterName_mem_iff h, getterName_mem_iff h]
    exact fun hword => ⟨"_value", by decide, hword⟩
  rw [or_iff_left_of_imp hsetter, getterName_mem_iff h, mem_hidingIdentifiers_iff]

/-! ## Legal names -/

theorem mem_dropMark {cs : List Char} {c : Char} (h : c ∈ dropMark cs) : c ∈ cs := by
  unfold dropMark at h
  split at h
  next c' d rest =>
    split at h
    next => exact List.mem_cons_of_mem _ h
    next => exact h
  next => exact h

theorem dropMark_ne_nil {cs : List Char} (h : cs ≠ []) : dropMark cs ≠ [] := by
  unfold dropMark
  split
  next c d rest => split <;> simp
  next => exact h

/-- The column name of a field of word characters is of word characters. -/
theorem isAsciiWord_of_mem_columnName {identifier : String}
    (h : ∀ c ∈ identifier.toList, isAsciiWord c = true) :
    ∀ c ∈ (columnName identifier).toList, isAsciiWord c = true := by
  have hbroken : ∀ c ∈ breakCapitals identifier.toList, isAsciiWord c = true := by
    intro c hc
    obtain ⟨d, hd, hin⟩ := List.mem_flatMap.mp hc
    split at hin
    next =>
      rcases List.mem_cons.mp hin with rfl | hin
      · decide
      · rw [List.mem_singleton.mp hin]
        exact h d hd
    next =>
      rw [List.mem_singleton.mp hin]
      exact h d hd
  have hlower : ∀ c ∈ lower (breakCapitals identifier.toList), isAsciiWord c = true := by
    rw [lower_eq_map (isAscii_of_forall_isAsciiWord hbroken)]
    intro c hc
    obtain ⟨d, hd, rfl⟩ := List.mem_map.mp hc
    exact (isAsciiWord_toLower (hbroken d hd)).1
  intro c hc
  rw [columnName, String.toList_ofList] at hc
  unfold dropMarkedUnderscore at hc
  split at hc
  next heq =>
    split at hc
    next =>
      exact hlower c (heq ▸ List.mem_cons_of_mem _ (List.mem_cons_of_mem _ hc))
    next => exact hlower c (heq ▸ hc)
  next => exact hlower c hc

/-- The constant of a column of word characters is plain. -/
theorem isPlainName_constantName {column : String}
    (h : ∀ c ∈ column.toList, isAsciiWord c = true) : isPlainName (constantName column) = true := by
  have hkept : ∀ c ∈ column.toList.map (fun c => if isWord c then c else '_'),
      isAsciiWord c = true := by
    intro c hc
    obtain ⟨d, hd, rfl⟩ := List.mem_map.mp hc
    split
    next => exact h d hd
    next => decide
  have hname : constantName column = String.ofList
      ("COLUMN_".toList ++ upper (column.toList.map fun c => if isWord c then c else '_')) := by
    rw [← String.toList_inj, toList_constantName, String.toList_ofList, String.toList_ofList]
  rw [hname, upper_eq_map (isAscii_of_forall_isAsciiWord hkept)]
  apply isPlainName_append (by decide) (by decide) (by decide)
  intro c hc
  obtain ⟨d, hd, rfl⟩ := List.mem_map.mp hc
  exact isAsciiWord_toUpper (hkept d hd)

/-- The accessors of a field of word characters have plain names. -/
theorem isPlainName_accessorName {identifier : String} (hne : identifier ≠ "")
    (h : ∀ c ∈ identifier.toList, isAsciiWord c = true) (kind : AccessorKind) :
    isPlainName (accessorName identifier kind) = true := by
  have hcapital : ∀ c ∈ capitalize (dropMark identifier.toList), isAsciiWord c = true := by
    cases hcs : dropMark identifier.toList with
    | nil => simp [capitalize]
    | cons c rest =>
      have hword : ∀ d ∈ c :: rest, isAsciiWord d = true :=
        fun d hd => h d (mem_dropMark (hcs ▸ hd))
      have hc := hword c (List.mem_cons_self ..)
      rw [capitalize, upperChar_eq_of_ascii (toNat_lt_of_isAsciiWord hc)]
      intro d hd
      rcases List.mem_cons.mp hd with rfl | hin
      · exact isAsciiWord_toUpper hc
      · exact hword d (List.mem_cons_of_mem _ hin)
  have hname : accessorName identifier kind
      = String.ofList (kind.verb ++ capitalize (dropMark identifier.toList)) := by
    rw [accessorName, if_neg hne]
  rw [hname]
  cases kind with
  | getter => exact isPlainName_append (by decide) (by decide) (by decide) hcapital
  | setter => exact isPlainName_append (by decide) (by decide) (by decide) hcapital

/-! ## The constants of versions -/

/-- The name of the constant that holds the columns of a version, if the version has a text. -/
def versionConstant (version : Int) : String :=
  versionColumnsNamed (toString version)

theorem versionColumnsName_eq_ok_iff {version : Int} {name : String} :
    versionColumnsName (.int version) = .ok name
      ↔ (Value.int version).isWritable = true ∧ name = versionConstant version := by
  rw [versionColumnsName, map_eq_ok_iff]
  simp only [Value.write_eq_ok_iff]
  constructor
  · rintro ⟨text, ⟨hwritable, rfl⟩, rfl⟩
    exact ⟨hwritable, rfl⟩
  · rintro ⟨hwritable, rfl⟩
    exact ⟨_, ⟨hwritable, rfl⟩, rfl⟩

theorem toList_versionConstant (n : Nat) :
    (versionConstant n).toList = "COLUMNS_VER".toList ++ Nat.toDigits 10 n := by
  rw [versionConstant, versionColumnsNamed, String.toList_append, ← Nat.toList_repr]
  rfl

/-- The constant of a version that is not negative is plain. -/
theorem isPlainName_versionConstant {version : Int} (h : 0 ≤ version) :
    isPlainName (versionConstant version) = true := by
  obtain ⟨n, rfl⟩ := Int.eq_ofNat_of_zero_le h
  have hname : versionConstant n
      = String.ofList ("COLUMNS_VER".toList ++ Nat.toDigits 10 n) := by
    rw [← String.toList_inj, toList_versionConstant, String.toList_ofList, String.toList_ofList]
  rw [hname]
  apply isPlainName_append (by decide) (by decide) (by decide)
  intro c hc
  have hdigit := Nat.isDigit_of_mem_toDigits (by decide) (by decide) hc
  simp [isAsciiWord, Char.isAlphanum, hdigit]

/-- Versions that are not negative have constants of their own. -/
theorem versionConstant_injOn {v w : Int} (hv : 0 ≤ v) (hw : 0 ≤ w)
    (h : versionConstant v = versionConstant w) : v = w := by
  obtain ⟨m, rfl⟩ := Int.eq_ofNat_of_zero_le hv
  obtain ⟨n, rfl⟩ := Int.eq_ofNat_of_zero_le hw
  have hdigits : Nat.toDigits 10 m = Nat.toDigits 10 n := by
    have hlists := congrArg String.toList h
    rw [toList_versionConstant, toList_versionConstant] at hlists
    exact List.append_cancel_left hlists
  exact congrArg _ (Numeral.toDigits_injective hdigits)

/-! ## Parameters -/

/-- A name that is taken gets an underscore, and any other name is safe as it is. -/
theorem safeParameter_cases (name : String) :
    (name ∈ "self" :: keywords ∧ safeParameter name = name ++ "_")
      ∨ (isKeyword name = false ∧ name ≠ "self" ∧ safeParameter name = name) := by
  by_cases h : isKeyword name ∨ name = "self"
  · rw [safeParameter, if_pos h]
    refine Or.inl ⟨?_, rfl⟩
    rcases h with h | h
    · exact List.mem_cons_of_mem _ (by simpa [isKeyword] using h)
    · exact h ▸ List.mem_cons_self ..
  · rw [safeParameter, if_neg h]
    exact Or.inr (by simpa using h)

/-- A safe parameter is neither a reserved word nor the receiver. -/
theorem safeParameter_free (name : String) :
    isKeyword (safeParameter name) = false ∧ safeParameter name ≠ "self" := by
  have htaken : ∀ k ∈ "self" :: keywords, isKeyword (k ++ "_") = false ∧ k ++ "_" ≠ "self" := by
    decide
  rcases safeParameter_cases name with ⟨hin, hsafe⟩ | ⟨hkeyword, hself, hsafe⟩
  · rw [hsafe]
    exact htaken name hin
  · rw [hsafe]
    exact ⟨hkeyword, hself⟩

/-- Whether an identifier is a member mark with a digit behind it. -/
def marksDigit : List Char → Bool
  | c :: d :: _ => isMemberMark c && d.isDigit
  | _ => false

/-- What is left of an identifier begins with a digit exactly if its mark stood before one. -/
theorem head?_dropMark_isDigit {cs : List Char} (h : cs.head?.any Char.isDigit = false) :
    (dropMark cs).head?.any Char.isDigit = marksDigit cs := by
  cases cs with
  | nil => rfl
  | cons c rest =>
    cases rest with
    | nil => simpa [dropMark, marksDigit] using h
    | cons d rest =>
      by_cases hmark : isMemberMark c
      · simp [dropMark, marksDigit, hmark]
      · simpa [dropMark, marksDigit, hmark] using h

/-- The parameter is what is left of the identifier, its first letter lower-cased. -/
theorem toList_parameterName {identifier : String} {c : Char} {rest : List Char}
    (hleft : dropMark identifier.toList = c :: rest) (hc : c.toNat < 0x80) :
    (parameterName identifier).toList = c.toLower :: rest := by
  have hascii : isAscii [c] = true := by simpa [isAscii] using hc
  rw [parameterName, String.toList_ofList, hleft, uncapitalize, lower_eq_map hascii]
  rfl

/-- Making a parameter safe leaves its first letter, and adds word characters at most. -/
theorem toList_safeParameter {name : String} {c : Char} {rest : List Char}
    (hname : name.toList = c :: rest) (hrest : ∀ d ∈ rest, isAsciiWord d = true) :
    ∃ tail, (safeParameter name).toList = c :: tail ∧ ∀ d ∈ tail, isAsciiWord d = true := by
  rcases safeParameter_cases name with ⟨-, hsafe⟩ | ⟨-, -, hsafe⟩
  · refine ⟨rest ++ ['_'], ?_, ?_⟩
    · rw [hsafe, String.toList_append, hname]
      rfl
    · intro d hd
      rcases List.mem_append.mp hd with hd | hd
      · exact hrest d hd
      · rw [List.mem_singleton.mp hd]
        decide
  · exact ⟨rest, by rw [hsafe, hname], hrest⟩

/-- **When the parameter of a setter is an identifier**: for a field named by an ASCII identifier,
unless its member mark stands before a digit. -/
theorem isIdentifier_parameter_iff {identifier : String}
    (hascii : isAscii identifier.toList = true) (hident : isIdentifier identifier.toList = true) :
    isAscii (safeParameter (parameterName identifier)).toList = true
      ∧ (isIdentifier (safeParameter (parameterName identifier)).toList = true
        ↔ marksDigit identifier.toList = false) := by
  have hword := isAsciiWord_of_isIdentifier hascii hident
  obtain ⟨c₀, rest₀, hcs, hdigit₀⟩ := (isIdentifier_iff hword).mp hident
  have hmark : (dropMark identifier.toList).head?.any Char.isDigit = marksDigit identifier.toList :=
    head?_dropMark_isDigit (by simp [hcs, hdigit₀])
  have hne : dropMark identifier.toList ≠ [] := dropMark_ne_nil (by simp [hcs])
  obtain ⟨c, rest, hleft⟩ := List.exists_cons_of_ne_nil hne
  have hkept : ∀ d ∈ c :: rest, isAsciiWord d = true :=
    fun d hd => hword d (mem_dropMark (hleft ▸ hd))
  obtain ⟨hc, hrest⟩ := List.forall_mem_cons.mp hkept
  obtain ⟨hlower, hdigit⟩ := isAsciiWord_toLower hc
  obtain ⟨tail, hsafe, htail⟩ :=
    toList_safeParameter (toList_parameterName hleft (toNat_lt_of_isAsciiWord hc)) hrest
  have hall : ∀ d ∈ c.toLower :: tail, isAsciiWord d = true :=
    List.forall_mem_cons.mpr ⟨hlower, htail⟩
  -- Only the first letter decides, and it is a digit exactly if that of the rest was one.
  rw [hsafe, isIdentifier_iff hall, ← hmark, hleft]
  refine ⟨isAscii_of_forall_isAsciiWord hall, ?_⟩
  simp [hdigit]

/-- The parameter is the constant that is never bound exactly if that is what is left of the
identifier. -/
theorem parameter_eq_debugName_iff {identifier : String}
    (hascii : isAscii identifier.toList = true) :
    safeParameter (parameterName identifier) = debugName
      ↔ dropMark identifier.toList = debugName.toList := by
  have hsafe : safeParameter (parameterName identifier) = debugName
      ↔ parameterName identifier = debugName := by
    have htaken : ∀ k ∈ "self" :: keywords, k ++ "_" ≠ debugName ∧ k ≠ debugName := by
      decide
    rcases safeParameter_cases (parameterName identifier) with ⟨hin, hsafe⟩ | ⟨-, -, hsafe⟩
    · rw [hsafe]
      exact iff_of_false (htaken _ hin).1 (htaken _ hin).2
    · rw [hsafe]
  rw [hsafe, ← String.toList_inj]
  cases hleft : dropMark identifier.toList with
  | nil => simp [parameterName, hleft, uncapitalize, debugName]
  | cons c rest =>
    simp only [isAscii, List.all_eq_true, decide_eq_true_eq] at hascii
    have hc : c.toNat < 0x80 := hascii c (mem_dropMark (hleft ▸ List.mem_cons_self ..))
    have hlower : c.toLower = '_' ↔ c = '_' := by
      have hall : ∀ n : Fin 128, (Char.ofNat n).toLower = '_' ↔ Char.ofNat n = '_' := by
        decide
      exact forall_ascii (p := fun c => c.toLower = '_' ↔ c = '_') hall hc
    rw [toList_parameterName hleft hc]
    simp [debugName, hlower]

end RecordForge.Naming

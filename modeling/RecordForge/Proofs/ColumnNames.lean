import RecordForge.Proofs.Specification

/-!
# Column names

The name of a column is the annotated one, or derived from the identifier of its field. Deriving it
breaks the identifier before its capitals, lower-cases it, and drops a member mark with an underscore
in front. Lower-casing loses no character, so that a derived name is empty only if nothing is left
behind the mark: exactly for the identifiers `m_` and `s_` (`columnName_eq_empty_iff`). For no other
field is the column of a specification without a name (`columnName_ne_empty_iff`).
-/

namespace RecordForge

open RecordForge.Text

namespace Naming

variable {before rest cs : List Char} {c d mark : Char}

/-! ## Lower-casing -/

/-- The characters that a derived name drops from its front. -/
def isDropped (c : Char) : Bool :=
  isMemberMark c || c = '_'

theorem isDropped_iff : isDropped c = true ↔ c = 'm' ∨ c = 's' ∨ c = '_' := by
  simp [isDropped, isMemberMark, or_assoc]

/-- Lower-casing keeps the characters that may be dropped. -/
theorem lowerAfter_cons_of_isDropped (hc : isDropped c = true) (before rest : List Char) :
    lowerAfter before (c :: rest) = c :: lowerAfter (c :: before) rest := by
  rcases isDropped_iff.mp hc with rfl | rfl | rfl <;> rfl

theorem hasAsciiSource_of_isDropped (hc : isDropped c = true) : hasAsciiSource c = true := by
  rcases isDropped_iff.mp hc with rfl | rfl | rfl <;> rfl

/-! ## Derived names -/

theorem breakCapitals_cons_of_upper (hc : c.isUpper = true) (rest : List Char) :
    breakCapitals (c :: rest) = '_' :: c :: breakCapitals rest := by
  simp [breakCapitals, hc]

theorem breakCapitals_cons (hc : c.isUpper = false) (rest : List Char) :
    breakCapitals (c :: rest) = c :: breakCapitals rest := by
  simp [breakCapitals, hc]

theorem breakCapitals_eq_nil_iff : breakCapitals cs = [] ↔ cs = [] := by
  cases cs with
  | nil => exact iff_of_true rfl rfl
  | cons c rest =>
    cases hc : c.isUpper with
    | true => simp [breakCapitals_cons_of_upper hc]
    | false => simp [breakCapitals_cons hc]

/-- A derived name is dropped altogether if it is a mark and an underscore. -/
theorem dropMarkedUnderscore_eq_nil_iff :
    dropMarkedUnderscore cs = [] ↔ cs = [] ∨ cs = ['m', '_'] ∨ cs = ['s', '_'] := by
  unfold dropMarkedUnderscore
  split
  next c d rest =>
    by_cases hmark : isMemberMark c = true
    · have hc : c = 'm' ∨ c = 's' := by simpa [isMemberMark] using hmark
      by_cases hd : d = '_'
      · rcases hc with rfl | rfl <;> simp [isMemberMark, hd]
      · simp [hd]
    · have hc : c ≠ 'm' ∧ c ≠ 's' := by simpa [isMemberMark] using hmark
      simp [hmark, hc]
  next hshort =>
    refine ⟨Or.inl, ?_⟩
    rintro (rfl | rfl | rfl)
    · rfl
    · exact absurd rfl (hshort 'm' '_' [])
    · exact absurd rfl (hshort 's' '_' [])

/-- Only a mark and an underscore themselves are broken and lower-cased to a mark and an
underscore. -/
theorem lower_breakCapitals_eq_iff (hmark : isMemberMark mark = true) :
    lower (breakCapitals cs) = [mark, '_'] ↔ cs = [mark, '_'] := by
  have hdropped : isDropped mark = true := by
    rw [isDropped, hmark, Bool.true_or]
  have hne : '_' ≠ mark := by
    rintro rfl
    exact absurd hmark (by decide)
  constructor
  · intro h
    cases cs with
    | nil => exact absurd h (by simp [breakCapitals])
    | cons c rest =>
      -- A capital would put an underscore in front of everything.
      have hc : c.isUpper = false := by
        by_contra hupper
        rw [Bool.not_eq_false] at hupper
        rw [breakCapitals_cons_of_upper hupper, lower, lowerAfter_cons_of_isDropped rfl] at h
        exact hne (List.cons.inj h).1
      rw [breakCapitals_cons hc, lower] at h
      obtain rfl := eq_of_head?_lowerAfter (hasAsciiSource_of_isDropped hdropped) hc
        (congrArg List.head? h)
      rw [lowerAfter_cons_of_isDropped hdropped] at h
      replace h := (List.cons.inj h).2
      cases rest with
      | nil => exact absurd h (by simp [breakCapitals, lowerAfter])
      | cons d rest =>
        cases hd : d.isUpper with
        | true =>
          rw [breakCapitals_cons_of_upper hd, lowerAfter_cons_of_isDropped rfl] at h
          exact absurd (lowerAfter_eq_nil_iff.mp (List.cons.inj h).2) (List.cons_ne_nil _ _)
        | false =>
          rw [breakCapitals_cons hd] at h
          obtain rfl := eq_of_head?_lowerAfter rfl hd (congrArg List.head? h)
          rw [lowerAfter_cons_of_isDropped rfl] at h
          rw [breakCapitals_eq_nil_iff.mp (lowerAfter_eq_nil_iff.mp (List.cons.inj h).2)]
  · rintro rfl
    have hc : mark.isUpper = false := by
      have hcases : mark = 'm' ∨ mark = 's' := by simpa [isMemberMark] using hmark
      rcases hcases with rfl | rfl <;> rfl
    rw [breakCapitals_cons hc, lower, lowerAfter_cons_of_isDropped hdropped]
    rfl

/-- **The identifiers without a column name**: nothing is derived from an identifier exactly if it
is empty, or a member mark with an underscore. -/
theorem columnName_eq_empty_iff (identifier : String) :
    columnName identifier = "" ↔ identifier = "" ∨ identifier = "m_" ∨ identifier = "s_" := by
  have hnil : lower (breakCapitals identifier.toList) = [] ↔ identifier.toList = [] := by
    rw [lower, lowerAfter_eq_nil_iff, breakCapitals_eq_nil_iff]
  have hempty : columnName identifier = ""
      ↔ dropMarkedUnderscore (lower (breakCapitals identifier.toList)) = [] := by
    rw [columnName, String.ofList_eq_empty_iff]
  rw [hempty, dropMarkedUnderscore_eq_nil_iff, lower_breakCapitals_eq_iff rfl,
    lower_breakCapitals_eq_iff rfl, hnil]
  simp only [← String.toList_inj]
  exact Iff.rfl

end Naming

open Naming ColumnSpec

/-! ## The columns of specifications -/

/-- The name is left to be derived from the identifier, and nothing can be. -/
def FieldDeclaration.Nameless (field : FieldDeclaration) : Prop :=
  (field.column.name = none ∨ field.column.name = some "")
    ∧ (field.identifier = some "m_" ∨ field.identifier = some "s_")

/-- A chosen name is empty exactly if the annotated one is missing and nothing can be derived. -/
theorem chooseName_eq_empty_iff (annotated : Option String) {identifier : String}
    (hidentifier : identifier ≠ "") :
    chooseName annotated identifier = ""
      ↔ (annotated = none ∨ annotated = some "") ∧ (identifier = "m_" ∨ identifier = "s_") := by
  have hderived : columnName identifier = "" ↔ identifier = "m_" ∨ identifier = "s_" := by
    rw [columnName_eq_empty_iff, or_iff_right hidentifier]
  unfold chooseName
  split
  next => simp [hderived]
  next name =>
    by_cases hname : name = ""
    · simp [hname, hderived]
    · simp [hname]

/-- **The columns without a name.** Whenever there is a specification of a field, its column and that
of its definition are one, and they have a name unless the field is one of those from which none can
be derived: its name is not annotated, and its identifier is a member mark with an underscore. -/
theorem columnName_ne_empty_iff (config : Config) (field : FieldDeclaration) (spec : ColumnSpec)
    (hspec : (ofField config field).result = some spec) :
    (spec.columnName ≠ "" ↔ ¬ field.Nameless)
      ∧ ∃ definition, spec.field = some definition ∧ definition.columnName = spec.columnName := by
  obtain ⟨identifier, typeName, mapping, hidentifier, hne, -, -, -, rfl⟩ :=
    result_ofField_eq_some_iff.mp hspec
  refine ⟨?_, _, field_specified config identifier mapping field.column, rfl⟩
  rw [columnName_specified, Ne, chooseName_eq_empty_iff _ hne, FieldDeclaration.Nameless,
    hidentifier, Option.some.injEq, Option.some.injEq]

/-- A field `m_` with an annotated name has a column of that name. -/
theorem columnName_annotated :
    ∃ spec, (ofField {} ⟨some "m_", some "int", { name := some "rank" }⟩).result = some spec
      ∧ spec.columnName = "rank"
      ∧ ¬ FieldDeclaration.Nameless ⟨some "m_", some "int", { name := some "rank" }⟩ := by
  have hspec : (ofField {} ⟨some "m_", some "int", { name := some "rank" }⟩).result = some _ := rfl
  obtain ⟨hname, -⟩ := columnName_ne_empty_iff {} _ _ hspec
  exact ⟨_, hspec, by decide, hname.mp (by decide)⟩

/-- A field `m_` that leaves its name to be derived has a column without a name. -/
theorem columnName_of_mark :
    ∃ spec, (ofField {} ⟨some "m_", some "int", {}⟩).result = some spec ∧ spec.columnName = "" :=
  ⟨_, rfl, by decide⟩

end RecordForge

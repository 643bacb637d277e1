import RecordForge.Proofs.ColumnNames
import RecordForge.Proofs.Words

/-!
# The names of members

A member is named by a mark and a row of capital words. Its column and its accessors lose the mark
by two different rules: the accessors drop the first character, the column drops it together with
the underscore that the first capital leaves behind it. Both leave the words, set one after the
other or in snake case (`IsMember.toList_accessorName`, `IsMember.toList_columnName`). Since the
words can be read back from either, members share a column exactly if they share their accessors,
which they do exactly if their words are the same (`names_of_members`).
-/

namespace RecordForge.Naming

open RecordForge.Text

/-- An identifier that is a member mark in front of capital words. -/
structure IsMember (identifier : String) (words : List (List Char)) : Prop where
  ne_nil : words ≠ []
  capital : ∀ word ∈ words, isCapitalWord word = true
  spelled : ∃ mark, (mark = 'm' ∨ mark = 's') ∧ identifier.toList = mark :: words.flatten

variable {identifier identifier' : String} {words words' : List (List Char)}

namespace IsMember

theorem identifier_ne_empty (h : IsMember identifier words) : identifier ≠ "" := by
  obtain ⟨mark, -, hspelled⟩ := h.spelled
  rintro rfl
  exact List.cons_ne_nil _ _ hspelled.symm

/-- The words begin with a capital. -/
theorem exists_flatten (h : IsMember identifier words) :
    ∃ c rest, words.flatten = c :: rest ∧ c.isUpper = true := by
  obtain ⟨word, others, rfl⟩ := List.exists_cons_of_ne_nil h.ne_nil
  obtain ⟨c, rest, rfl, hc, -⟩ := exists_of_isCapitalWord (h.capital word (List.mem_cons_self ..))
  exact ⟨c, rest ++ others.flatten, rfl, hc⟩

/-- What is left of the identifier without its mark are the words. -/
theorem dropMark_eq (h : IsMember identifier words) :
    dropMark identifier.toList = words.flatten := by
  obtain ⟨mark, hmark, hspelled⟩ := h.spelled
  obtain ⟨c, rest, hflatten, -⟩ := h.exists_flatten
  rw [hspelled, hflatten]
  rcases hmark with rfl | rfl <;> rfl

/-- The first capital puts an underscore behind the mark. -/
theorem breakCapitals_eq (h : IsMember identifier words) :
    ∃ mark, (mark = 'm' ∨ mark = 's')
      ∧ breakCapitals identifier.toList = mark :: '_' :: joinWith '_' words := by
  obtain ⟨mark, hmark, hspelled⟩ := h.spelled
  have hsmall : mark.isUpper = false := by rcases hmark with rfl | rfl <;> rfl
  refine ⟨mark, hmark, ?_⟩
  rw [hspelled, breakCapitals_cons hsmall, breakCapitals_flatten h.ne_nil h.capital]

/-- **The column of a member** has its words in lower case, with underscores between them. -/
theorem toList_columnName (h : IsMember identifier words) :
    (columnName identifier).toList = snake words := by
  obtain ⟨mark, hmark, hbroken⟩ := h.breakCapitals_eq
  have hword : ∀ c ∈ mark :: '_' :: joinWith '_' words, isAsciiWord c = true := by
    rw [List.forall_mem_cons, List.forall_mem_cons]
    refine ⟨by rcases hmark with rfl | rfl <;> rfl, rfl, fun c hc => ?_⟩
    rcases mem_joinWith hc with rfl | ⟨word, hin, hc⟩
    · rfl
    · exact isAsciiWord_of_mem (h.capital word hin) c hc
  rw [columnName, String.toList_ofList, hbroken, lower_eq_map (isAscii_of_forall_isAsciiWord hword),
    List.map_cons, List.map_cons, map_joinWith, snake]
  rcases hmark with rfl | rfl <;> rfl

/-- **The accessors of a member** are named by the verb and its words. -/
theorem toList_accessorName (h : IsMember identifier words) (kind : AccessorKind) :
    (accessorName identifier kind).toList = kind.verb ++ words.flatten := by
  obtain ⟨c, rest, hflatten, hc⟩ := h.exists_flatten
  have hcapital : upperChar c = [c] := by
    rw [upperChar_eq_of_ascii (toNat_lt_of_isUpper hc),
      toUpper_of_isUpper hc]
  rw [Naming.toList_accessorName h.identifier_ne_empty, h.dropMark_eq, hflatten, capitalize,
    hcapital, List.singleton_append]

/-- **The parameter of a member** is named by its words, the first letter in lower case. -/
theorem toList_parameterName (h : IsMember identifier words) :
    (parameterName identifier).toList = words.flatten.modifyHead Char.toLower := by
  obtain ⟨c, rest, hflatten, hc⟩ := h.exists_flatten
  have hleft : dropMark identifier.toList = c :: rest := h.dropMark_eq.trans hflatten
  rw [Naming.toList_parameterName hleft (toNat_lt_of_isUpper hc),
    hflatten, List.modifyHead_cons]

/-- Members have the same column exactly if their words are the same. -/
theorem columnName_eq_iff (h : IsMember identifier words) (h' : IsMember identifier' words') :
    columnName identifier = columnName identifier' ↔ words = words' := by
  rw [← String.toList_inj, h.toList_columnName, h'.toList_columnName]
  exact ⟨snake_injective h.ne_nil h.capital h'.ne_nil h'.capital, congrArg snake⟩

/-- Members have the same accessor exactly if their words are the same. -/
theorem accessorName_eq_iff (h : IsMember identifier words) (h' : IsMember identifier' words')
    (kind : AccessorKind) :
    accessorName identifier kind = accessorName identifier' kind ↔ words = words' := by
  rw [← String.toList_inj, h.toList_accessorName, h'.toList_accessorName, List.append_right_inj]
  exact ⟨flatten_injective h.ne_nil h.capital h'.ne_nil h'.capital, congrArg List.flatten⟩

end IsMember

/-- **The names of members** are those of their words: the column has them in snake case, the
accessors as they are behind the verb, the parameter with the first letter in lower case. Two
members, whatever their marks, have the same column exactly if they have the same accessor of either
kind, and exactly if they have the same words. -/
theorem names_of_members (h : IsMember identifier words) (h' : IsMember identifier' words') :
    (columnName identifier).toList = snake words
      ∧ (accessorName identifier .getter).toList = "get".toList ++ words.flatten
      ∧ (accessorName identifier .setter).toList = "set".toList ++ words.flatten
      ∧ (parameterName identifier).toList = words.flatten.modifyHead Char.toLower
      ∧ (columnName identifier = columnName identifier' ↔ words = words')
      ∧ ∀ kind, accessorName identifier kind = accessorName identifier' kind ↔ words = words' :=
  ⟨h.toList_columnName, h.toList_accessorName .getter, h.toList_accessorName .setter,
    h.toList_parameterName, h.columnName_eq_iff h', h.accessorName_eq_iff h'⟩

/-- The members `mMSize` and `sMSize` have the column `m_size` in common. -/
theorem names_of_sizes :
    IsMember "mMSize" ["M".toList, "Size".toList] ∧ IsMember "sMSize" ["M".toList, "Size".toList]
      ∧ (columnName "mMSize").toList = "m_size".toList
      ∧ columnName "mMSize" = columnName "sMSize" := by
  have hmember : IsMember "mMSize" ["M".toList, "Size".toList] :=
    ⟨by decide, by decide, 'm', by decide, rfl⟩
  have hstatic : IsMember "sMSize" ["M".toList, "Size".toList] :=
    ⟨by decide, by decide, 's', by decide, rfl⟩
  obtain ⟨hcolumn, -, -, -, hsame, -⟩ := names_of_members hmember hstatic
  exact ⟨hmember, hstatic, hcolumn, hsame.mpr rfl⟩

end RecordForge.Naming

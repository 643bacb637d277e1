import RecordForge.Proofs.Loading

/-!
# The names of a generated class

Two questions about the names that a class is generated with, over all declarations. Its accessors
leave the operations of records alone exactly if no kept field is named by one of the
`hidingIdentifiers` (`accessors_free_iff`). And for an ordinary field, one that is named by an ASCII
identifier and leaves the name of its column to it, the constant and the accessors always have plain
names, while the parameter of the setter has one exactly if the identifier `givesParameter`
(`names_of_ordinary`).
-/

namespace RecordForge

open Text Naming

/-! ## Accessors and the operations of records -/

/-- **When the operations of records stay reachable**: no accessor of the class takes the name of one
exactly if no kept field has one of the hiding identifiers. -/
theorem accessors_free_iff {config : Config} {d : TypeDeclaration} {m : ClassModel}
    (hbuild : (ClassModel.build config d).result = .ok (some m))
    (haccessors : config.generateAccessors = true) :
    (∀ a ∈ m.accessors, a.name ∉ LoadedClass.recordMethods)
      ↔ ∀ k ∈ keptFields config d.fields, k.identifier ∉ hidingIdentifiers := by
  have hnames : (∀ a ∈ m.accessors, a.name ∉ LoadedClass.recordMethods)
      ↔ ∀ name ∈ m.accessors.map (·.name), name ∉ LoadedClass.recordMethods := by
    simp
  rw [hnames, ClassModel.accessorNames_of_build hbuild haccessors]
  simp only [List.mem_flatMap]
  constructor
  · intro hfree k hk hhiding
    obtain ⟨hne, -⟩ := specified_of_mem_keptFields hk
    rcases (accessorName_mem_recordMethods_iff hne).mpr hhiding with hget | hset
    · exact hfree k.getterName ⟨k, hk, List.mem_cons_self ..⟩ hget
    · exact hfree k.setterName ⟨k, hk, List.mem_cons_of_mem _ (List.mem_cons_self ..)⟩ hset
  · rintro hfree name ⟨k, hk, hname⟩ hrecord
    obtain ⟨hne, -⟩ := specified_of_mem_keptFields hk
    apply hfree k hk
    apply (accessorName_mem_recordMethods_iff hne).mp
    rcases List.mem_pair.mp hname with rfl | rfl
    · exact Or.inl hrecord
    · exact Or.inr hrecord

/-- A sheet with one integer column, whose field has the identifier. -/
def sheet (identifier : String) : TypeDeclaration where
  package := "app"
  name := "Sheet"
  fields := [⟨some identifier, some "int", {}⟩]

/-- The accessors of a field `m_size` hide no operation of records. -/
theorem accessors_free_size :
    ∃ m, (ClassModel.build {} (sheet "m_size")).result = .ok (some m)
      ∧ ∀ a ∈ m.accessors, a.name ∉ LoadedClass.recordMethods := by
  have hbuild : (ClassModel.build {} (sheet "m_size")).result = .ok (some _) :=
    ClassModel.build_eq_some_iff.mpr ⟨by decide, by decide, rfl⟩
  have hfree := accessors_free_iff hbuild rfl
  exact ⟨_, hbuild, hfree.mpr (by decide)⟩

/-- The getter of a field `m_template` takes the place of the operation that objects register their
columns with. -/
theorem getTemplate_hidden :
    ∃ m, (ClassModel.build {} (sheet "m_template")).result = .ok (some m)
      ∧ ∃ a ∈ m.accessors, a.name = "get_template" ∧ a.name ∈ LoadedClass.recordMethods :=
  ⟨_, ClassModel.build_eq_some_iff.mpr ⟨by decide, by decide, rfl⟩, by decide⟩

/-! ## Names of ordinary fields -/

/-- An ordinary field: it is named by an ASCII identifier, leaves the name of its column to it, and
has a type that can be stored. -/
structure FieldDeclaration.Ordinary (f : FieldDeclaration) (identifier : String) : Prop where
  identifier_eq : f.identifier = some identifier
  isAscii : isAscii identifier.toList = true
  isIdentifier : isIdentifier identifier.toList = true
  unnamed : f.column.name.getD "" = ""
  stored : ∃ typeName mapping, f.typeName = some typeName
    ∧ TypeMapping.ofType? typeName = some mapping

/-- Whether an identifier gives the setter a parameter that can be bound: no digit follows its mark,
and it is not the constant that is never bound. -/
def givesParameter (identifier : String) : Bool :=
  !marksDigit identifier.toList && dropMark identifier.toList ≠ debugName.toList

namespace FieldDeclaration.Ordinary

variable {f : FieldDeclaration} {identifier : String}

/-- An ordinary field has a specification, and its column has the name that the identifier gives. -/
theorem exists_specified (h : f.Ordinary identifier) (config : Config) :
    identifier ≠ "" ∧ ∃ mapping,
      (ColumnSpec.ofField config f).result
          = some (ColumnSpec.specified config identifier mapping f.column)
        ∧ (ColumnSpec.specified config identifier mapping f.column).constantName
          = constantName (columnName identifier) := by
  obtain ⟨typeName, mapping, htype, hmapping⟩ := h.stored
  have hne : identifier ≠ "" := by
    rintro rfl
    exact absurd h.isIdentifier (by decide)
  have htypeName : typeName ≠ "" := by
    rintro rfl
    have hempty : TypeMapping.ofType? "" = none := by decide
    exact absurd hmapping (by simp [hempty])
  refine ⟨hne, mapping, ?_, ?_⟩
  · exact ColumnSpec.result_ofField_eq_some_iff.mpr
      ⟨identifier, typeName, mapping, h.identifier_eq, hne, htype, htypeName, hmapping, rfl⟩
  · rw [ColumnSpec.constantName_specified, ColumnSpec.columnName_specified]
    have hunnamed := h.unnamed
    cases hname : f.column.name with
    | none => rfl
    | some name =>
      rw [hname, Option.getD_some] at hunnamed
      rw [ColumnSpec.chooseName, if_pos hunnamed]

/-- The constant and the accessors of an ordinary field have plain names. -/
theorem isPlainName_names (h : f.Ordinary identifier) :
    isPlainName (constantName (columnName identifier)) = true
      ∧ ∀ kind, isPlainName (accessorName identifier kind) = true := by
  have hword := isAsciiWord_of_isIdentifier h.isAscii h.isIdentifier
  obtain ⟨hne, -⟩ := h.exists_specified {}
  exact ⟨isPlainName_constantName (isAsciiWord_of_mem_columnName hword),
    isPlainName_accessorName hne hword⟩

/-- The parameter of the setter is plain exactly if the identifier gives one. -/
theorem isPlainName_parameter_iff (h : f.Ordinary identifier) :
    isPlainName (safeParameter (parameterName identifier)) = true
      ↔ givesParameter identifier = true := by
  obtain ⟨hascii, hidentifier⟩ := isIdentifier_parameter_iff h.isAscii h.isIdentifier
  have hdebug := parameter_eq_debugName_iff h.isAscii
  rw [isPlainName_iff, hidentifier, Ne, hdebug, givesParameter]
  simp [hascii, (safeParameter_free (parameterName identifier)).1]

end FieldDeclaration.Ordinary

/-- A class all of whose kept fields are ordinary and give a parameter can be read, given that the
class itself and its package have fitting names. -/
theorem ClassModel.readable_of_ordinary {config : Config} {d : TypeDeclaration} {m : ClassModel}
    (hbuild : (build config d).result = .ok (some m)) (hsuperclass : m.superclass = recordClass)
    (hruntime : m.runtimeModule = recordModule) (hpackage : IsPackage m.package)
    (hname : isPlainName m.className = true) (hbase : m.className ≠ baseName)
    (hfields : ∀ k ∈ keptFields config d.fields,
      k.field.Ordinary k.identifier ∧ givesParameter k.identifier = true) : m.Readable := by
  refine ⟨hsuperclass, hruntime, hpackage, hname, hbase, ?_, ?_, ?_⟩
  · intro column hcolumn
    rw [fields_of_build hbuild] at hcolumn
    obtain ⟨k, hk, rfl⟩ := List.mem_map.mp hcolumn
    obtain ⟨-, mapping, hspec, hconstant⟩ := (hfields k hk).1.exists_specified config
    have hkept := (mem_keptFields hk).2
    rw [hspec, Option.some_inj] at hkept
    rw [hkept] at hconstant
    show isPlainName k.spec.constantName = true
    rw [hconstant]
    exact (hfields k hk).1.isPlainName_names.1
  · intro a ha
    obtain ⟨k, hk, mapping, -, rfl | rfl⟩ := accessor_of_mem hbuild ha
    · exact (hfields k hk).1.isPlainName_names.2 .getter
    · exact (hfields k hk).1.isPlainName_names.2 .setter
  · -- A getter has no parameter, and that of a setter is the one that the identifier gives.
    intro a ha p hp
    obtain ⟨k, hk, mapping, -, rfl | rfl⟩ := accessor_of_mem hbuild ha
    · exact absurd hp (by simp [Accessor.getterOf])
    · obtain rfl := Option.some.inj hp
      exact (hfields k hk).1.isPlainName_parameter_iff.mpr (hfields k hk).2

/-- **The names of ordinary fields.** With accessors on, an ordinary field has a specification with
a getter and a setter. Its constant and the two accessors have plain names; the parameter of the
setter is neither a reserved word nor the receiver, and is an identifier exactly if no digit follows
the mark of the field's identifier. It is plain exactly if the field's identifier gives a parameter,
and a class all of whose kept fields are ordinary and give one loads, given that the class itself
and its package have fitting names, exactly if its latest version has a text. -/
theorem names_of_ordinary {config : Config} (haccessors : config.generateAccessors = true) :
    (∀ (f : FieldDeclaration) (identifier : String), f.Ordinary identifier →
      ∃ spec getter setter parameter, (ColumnSpec.ofField config f).result = some spec
        ∧ spec.getter = some getter ∧ spec.setter = some setter
        ∧ setter.parameter = some parameter
        ∧ isPlainName spec.constantName = true ∧ isPlainName getter.name = true
        ∧ isPlainName setter.name = true
        ∧ isKeyword parameter = false ∧ parameter ≠ "self"
        ∧ (isIdentifier parameter.toList = true ↔ marksDigit identifier.toList = false)
        ∧ (isPlainName parameter = true ↔ givesParameter identifier = true))
      ∧ ∀ (d : TypeDeclaration) (m : ClassModel),
        (ClassModel.build config d).result = .ok (some m) →
        m.superclass = recordClass → m.runtimeModule = recordModule → IsPackage m.package →
        isPlainName m.className = true → m.className ≠ baseName →
        (∀ k ∈ keptFields config d.fields,
          k.field.Ordinary k.identifier ∧ givesParameter k.identifier = true) →
        ((∃ c, LoadedClass.load (ClassSource.ofModel m) = .ok c)
          ↔ (Value.int m.latestVersion).isWritable = true) := by
  constructor
  · intro f identifier h
    obtain ⟨hne, mapping, hspec, hconstant⟩ := h.exists_specified config
    obtain ⟨-, hgetter, hsetter⟩ :=
      ColumnSpec.accessors_specified config identifier mapping f.column haccessors
    obtain ⟨hplain, haccessor⟩ := h.isPlainName_names
    refine ⟨_, _, _, _, hspec, hgetter, hsetter, rfl, hconstant ▸ hplain, haccessor _, haccessor _,
      ?_, ?_, ?_, ?_⟩
    · exact (safeParameter_free _).1
    · exact (safeParameter_free _).2
    · exact (isIdentifier_parameter_iff h.isAscii h.isIdentifier).2
    · exact h.isPlainName_parameter_iff
  · intro d m hbuild hsuperclass hruntime hpackage hname hbase hfields
    exact ClassModel.exists_load_ofModel_iff hbuild (ClassModel.readable_of_ordinary hbuild
      hsuperclass hruntime hpackage hname hbase hfields)

/-- A field `mClass` is ordinary, its setter has a plain parameter, and a class of ordinary fields
such as `mSize` loads. -/
theorem names_of_class_field :
    (∃ spec setter parameter, (ColumnSpec.ofField {} ⟨some "mClass", some "str", {}⟩).result = some spec
        ∧ spec.setter = some setter ∧ setter.parameter = some parameter
        ∧ isPlainName parameter = true)
      ∧ ∃ m c, (ClassModel.build {} (sheet "mSize")).result = .ok (some m)
        ∧ LoadedClass.load (ClassSource.ofModel m) = .ok c := by
  obtain ⟨hnames, hload⟩ := @names_of_ordinary {} rfl
  constructor
  · obtain ⟨spec, getter, setter, parameter, hspec, -, hsetter, hparameter, -, -, -, -, -, -, hplain⟩ :=
      hnames ⟨some "mClass", some "str", {}⟩ "mClass"
        ⟨rfl, by decide, by decide, rfl, _, _, rfl, rfl⟩
    exact ⟨spec, setter, parameter, hspec, hsetter, hparameter, hplain.mpr (by decide)⟩
  · have hbuild : (ClassModel.build {} (sheet "mSize")).result = .ok (some _) :=
      ClassModel.build_eq_some_iff.mpr ⟨by decide, by decide, rfl⟩
    have hfields : ∀ k ∈ keptFields {} (sheet "mSize").fields,
        k.field.Ordinary k.identifier ∧ givesParameter k.identifier = true := by
      intro k hk
      obtain rfl := List.mem_singleton.mp hk
      exact ⟨⟨rfl, by decide, by decide, rfl, _, _, rfl, rfl⟩, by decide⟩
    obtain ⟨c, hc⟩ := (hload (sheet "mSize") _ hbuild rfl rfl (by decide) (by decide) (by decide)
      hfields).mpr (by decide)
    exact ⟨_, c, hbuild, hc⟩

/-- The setter of a field `m1` is left with a digit for its parameter. -/
theorem parameter_of_digit :
    ∃ spec setter, (ColumnSpec.ofField {} ⟨some "m1", some "int", {}⟩).result = some spec
      ∧ FieldDeclaration.Ordinary ⟨some "m1", some "int", {}⟩ "m1"
      ∧ spec.setter = some setter ∧ setter.parameter = some "1"
      ∧ isIdentifier "1".toList = false :=
  ⟨_, _, rfl, ⟨rfl, by decide, by decide, rfl, _, _, rfl, rfl⟩, rfl, by decide, by decide⟩

end RecordForge

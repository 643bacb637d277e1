import RecordForge.ClassModel
import RecordForge.Proofs.Selection
import RecordForge.Proofs.Versions

/-!
# What a class model holds

A type has a model exactly if it keeps a field and the versions of its fields can be written, and
every part of the model is a function of the kept fields (`build_eq_some_iff`). Its columns are
theirs, its accessors come in pairs of a getter and a setter, and the group of a version holds the
constants of all columns up to that version, in ascending order of versions (`groups_of_build`).
-/

namespace RecordForge

/-! ## Columns and accessors of a specification -/

namespace ColumnSpec

/-- The definition of the column of a specification. -/
def columnField (spec : ColumnSpec) : ColumnField :=
  ⟨spec.constantName, spec.kind.columnClass, spec.columnName, spec.allowNull, spec.primary,
    spec.version⟩

end ColumnSpec

namespace KeptField

/-- The identifier of a kept field. -/
def identifier (k : KeptField) : String :=
  k.field.identifier.getD ""

/-- How the declared type of a field is stored, if it can be. -/
def mapping? (k : KeptField) : Option TypeMapping :=
  k.field.typeName.bind TypeMapping.ofType?

/-- Whether the declared type of a field is a truth value. -/
def isBoolean (k : KeptField) : Bool :=
  k.mapping?.any (·.boolean)

/-- The name of the getter of a kept field. -/
def getterName (k : KeptField) : String :=
  Naming.accessorName k.identifier .getter

/-- The name of the setter of a kept field. -/
def setterName (k : KeptField) : String :=
  Naming.accessorName k.identifier .setter

end KeptField

section

variable {config : Config} {fields : List FieldDeclaration} {k : KeptField}

/-- **What it takes to be kept**: an identifier, a type that can be stored, and the specification
that these and the annotation give. -/
theorem specified_of_mem_keptFields (h : k ∈ keptFields config fields) :
    k.identifier ≠ "" ∧ k.field.identifier = some k.identifier
      ∧ ∃ mapping, k.mapping? = some mapping
        ∧ k.spec = ColumnSpec.specified config k.identifier mapping k.field.column := by
  obtain ⟨identifier, typeName, mapping, hidentifier, hne, htype, -, hmapping, hspec⟩ :=
    ColumnSpec.result_ofField_eq_some_iff.mp (mem_keptFields h).2
  have hid : k.identifier = identifier := by
    rw [KeptField.identifier, hidentifier, Option.getD_some]
  rw [hid]
  refine ⟨hne, hidentifier, mapping, ?_, hspec⟩
  rw [KeptField.mapping?, htype, Option.bind_some, hmapping]

theorem field_eq_of_mem_keptFields (h : k ∈ keptFields config fields) :
    k.spec.field = some k.spec.columnField := by
  obtain ⟨-, -, mapping, -, hspec⟩ := specified_of_mem_keptFields h
  rw [hspec]
  exact ColumnSpec.field_specified config k.identifier mapping k.field.column

theorem one_le_version_of_mem_keptFields (h : k ∈ keptFields config fields) :
    1 ≤ k.spec.version := by
  obtain ⟨-, -, mapping, -, hspec⟩ := specified_of_mem_keptFields h
  rw [hspec]
  exact ColumnSpec.one_le_version_specified config k.identifier mapping k.field.column

/-- With accessors on, a kept field has a getter and a setter under its names. -/
theorem accessors_of_mem_keptFields (h : k ∈ keptFields config fields)
    (haccessors : config.generateAccessors = true) :
    ∃ mapping, k.mapping? = some mapping
      ∧ k.spec.kind = mapping.kind
      ∧ ClassModel.accessorsOf k.spec
        = [Accessor.getterOf (AccessorNames.ofIdentifier k.identifier) k.spec.constantName mapping,
          Accessor.setterOf (AccessorNames.ofIdentifier k.identifier) k.spec.constantName mapping]
      ∧ k.spec.names = [k.spec.constantName, k.getterName, k.setterName] := by
  obtain ⟨-, -, mapping, hmapping, hspec⟩ := specified_of_mem_keptFields h
  obtain ⟨hnames, hgetter, hsetter⟩ :=
    ColumnSpec.accessors_specified config k.identifier mapping k.field.column haccessors
  rw [← hspec] at hnames hgetter hsetter
  refine ⟨mapping, hmapping, ?_, ?_, ?_⟩
  · rw [hspec, ColumnSpec.specified]
    split <;> rfl
  · rw [ClassModel.accessorsOf, hgetter, hsetter]
  · rw [ColumnSpec.names, hnames]
    rfl

/-- With accessors off, a kept field has none. -/
theorem no_accessors_of_mem_keptFields (h : k ∈ keptFields config fields)
    (haccessors : config.generateAccessors = false) : ClassModel.accessorsOf k.spec = [] := by
  obtain ⟨-, -, mapping, -, hspec⟩ := specified_of_mem_keptFields h
  obtain ⟨-, hgetter, -⟩ :=
    ColumnSpec.no_accessors_specified config k.identifier mapping k.field.column haccessors
  rw [← hspec] at hgetter
  rw [ClassModel.accessorsOf, hgetter]

end

/-! ## The model -/

namespace ClassModel

@[simp] theorem result_readLatestVersion (config : Config) (d : TypeDeclaration) :
    (readLatestVersion config d).result = d.latestVersion.positive?.getD config.defaultVersion := by
  unfold readLatestVersion
  split
  next n hn => simp [hn]
  next hn => simp [hn]

/-! ### Versions that can be written -/

/-- The versions of all specifications can be written. -/
def WritableVersions (specs : List ColumnSpec) : Prop :=
  ∀ spec ∈ specs, (Value.int spec.version).isWritable = true

instance (specs : List ColumnSpec) : Decidable (WritableVersions specs) :=
  inferInstanceAs (Decidable (∀ spec ∈ specs, _))

/-- The constants for the versions of specifications: one for each version, in ascending order, with
the constants of the columns up to that version. -/
def groupsOf (specs : List ColumnSpec) : List VersionGroup :=
  (versionsOf (·.version) specs).map fun w =>
    ⟨Naming.versionConstant w, w,
      (inVersionOrder (·.version) (specs.filter (·.version ≤ w))).map (·.constantName)⟩

variable {specs : List ColumnSpec}

theorem ofVersion_eq_ok_iff {α : Type} {constant : α → String} (g : Int × List α)
    (group : VersionGroup) :
    VersionGroup.ofVersion constant g = .ok group
      ↔ (Value.int g.1).isWritable = true
        ∧ group = ⟨Naming.versionConstant g.1, g.1, g.2.map constant⟩ := by
  rw [VersionGroup.ofVersion, bind_eq_ok_iff]
  simp only [Naming.versionColumnsName_eq_ok_iff]
  constructor
  · rintro ⟨name, ⟨hwritable, rfl⟩, hgroup⟩
    exact ⟨hwritable, (Except.ok.inj hgroup).symm⟩
  · rintro ⟨hwritable, rfl⟩
    exact ⟨_, ⟨hwritable, rfl⟩, rfl⟩

theorem forall_mem_versionsOf_iff {p : Int → Prop} :
    (∀ w ∈ versionsOf (·.version) specs, p w) ↔ ∀ spec ∈ specs, p spec.version := by
  simp only [mem_versionsOf]
  exact ⟨fun h spec hspec => h _ ⟨spec, hspec, rfl⟩, fun h w ⟨spec, hspec, hw⟩ => hw ▸ h spec hspec⟩

/-- The constants for the versions of specifications can be named if the versions can be written. -/
theorem ofGroups_partition_eq_ok_iff {groups : List VersionGroup} :
    VersionGroup.ofGroups (·.constantName) (VersionGroups.partition (·.version) specs) = .ok groups
      ↔ WritableVersions specs ∧ groups = groupsOf specs := by
  rw [VersionGroup.ofGroups, VersionGroups.cumulative_partition,
    mapM_eq_ok_iff ofVersion_eq_ok_iff, List.map_map, List.forall_mem_map,
    forall_mem_versionsOf_iff]
  rfl

/-- The versions of specifications, separated by commas. -/
theorem versionsText_partition (h : WritableVersions specs) :
    versionsText ((VersionGroups.partition (·.version) specs).map Prod.fst)
      = .ok (", ".intercalate ((versionsOf (·.version) specs).map toString)) := by
  rw [VersionGroups.keys_partition]
  exact Value.writing_eq_ok_iff.mpr
    ⟨List.forall_mem_map.mpr (forall_mem_versionsOf_iff.mpr h), rfl⟩

/-- Once the constants of the versions are named, checking the latest one does not fail. -/
theorem result_checkLatestVersion (h : WritableVersions specs) (d : TypeDeclaration)
    (latest : Int) :
    (checkLatestVersion d latest
      ((VersionGroups.partition (·.version) specs).map Prod.fst)).result = .ok () := by
  rw [checkLatestVersion, versionsText_partition h]
  split <;> rfl

/-! ### When there is a model -/

/-- Building a model ends in one of three ways. -/
theorem result_build_cases (config : Config) (d : TypeDeclaration) :
    (keptFields config d.fields = [] ∧ (build config d).result = .ok none)
      ∨ (keptFields config d.fields ≠ [] ∧ WritableVersions (keptSpecs config d.fields)
        ∧ (build config d).result = .ok (some (ofSpecs config d
          (d.latestVersion.positive?.getD config.defaultVersion) (keptSpecs config d.fields)
          (groupsOf (keptSpecs config d.fields)))))
      ∨ (keptFields config d.fields ≠ [] ∧ ¬ WritableVersions (keptSpecs config d.fields)
        ∧ (build config d).result = .error {}) := by
  have hbuild : (build config d).result
      = (ofSelected config d (keptSpecs config d.fields)).result := by
    rw [← result_select]
    rfl
  rw [hbuild, ofSelected]
  by_cases hkept : keptFields config d.fields = []
  · simp [hkept, keptSpecs]
  have hspecs : (keptSpecs config d.fields).isEmpty = false := by simpa [keptSpecs] using hkept
  simp only [hspecs, Bool.false_eq_true, if_false, Reported.result_bind, result_readLatestVersion,
    hkept, false_and, not_false_eq_true, ne_eq, true_and, false_or]
  by_cases hwritable : WritableVersions (keptSpecs config d.fields)
  · rw [ofGroups_partition_eq_ok_iff.mpr ⟨hwritable, rfl⟩]
    simp [hwritable, result_checkLatestVersion hwritable]
  · cases hgroups : VersionGroup.ofGroups (·.constantName)
        (VersionGroups.partition (·.version) (keptSpecs config d.fields)) with
    | ok groups => exact absurd (ofGroups_partition_eq_ok_iff.mp hgroups).1 hwritable
    | error e => simp [hwritable]

/-- **When a type has a model, and which**: it keeps a field, the versions of the fields that it
keeps can be written, and the model is made of their specifications. -/
theorem build_eq_some_iff {config : Config} {d : TypeDeclaration} {m : ClassModel} :
    (build config d).result = .ok (some m)
      ↔ keptFields config d.fields ≠ [] ∧ WritableVersions (keptSpecs config d.fields)
        ∧ m = ofSpecs config d (d.latestVersion.positive?.getD config.defaultVersion)
          (keptSpecs config d.fields) (groupsOf (keptSpecs config d.fields)) := by
  rcases result_build_cases config d with ⟨hkept, h⟩ | ⟨hkept, hwritable, h⟩ | ⟨hkept, hnot, h⟩
  · simp [h, hkept]
  · simp [h, hkept, hwritable, eq_comm]
  · simp [h, hnot]

section

variable {config : Config} {d : TypeDeclaration} {m : ClassModel}

/-- The columns of a model are those of the kept fields. -/
theorem fields_of_build (h : (build config d).result = .ok (some m)) :
    m.fields = (keptFields config d.fields).map fun k => k.spec.columnField := by
  obtain ⟨-, -, rfl⟩ := build_eq_some_iff.mp h
  show (keptSpecs config d.fields).filterMap (·.field) = _
  rw [keptSpecs, List.filterMap_map, ← List.filterMap_eq_map]
  apply List.filterMap_congr
  intro k hk
  exact field_eq_of_mem_keptFields hk

/-- The accessors of a model are those of the kept fields. -/
theorem accessors_of_build (h : (build config d).result = .ok (some m)) :
    m.accessors = (keptFields config d.fields).flatMap fun k => accessorsOf k.spec := by
  obtain ⟨-, -, rfl⟩ := build_eq_some_iff.mp h
  show (keptSpecs config d.fields).flatMap accessorsOf = _
  rw [keptSpecs, List.flatMap_map]

/-- Every accessor of a model is the getter or the setter of a kept field. -/
theorem accessor_of_mem (h : (build config d).result = .ok (some m)) {a : Accessor}
    (ha : a ∈ m.accessors) :
    ∃ k ∈ keptFields config d.fields, ∃ mapping, k.mapping? = some mapping
      ∧ (a = Accessor.getterOf (AccessorNames.ofIdentifier k.identifier) k.spec.constantName mapping
        ∨ a = Accessor.setterOf (AccessorNames.ofIdentifier k.identifier) k.spec.constantName
            mapping) := by
  rw [accessors_of_build h] at ha
  obtain ⟨k, hk, hin⟩ := List.mem_flatMap.mp ha
  cases haccessors : config.generateAccessors with
  | false =>
    rw [no_accessors_of_mem_keptFields hk haccessors] at hin
    exact absurd hin (List.not_mem_nil)
  | true =>
    obtain ⟨mapping, hmapping, -, hboth, -⟩ := accessors_of_mem_keptFields hk haccessors
    rw [hboth] at hin
    exact ⟨k, hk, mapping, hmapping, List.mem_pair.mp hin⟩

/-- With accessors on, their names are those of the getters and setters of the kept fields. -/
theorem accessorNames_of_build (h : (build config d).result = .ok (some m))
    (haccessors : config.generateAccessors = true) :
    m.accessors.map (·.name)
      = (keptFields config d.fields).flatMap fun k => [k.getterName, k.setterName] := by
  rw [accessors_of_build h, List.map_flatMap]
  apply List.flatMap_congr
  intro k hk
  obtain ⟨mapping, -, -, hboth, -⟩ := accessors_of_mem_keptFields hk haccessors
  rw [hboth]
  rfl

/-- No two accessors have the same name. -/
theorem nodup_accessorNames (h : (build config d).result = .ok (some m)) :
    (m.accessors.map (·.name)).Nodup := by
  cases haccessors : config.generateAccessors with
  | false =>
    have hnone : m.accessors = [] := by
      rw [accessors_of_build h, List.flatMap_eq_nil_iff]
      exact fun k hk => no_accessors_of_mem_keptFields hk haccessors
    simp [hnone]
  | true =>
    -- The names of the accessors are among those that selecting keeps distinct.
    rw [accessorNames_of_build h haccessors]
    apply nodup_flatMap_keptFields
    intro k hk
    obtain ⟨-, -, -, -, hnames⟩ := accessors_of_mem_keptFields hk haccessors
    rw [hnames]
    exact List.sublist_cons_self ..

/-- **The groups of a model**: one for each version of a column, in ascending order, with the
constants of the columns up to that version. -/
theorem groups_of_build (h : (build config d).result = .ok (some m)) :
    m.groups = (versionsOf (·.version) (keptSpecs config d.fields)).map fun w =>
      ⟨Naming.versionConstant w, w, (inVersionOrder (·.version)
        ((keptSpecs config d.fields).filter (·.version ≤ w))).map (·.constantName)⟩ := by
  obtain ⟨-, -, rfl⟩ := build_eq_some_iff.mp h
  rfl

end

end ClassModel

end RecordForge

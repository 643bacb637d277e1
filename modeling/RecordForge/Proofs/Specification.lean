import RecordForge.Proofs.Naming

/-!
# What a column specification says

Reading a field reports on the way, but its result is a function of the declaration alone:
`result_ofField_eq_some_iff` gives it outright, as the specification `specified` of a field with an
identifier and a type that can be stored, and nothing for any other field. Everything later modules
need of a specification is read off there: its constant is that of its column, its version is at
least one, and it has accessors exactly if they are generated.
-/

namespace RecordForge

/-! ## The types that can be stored -/

/-- What holds of every line of the table holds of how any declared type is stored. -/
theorem TypeMapping.of_ofType? {p : TypeMapping → Prop} (hall : ∀ e ∈ table, p e.2)
    {typeName : String} {mapping : TypeMapping} (h : ofType? typeName = some mapping) :
    p mapping := by
  obtain ⟨before, after, htable, -⟩ := List.lookup_eq_some_iff.mp h
  exact hall (_, mapping) (htable ▸ List.mem_append_right _ (List.mem_cons_self ..))

namespace ColumnSpec

open RecordForge.Naming

/-! ## The result of reading a field -/

@[simp] theorem result_readFlag (raw : Value) (default : Bool) (flag field : String) :
    (readFlag raw default flag field).result = (flag? raw).getD default := by
  unfold readFlag
  split
  next b hb => simp [hb]
  next hb => simp [hb]

@[simp] theorem result_readVersion (raw : Value) (field : String) :
    (readVersion raw field).result = raw.positive?.getD firstVersion := by
  unfold readVersion
  split
  next n hn => simp [hn]
  next hn => simp [hn]

/-- The specification of a field that has an identifier and a type that can be stored. -/
def specified (config : Config) (identifier : String) (mapping : TypeMapping)
    (column : ColumnAnnotation) : ColumnSpec :=
  let primary := (flag? column.primary).getD false
  let nullable := (flag? column.allowNull).getD true && !primary
  let spec := plain (chooseName column.name identifier) mapping nullable primary
    (column.version.positive?.getD firstVersion)
  if config.generateAccessors then spec.withAccessors identifier mapping else spec

theorem result_ofNamed (config : Config) (identifier typeName : String)
    (column : ColumnAnnotation) :
    (ofNamed config identifier typeName column).result
      = (TypeMapping.ofType? typeName).map fun mapping =>
          specified config identifier mapping column := by
  unfold ofNamed
  cases hmapping : TypeMapping.ofType? typeName with
  | none => simp
  | some mapping =>
    by_cases haccessors : config.generateAccessors
    · simp [specified, haccessors]
    · simp [specified, haccessors]

/-- **The specification of a field**: a field has one exactly if it has an identifier and a type
that can be stored, and then it is the specified one. -/
theorem result_ofField_eq_some_iff {config : Config} {field : FieldDeclaration}
    {spec : ColumnSpec} :
    (ofField config field).result = some spec
      ↔ ∃ identifier typeName mapping, field.identifier = some identifier ∧ identifier ≠ ""
        ∧ field.typeName = some typeName ∧ typeName ≠ ""
        ∧ TypeMapping.ofType? typeName = some mapping
        ∧ spec = specified config identifier mapping field.column := by
  obtain ⟨identifier?, typeName?, column⟩ := field
  cases identifier? with
  | none => simp [ofField, ofField.missing]
  | some identifier =>
    cases typeName? with
    | none => simp [ofField, ofField.missing]
    | some typeName =>
      by_cases hempty : identifier = "" ∨ typeName = ""
      · simp only [ofField, if_pos hempty, ofField.missing]
        grind [Reported.result_bind, Reported.result_pure]
      · simp only [ofField, if_neg hempty, result_ofNamed, Option.map_eq_some_iff]
        grind

/-! ## What the specified columns look like -/

variable (config : Config) (identifier : String) (mapping : TypeMapping)
  (column : ColumnAnnotation)

theorem columnName_specified :
    (specified config identifier mapping column).columnName
      = chooseName column.name identifier := by
  unfold specified
  split <;> rfl

theorem constantName_specified :
    (specified config identifier mapping column).constantName
      = Naming.constantName (specified config identifier mapping column).columnName := by
  unfold specified
  split <;> rfl

theorem kind_specified :
    (specified config identifier mapping column).kind = mapping.kind := by
  unfold specified
  split <;> rfl

theorem primary_specified :
    (specified config identifier mapping column).primary
      = (flag? column.primary).getD false := by
  unfold specified
  split <;> rfl

/-- A primary key is never null. -/
theorem allowNull_specified :
    (specified config identifier mapping column).allowNull
      = ((flag? column.allowNull).getD true
        && !(specified config identifier mapping column).primary) := by
  unfold specified
  split <;> rfl

theorem version_specified :
    (specified config identifier mapping column).version
      = column.version.positive?.getD firstVersion := by
  unfold specified
  split <;> rfl

/-- The field of a specification repeats what the specification says. -/
theorem field_specified :
    (specified config identifier mapping column).field
      = let spec := specified config identifier mapping column
        some ⟨spec.constantName, spec.kind.columnClass, spec.columnName, spec.allowNull,
          spec.primary, spec.version⟩ := by
  unfold specified
  split <;> rfl

/-- Versions count from one. -/
theorem one_le_version_specified : 1 ≤ (specified config identifier mapping column).version := by
  rw [version_specified]
  unfold Value.positive?
  split
  next n =>
    split
    next h => exact h
    next => exact Int.le_refl 1
  next => exact Int.le_refl 1

/-- With accessors on, a specification has both, under the names of its identifier. -/
theorem accessors_specified (haccessors : config.generateAccessors = true) :
    let spec := specified config identifier mapping column
    let names := AccessorNames.ofIdentifier identifier
    spec.accessorNames = some names
      ∧ spec.getter = some (Accessor.getterOf names spec.constantName mapping)
      ∧ spec.setter = some (Accessor.setterOf names spec.constantName mapping) := by
  simp [specified, haccessors, withAccessors]

/-- With accessors off, a specification has none. -/
theorem no_accessors_specified (haccessors : config.generateAccessors = false) :
    let spec := specified config identifier mapping column
    spec.accessorNames = none ∧ spec.getter = none ∧ spec.setter = none := by
  simp [specified, haccessors, plain]

/-- A specification is complete whenever there is one. -/
theorem isComplete_specified :
    (specified config identifier mapping column).isComplete config.generateAccessors = true := by
  unfold specified isComplete
  split
  next h => simp [withAccessors, plain]
  next h => simp [h, plain]

/-- The names that a specification takes are different. -/
theorem nodup_names_specified (hidentifier : identifier ≠ "") :
    (specified config identifier mapping column).names.Nodup := by
  have hconstant := head?_constantName (chooseName column.name identifier)
  have hgetter := head?_getterName hidentifier
  have hsetter := head?_setterName hidentifier
  unfold specified names
  split
  next h =>
    simp only [withAccessors, plain, AccessorNames.ofIdentifier, List.nodup_cons]
    grind
  next h => simp [plain]

end ColumnSpec

end RecordForge

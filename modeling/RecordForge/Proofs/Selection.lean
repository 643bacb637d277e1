import Mathlib.Data.List.Flatten
import Mathlib.Data.List.Nodup
import RecordForge.Proofs.Entries
import RecordForge.Proofs.Specification
import RecordForge.Selection

/-!
# The fields that are kept

Selecting reports on the way; which fields it keeps is a function of the declared fields and the
names taken so far. `keptFrom` is that function, each kept field with its specification, and
`result_selectFrom` says that selecting gives these specifications. The invariant of the recursion
is that no kept field takes a name that is taken already, so that in the end all names that the kept
fields take are different (`nodup_names_keptFields`).
-/

namespace RecordForge

open ColumnSpec

/-- A field that is kept, with its specification. -/
structure KeptField where
  field : FieldDeclaration
  spec : ColumnSpec

/-- The fields that are kept, given the owners of names so far. -/
def keptFrom (config : Config) (owners : Owners) : List FieldDeclaration → List KeptField
  | [] => []
  | field :: rest =>
    match (ofField config field).result with
    | none => keptFrom config owners rest
    | some spec =>
      match clash? owners spec.names with
      | some _ => keptFrom config owners rest
      | none =>
        ⟨field, spec⟩
          :: keptFrom config (putEntries owners (spec.names.map (·, field.identifier))) rest

/-- The fields of a type that are kept. -/
def keptFields (config : Config) (fields : List FieldDeclaration) : List KeptField :=
  keptFrom config [] fields

/-- The specifications of the fields that are kept. -/
def keptSpecs (config : Config) (fields : List FieldDeclaration) : List ColumnSpec :=
  (keptFields config fields).map (·.spec)

/-! ## Selecting keeps these fields -/

/-- A specification that a field has is complete. -/
theorem isComplete_of_result_ofField {config : Config} {field : FieldDeclaration}
    {spec : ColumnSpec} (h : (ofField config field).result = some spec) :
    spec.isComplete config.generateAccessors = true := by
  obtain ⟨identifier, typeName, mapping, -, -, -, -, -, rfl⟩ := result_ofField_eq_some_iff.mp h
  exact isComplete_specified config identifier mapping field.column

theorem result_selectFrom (config : Config) (fields : List FieldDeclaration) :
    ∀ owners : Owners,
      (selectFrom config owners fields).result = (keptFrom config owners fields).map (·.spec) := by
  induction fields with
  | nil => exact fun _ => rfl
  | cons field rest ih =>
    intro owners
    rw [selectFrom, keptFrom, Reported.result_bind]
    cases hspec : (ofField config field).result with
    | none => exact ih owners
    | some spec =>
      simp only [if_pos (isComplete_of_result_ofField hspec)]
      cases hclash : clash? owners spec.names with
      | none => simp [ih]
      | some found => simp [ih]

/-- **Selecting in closed form**: the specifications of the kept fields. -/
theorem result_select (config : Config) (fields : List FieldDeclaration) :
    (select config fields).result = keptSpecs config fields :=
  result_selectFrom config fields []

theorem mem_keptSpecs {config : Config} {fields : List FieldDeclaration} {spec : ColumnSpec} :
    spec ∈ keptSpecs config fields ↔ ∃ k ∈ keptFields config fields, k.spec = spec :=
  List.mem_map

/-- A kept field is one of the fields, and its specification is that of the field. -/
theorem mem_keptFrom {config : Config} {fields : List FieldDeclaration} {k : KeptField} :
    ∀ {owners : Owners}, k ∈ keptFrom config owners fields →
      k.field ∈ fields ∧ (ofField config k.field).result = some k.spec := by
  induction fields with
  | nil => exact fun h => absurd h (by simp [keptFrom])
  | cons field rest ih =>
    intro owners h
    rw [keptFrom] at h
    split at h
    next => exact ⟨List.mem_cons_of_mem _ (ih h).1, (ih h).2⟩
    next spec hspec =>
      split at h
      next => exact ⟨List.mem_cons_of_mem _ (ih h).1, (ih h).2⟩
      next =>
        rcases List.mem_cons.mp h with rfl | hin
        · exact ⟨List.mem_cons_self .., hspec⟩
        · exact ⟨List.mem_cons_of_mem _ (ih hin).1, (ih hin).2⟩

theorem mem_keptFields {config : Config} {fields : List FieldDeclaration} {k : KeptField}
    (h : k ∈ keptFields config fields) :
    k.field ∈ fields ∧ (ofField config k.field).result = some k.spec :=
  mem_keptFrom h

/-! ## Names -/

/-- Names clash with none of the owned ones exactly if none of them is owned. -/
theorem clash?_eq_none_iff {owners : Owners} {names : List String} :
    clash? owners names = none ↔ ∀ name ∈ names, name ∉ owners.map Prod.fst := by
  induction names with
  | nil => simp [clash?]
  | cons name rest ih =>
    rw [clash?, List.forall_mem_cons, ← ih, ← contentAt?_eq_none_iff]
    cases hname : contentAt? owners name with
    | none => simp
    | some owner => simp

/-- The names that the kept fields take are different, and none of them was taken before. -/
theorem nodup_names_keptFrom (config : Config) (fields : List FieldDeclaration) :
    ∀ owners : Owners,
      ((keptFrom config owners fields).flatMap (·.spec.names)).Nodup
        ∧ ∀ name ∈ (keptFrom config owners fields).flatMap (·.spec.names),
            name ∉ owners.map Prod.fst := by
  induction fields with
  | nil => exact fun _ => by simp [keptFrom]
  | cons field rest ih =>
    intro owners
    rw [keptFrom]
    split
    next => exact ih owners
    next spec hspec =>
      split
      next => exact ih owners
      next hclash =>
        -- The names of the rest avoid those taken before and those that this field takes.
        obtain ⟨hrest, hfresh⟩ := ih (putEntries owners (spec.names.map (·, field.identifier)))
        have hkeys : ∀ name, name ∈ (putEntries owners (spec.names.map (·, field.identifier))).map
            Prod.fst ↔ name ∈ owners.map Prod.fst ∨ name ∈ spec.names := by
          intro name
          rw [mem_keys_putEntries]
          simp [Function.comp_def]
        have hown : spec.names.Nodup := by
          obtain ⟨identifier, typeName, mapping, -, hne, -, -, -, rfl⟩ :=
            result_ofField_eq_some_iff.mp hspec
          exact nodup_names_specified config identifier mapping field.column hne
        rw [List.flatMap_cons]
        constructor
        · refine List.nodup_append.mpr ⟨hown, hrest, ?_⟩
          rintro a ha b hb rfl
          exact hfresh a hb ((hkeys a).mpr (Or.inr ha))
        · intro name hname
          rcases List.mem_append.mp hname with hin | hin
          · exact clash?_eq_none_iff.mp hclash name hin
          · exact fun howned => hfresh name hin ((hkeys name).mpr (Or.inl howned))

/-- **No name is taken twice.** -/
theorem nodup_names_keptFields (config : Config) (fields : List FieldDeclaration) :
    ((keptFields config fields).flatMap (·.spec.names)).Nodup :=
  (nodup_names_keptFrom config fields []).1

/-- Whatever names each kept field picks of those it takes, the picked ones are different. -/
theorem nodup_flatMap_keptFields {config : Config} {fields : List FieldDeclaration}
    {picks : KeptField → List String}
    (hpicks : ∀ k ∈ keptFields config fields, (picks k).Sublist k.spec.names) :
    ((keptFields config fields).flatMap picks).Nodup :=
  (nodup_names_keptFields config fields).sublist (List.Sublist.flatMap_right _ hpicks)

/-- The constants of the kept columns are different. -/
theorem nodup_constantNames (config : Config) (fields : List FieldDeclaration) :
    ((keptSpecs config fields).map (·.constantName)).Nodup := by
  rw [keptSpecs, List.map_map, List.map_eq_flatMap]
  apply nodup_flatMap_keptFields
  intro k _
  rw [List.singleton_sublist]
  exact List.mem_cons_self ..

/-- Columns of the same name have the same constant, so the kept columns have different names. -/
theorem nodup_columnNames (config : Config) (fields : List FieldDeclaration) :
    ((keptSpecs config fields).map (·.columnName)).Nodup := by
  apply List.Nodup.of_map Naming.constantName
  rw [List.map_map]
  convert nodup_constantNames config fields using 1
  apply List.map_congr_left
  intro spec hspec
  obtain ⟨k, hk, rfl⟩ := mem_keptSpecs.mp hspec
  obtain ⟨identifier, typeName, mapping, -, -, -, -, -, heq⟩ :=
    result_ofField_eq_some_iff.mp (mem_keptFields hk).2
  rw [Function.comp_apply, heq, constantName_specified]

end RecordForge

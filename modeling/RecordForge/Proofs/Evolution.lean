import RecordForge.Proofs.ClassModel
import RecordForge.Proofs.Keeping

/-!
# Adding fields to a type

A type grows by fields that are added behind those it has. Whether a field is kept depends on the
fields before it only, so what was kept stays kept, with the same specification and in the same
place (`result_select_append`). Of a class the columns and accessors are made one field after the
other, hence go on behind the old ones. The groups are not: a column of an old version enters the
groups in the middle. But a group depends on the columns up to its version alone, so the groups up
to a version that all added columns exceed are those there were (`groups_upTo_append`).
-/

namespace RecordForge

namespace ColumnSpec

/-- The specifications that are kept of fields added behind others. -/
def addedSpecs (config : Config) (fields more : List FieldDeclaration) : List ColumnSpec :=
  (List.range more.length).filterMap fun k => keptAt? config (fields ++ more) (fields.length + k)

/-- An added specification is that of an added field. -/
theorem exists_field_of_mem_addedSpecs {config : Config} {fields more : List FieldDeclaration}
    {spec : ColumnSpec} (h : spec ∈ addedSpecs config fields more) :
    ∃ field ∈ more, (ofField config field).result = some spec := by
  obtain ⟨k, -, hkept⟩ := List.mem_filterMap.mp h
  obtain ⟨field, hfield, hspec⟩ := exists_field_of_keptAt? hkept
  rw [List.getElem?_append_right (Nat.le_add_right ..), Nat.add_sub_cancel_left] at hfield
  exact ⟨field, List.mem_of_getElem? hfield, hspec⟩

/-- **Selecting from more fields** keeps what it kept, and the added specifications behind it. -/
theorem result_select_append (config : Config) (fields more : List FieldDeclaration) :
    (select config (fields ++ more)).result
      = (select config fields).result ++ addedSpecs config fields more := by
  rw [result_select_eq_filterMap, result_select_eq_filterMap, List.length_append, List.range_add,
    List.filterMap_append, List.filterMap_map]
  congr 1
  apply List.filterMap_congr
  intro i hi
  exact keptAt?_append_left (List.mem_range.mp hi)

end ColumnSpec

open ColumnSpec

/-! ## Versions of more columns -/

section

variable {α : Type} {version : α → Int} {items more : List α} {w : Int}

/-- Items beyond a version make no difference to the items up to it. -/
theorem filter_upTo_append (hmore : ∀ a ∈ more, w < version a) :
    (items ++ more).filter (version · ≤ w) = items.filter (version · ≤ w) := by
  have hnone : more.filter (version · ≤ w) = [] := by
    rw [List.filter_eq_nil_iff]
    intro a ha
    have := hmore a ha
    simpa using this
  rw [List.filter_append, hnone, List.append_nil]

/-- Nor do they to the versions up to it. -/
theorem versionsOf_upTo_append (hmore : ∀ a ∈ more, w < version a) :
    (versionsOf version (items ++ more)).filter (· ≤ w)
      = (versionsOf version items).filter (· ≤ w) := by
  have hpairwise : ∀ list : List α, ((versionsOf version list).filter (· ≤ w)).Pairwise (· < ·) :=
    fun list => (pairwise_versionsOf version list).filter _
  have hnodup : ∀ list : List α, ((versionsOf version list).filter (· ≤ w)).Nodup :=
    fun list => (nodup_versionsOf version list).filter _
  -- Both ascend strictly, so that it is enough that they have the same members.
  have hperm : ((versionsOf version (items ++ more)).filter (· ≤ w)).Perm
      ((versionsOf version items).filter (· ≤ w)) := by
    rw [List.perm_ext_iff_of_nodup (hnodup _) (hnodup _)]
    intro u
    simp only [List.mem_filter, mem_versionsOf, List.mem_append, decide_eq_true_eq]
    refine and_congr_left fun hu => ⟨?_, ?_⟩
    · rintro ⟨a, ha | ha, rfl⟩
      · exact ⟨a, ha, rfl⟩
      · exact absurd (hmore a ha) (Int.not_lt.mpr hu)
    · rintro ⟨a, ha, rfl⟩
      exact ⟨a, Or.inl ha, rfl⟩
  exact hperm.eq_of_pairwise (fun a b _ _ h h' => by omega) (hpairwise _) (hpairwise _)

end

/-! ## The class of a type with more fields -/

namespace TypeDeclaration

/-- The type with fields added behind those it has. -/
def extend (d : TypeDeclaration) (more : List FieldDeclaration) : TypeDeclaration :=
  { d with fields := d.fields ++ more }

end TypeDeclaration

namespace ClassModel

variable {config : Config} {d : TypeDeclaration} {m : ClassModel}

/-- The model of a type with more fields, which there is if the added versions can be written. -/
theorem build_extend_eq_some_iff (more : List FieldDeclaration)
    (h : (build config d).result = .ok (some m)) {m' : ClassModel} :
    (build config (d.extend more)).result = .ok (some m')
      ↔ WritableVersions (addedSpecs config d.fields more)
        ∧ m' = ofSpecs config d (d.latestVersion.positive?.getD config.defaultVersion)
          (keptSpecs config d.fields ++ addedSpecs config d.fields more)
          (groupsOf (keptSpecs config d.fields ++ addedSpecs config d.fields more)) := by
  have hspecs : keptSpecs config (d.extend more).fields
      = keptSpecs config d.fields ++ addedSpecs config d.fields more := by
    rw [← result_select, ← result_select, TypeDeclaration.extend, result_select_append]
  obtain ⟨hkept, hwritable, -⟩ := build_eq_some_iff.mp h
  have hkept' : keptFields config (d.extend more).fields ≠ [] := by
    intro hnone
    have hempty : keptSpecs config (d.extend more).fields = [] := by
      rw [keptSpecs, hnone, List.map_nil]
    rw [hspecs, List.append_eq_nil_iff, keptSpecs, List.map_eq_nil_iff] at hempty
    exact hkept hempty.1
  have hboth : WritableVersions (keptSpecs config d.fields ++ addedSpecs config d.fields more)
      ↔ WritableVersions (addedSpecs config d.fields more) :=
    List.forall_mem_append.trans (and_iff_right hwritable)
  rw [build_eq_some_iff, and_iff_right hkept', hspecs, hboth]
  rfl

/-- The groups up to a version that the added columns exceed. -/
theorem groups_upTo_append (specs : List ColumnSpec) {added : List ColumnSpec} {w : Int}
    (hadded : ∀ spec ∈ added, w < spec.version) :
    (groupsOf (specs ++ added)).filter (·.version ≤ w)
      = (groupsOf specs).filter (·.version ≤ w) := by
  simp only [groupsOf, List.filter_map, Function.comp_def]
  rw [versionsOf_upTo_append hadded]
  apply List.map_congr_left
  intro u hu
  rw [List.mem_filter, decide_eq_true_eq] at hu
  have hbeyond : ∀ spec ∈ added, u < spec.version := by
    intro spec hspec
    exact Int.lt_of_le_of_lt hu.2 (hadded spec hspec)
  rw [filter_upTo_append hbeyond]

/-- A version of a model has exactly one group. -/
theorem filter_groups_of_mem_versions (h : (build config d).result = .ok (some m)) {w : Int}
    (hw : w ∈ m.versions) : ∃ group, m.groups.filter (·.version = w) = [group] := by
  have hgroups := groups_of_build h
  have hmem : w ∈ versionsOf (·.version) (keptSpecs config d.fields) := by
    rw [versions, hgroups, List.map_map] at hw
    simpa [Function.comp_def] using hw
  have hone : (versionsOf (·.version) (keptSpecs config d.fields)).filter (· = w) = [w] := by
    rw [List.filter_eq, List.count_eq_one_of_mem (nodup_versionsOf _ _) hmem, List.replicate_one]
  rw [hgroups, List.filter_map]
  exact ⟨_, congrArg (List.map _) hone⟩

/-- **Adding fields is stable.** Selecting keeps what it kept and adds behind it, whatever is added.
A type that has a model has one with the added fields too, unless the version of an added column has
no text. The columns and the accessors of that class go on behind the old ones, and each version
that all added columns exceed has the same group as before, as have all versions below it. -/
theorem build_extend_stable (config : Config) (d : TypeDeclaration)
    (more : List FieldDeclaration) :
    (select config (d.extend more).fields).result
        = (select config d.fields).result ++ addedSpecs config d.fields more
      ∧ (∀ spec ∈ addedSpecs config d.fields more,
          ∃ field ∈ more, (ofField config field).result = some spec)
      ∧ ∀ m, (build config d).result = .ok (some m) →
          ((∃ m', (build config (d.extend more)).result = .ok (some m'))
            ↔ ∀ spec ∈ addedSpecs config d.fields more, (Value.int spec.version).isWritable = true)
          ∧ ∀ m', (build config (d.extend more)).result = .ok (some m') →
            m.fields <+: m'.fields ∧ m.accessors <+: m'.accessors
            ∧ ∀ w ∈ m.versions, (∀ spec ∈ addedSpecs config d.fields more, w < spec.version) →
                (∃ group, m.groups.filter (·.version = w) = [group]
                  ∧ m'.groups.filter (·.version = w) = [group])
                ∧ m'.groups.filter (·.version ≤ w) = m.groups.filter (·.version ≤ w) := by
  refine ⟨result_select_append config d.fields more, ?_, ?_⟩
  · exact fun spec hspec => exists_field_of_mem_addedSpecs hspec
  intro m h
  refine ⟨⟨?_, ?_⟩, ?_⟩
  · rintro ⟨m', hm'⟩
    exact ((build_extend_eq_some_iff more h).mp hm').1
  · exact fun hwritable => ⟨_, (build_extend_eq_some_iff more h).mpr ⟨hwritable, rfl⟩⟩
  intro m' h'
  obtain ⟨-, -, hm⟩ := build_eq_some_iff.mp h
  obtain ⟨-, hm'⟩ := (build_extend_eq_some_iff more h).mp h'
  refine ⟨?_, ?_, ?_⟩
  · rw [hm, hm', ofSpecs, ofSpecs, List.filterMap_append]
    exact List.prefix_append ..
  · rw [hm, hm', ofSpecs, ofSpecs, List.flatMap_append]
    exact List.prefix_append ..
  intro w hw hadded
  have hbelow : m'.groups.filter (·.version ≤ w) = m.groups.filter (·.version ≤ w) := by
    rw [hm, hm']
    exact groups_upTo_append (keptSpecs config d.fields) hadded
  -- The group of a version is one of those up to it.
  have hown : ∀ groups : List VersionGroup, groups.filter (·.version = w)
      = (groups.filter (·.version ≤ w)).filter (·.version = w) := by
    intro groups
    rw [filter_filter_version groups (· ≤ w), if_pos (Int.le_refl w)]
  obtain ⟨group, hgroup⟩ := filter_groups_of_mem_versions h hw
  refine ⟨⟨group, hgroup, ?_⟩, hbelow⟩
  rw [hown, hbelow, ← hown, hgroup]

end ClassModel

end RecordForge

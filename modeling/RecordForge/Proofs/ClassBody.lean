import RecordForge.Proofs.Loading
import RecordForge.Proofs.NormalForm

/-!
# The body of a generated class

The body of a class binds names of three families: constants of columns, constants of versions, and
methods. As they are written, no two of them are the same, and whatever the class refers to is among
them (`sound_of_build`). The families begin differently, and so they do as names are read; hence two
names can only be read as one inside a family, and then they are two constants of columns or two
accessors (`nodup_readNames_iff`). Selecting compares names as they are written, and does not notice
that.
-/

namespace RecordForge

open RecordForge.Text

/-! ## The names of a source -/

namespace Dispatch

/-- The groups that a chain registers. -/
def groupNames : Dispatch → List String
  | .unknown _ => []
  | .whenVersion _ group otherwise => group :: otherwise.groupNames

theorem groupNames_ofGroups (groups : List VersionGroup) :
    (ofGroups groups).groupNames = groups.map (·.name) := by
  have hfold : ∀ known : List Int, (groups.foldr (fun g rest => .whenVersion g.version g.name rest)
      (.unknown known) : Dispatch).groupNames = groups.map (·.name) := by
    intro known
    induction groups with
    | nil => rfl
    | cons g groups ih => exact congrArg (g.name :: ·) ih
  exact hfold _

end Dispatch

/-- The names of its own class that a method body refers to. -/
def MethodBody.references : MethodBody → List String
  | .setUp _ => [registerName]
  | .delegate .. => []
  | .register dispatch => dispatch.groupNames
  | .fetch _ column _ => [column]
  | .store column _ _ => [column]

namespace ClassSource

/-- The names that the body of a class binds, in order. -/
def boundNames (s : ClassSource) : List String :=
  s.columns.map (·.constantName) ++ s.groups.map (·.name) ++ s.methods.map (·.name)

/-- The names of its own that a class refers to. -/
def references (s : ClassSource) : List String :=
  s.groups.flatMap (·.members) ++ s.methods.flatMap (·.body.references)

end ClassSource

/-! ## Imports -/

namespace ClassSource

theorem mem_insertName {name other : String} {names : List String} :
    other ∈ insertName name names ↔ other = name ∨ other ∈ names := by
  induction names with
  | nil => simp [insertName]
  | cons n rest ih =>
    unfold insertName
    split
    next heq =>
      rw [heq, List.mem_cons]
      exact (or_iff_right_of_imp Or.inl).symm
    next =>
      split
      next => rw [List.mem_cons]
      next => rw [List.mem_cons, List.mem_cons, ih, or_left_comm]

/-- Putting a name into names that ascend keeps them ascending. -/
theorem pairwise_insertName {name : String} {names : List String}
    (h : names.Pairwise (· < ·)) : (insertName name names).Pairwise (· < ·) := by
  induction names with
  | nil => exact List.pairwise_singleton ..
  | cons n rest ih =>
    obtain ⟨hfirst, hrest⟩ := List.pairwise_cons.mp h
    unfold insertName
    split
    next => exact h
    next hne =>
      split
      next hlt =>
        refine List.pairwise_cons.mpr ⟨?_, h⟩
        intro other hother
        rcases List.mem_cons.mp hother with rfl | hin
        · exact hlt
        · exact String.lt_trans hlt (hfirst other hin)
      next hle =>
        have hafter : n < name := by
          apply Classical.byContradiction
          intro hnot
          exact hne (String.le_antisymm (String.not_lt.mp hnot) (String.not_lt.mp hle))
        refine List.pairwise_cons.mpr ⟨?_, ih hrest⟩
        intro other hother
        rcases mem_insertName.mp hother with rfl | hin
        · exact hafter
        · exact hfirst other hin

/-- What is put in one by one is there, once and in ascending order. -/
theorem foldr_insertName (names : List String) :
    (names.foldr insertName []).Pairwise (· < ·)
      ∧ ∀ name, name ∈ names.foldr insertName [] ↔ name ∈ names := by
  induction names with
  | nil => exact ⟨List.Pairwise.nil, fun _ => Iff.rfl⟩
  | cons n rest ih =>
    refine ⟨pairwise_insertName ih.1, fun name => ?_⟩
    rw [List.foldr_cons, mem_insertName, ih.2, List.mem_cons]

end ClassSource

/-! ## Three families of names -/

/-- Names that begin like those of columns, of versions, and of neither. -/
theorem nodup_append_iff_of_beginnings {constants groups methods : List String}
    (hconstants : ∀ name ∈ constants, "COLUMN_".toList <+: name.toList)
    (hgroups : ∀ name ∈ groups, "COLUMNS".toList <+: name.toList)
    (hmethods : ∀ name ∈ methods, name.toList.head? ≠ some 'C') :
    (constants ++ groups ++ methods).Nodup
      ↔ constants.Nodup ∧ groups.Nodup ∧ methods.Nodup := by
  have hfirst : ∀ name ∈ constants ++ groups, name.toList.head? = some 'C' := by
    intro name hname
    rcases List.mem_append.mp hname with hin | hin
    · obtain ⟨rest, hrest⟩ := hconstants name hin
      rw [← hrest]
      rfl
    · obtain ⟨rest, hrest⟩ := hgroups name hin
      rw [← hrest]
      rfl
  have hapart : ∀ a ∈ constants, ∀ b ∈ groups, a ≠ b := by
    rintro a ha b hb rfl
    -- Two beginnings of one name, of the same length, would be the same.
    have hsame := List.prefix_of_prefix_length_le (hconstants a ha) (hgroups a hb) (by decide)
    exact absurd hsame (by decide)
  have hothers : ∀ a ∈ constants ++ groups, ∀ b ∈ methods, a ≠ b := by
    rintro a ha b hb rfl
    exact hmethods a hb (hfirst a ha)
  rw [List.nodup_append, List.nodup_append]
  exact ⟨fun h => ⟨h.1.1, h.1.2.1, h.2.1⟩, fun h => ⟨⟨h.1, h.2.1, hapart⟩, h.2.2, hothers⟩⟩

/-- A way to take names that leaves how those of a class begin: constants of versions and the three
fixed methods altogether, constants of columns up to their underscore, accessors in their first
letter. -/
structure KeepsBeginnings (f : String → String) : Prop where
  column : ∀ column, "COLUMN_".toList <+: (f (Naming.constantName column)).toList
  version : ∀ n : Nat, f (Naming.versionConstant n) = Naming.versionConstant n
  fixed : ∀ name ∈ ["__init__", "latest", registerName], f name = name
  getter : ∀ identifier, identifier ≠ "" →
    (f (Naming.accessorName identifier .getter)).toList.head? = some 'g'
  setter : ∀ identifier, identifier ≠ "" →
    (f (Naming.accessorName identifier .setter)).toList.head? = some 's'

/-- Taking names as they are written does. -/
theorem keepsBeginnings_id : KeepsBeginnings id where
  column column := by
    rw [id, Naming.toList_constantName]
    exact List.prefix_append ..
  version _ := rfl
  fixed _ _ := rfl
  getter _ h := Naming.head?_getterName h
  setter _ h := Naming.head?_setterName h

/-- **Taking names as they are read does**: what follows changes none of the beginnings. -/
theorem keepsBeginnings_readName : KeepsBeginnings readName where
  column column := by
    have hwritten : (Naming.constantName column).toList = "COLUMN".toList ++ '_' ::
        upper (column.toList.map fun c => if isWord c then c else '_') :=
      Naming.toList_constantName column
    exact (prefix_readName hwritten (by decide)).2 rfl
  version n :=
    readName_of_isPlainName (Naming.isPlainName_versionConstant (Int.natCast_nonneg n))
  fixed name hname := by
    have hplain : ∀ name ∈ ["__init__", "latest", registerName], isPlainName name = true := by
      decide
    exact readName_of_isPlainName (hplain name hname)
  getter identifier h := by
    have hwritten : (Naming.accessorName identifier .getter).toList
        = ['g'] ++ 'e' :: 't' :: Naming.capitalize (Naming.dropMark identifier.toList) :=
      Naming.toList_accessorName h .getter
    obtain ⟨rest, hrest⟩ := (prefix_readName hwritten (by decide)).1
    rw [← hrest]
    rfl
  setter identifier h := by
    have hwritten : (Naming.accessorName identifier .setter).toList
        = ['s'] ++ 'e' :: 't' :: Naming.capitalize (Naming.dropMark identifier.toList) :=
      Naming.toList_accessorName h .setter
    obtain ⟨rest, hrest⟩ := (prefix_readName hwritten (by decide)).1
    rw [← hrest]
    rfl

namespace ClassModel

variable {config : Config} {d : TypeDeclaration} {m : ClassModel}

/-! ## Names that are bound -/

/-- The columns of a model have different constants. -/
theorem nodup_constantName_fields (h : (build config d).result = .ok (some m)) :
    (m.fields.map (·.constantName)).Nodup := by
  have hnodup := nodup_constantNames config d.fields
  rw [keptSpecs, List.map_map] at hnodup
  rwa [fields_of_build h, List.map_map]

theorem boundNames_ofModel (h : (build config d).result = .ok (some m)) :
    (ClassSource.ofModel m).boundNames
      = m.fields.map (·.constantName) ++ m.groups.map (·.name)
        ++ (["__init__", "latest"] ++ registerName :: m.accessors.map (·.name)) := by
  rw [ClassSource.boundNames, map_name_methods, map_name_constructors h]
  rfl

section

variable {f : String → String}

theorem beginning_columns (h : (build config d).result = .ok (some m)) (hf : KeepsBeginnings f) :
    ∀ name ∈ m.fields.map fun field => f field.constantName,
      "COLUMN_".toList <+: name.toList := by
  rw [fields_of_build h, List.map_map, List.forall_mem_map]
  intro k hk
  obtain ⟨-, -, mapping, -, hspec⟩ := specified_of_mem_keptFields hk
  have hconstant := ColumnSpec.constantName_specified config k.identifier mapping k.field.column
  rw [← hspec] at hconstant
  show "COLUMN_".toList <+: (f k.spec.constantName).toList
  rw [hconstant]
  exact hf.column _

/-- The constants of versions are taken as they are. -/
theorem map_name_groups (h : (build config d).result = .ok (some m)) (hf : KeepsBeginnings f) :
    (m.groups.map fun group => f group.name)
      = (versionsOf (·.version) (keptSpecs config d.fields)).map Naming.versionConstant := by
  rw [groups_of_build h, List.map_map]
  apply List.map_congr_left
  intro w hw
  obtain ⟨n, rfl⟩ := Int.eq_ofNat_of_zero_le (Int.le_of_lt (pos_of_mem_versionsOf hw))
  exact hf.version n

theorem beginning_groups (h : (build config d).result = .ok (some m)) (hf : KeepsBeginnings f) :
    ∀ name ∈ m.groups.map fun group => f group.name, "COLUMNS".toList <+: name.toList := by
  rw [map_name_groups h hf, List.forall_mem_map]
  intro w hw
  obtain ⟨n, rfl⟩ := Int.eq_ofNat_of_zero_le (Int.le_of_lt (pos_of_mem_versionsOf hw))
  rw [Naming.toList_versionConstant]
  exact List.IsPrefix.trans (by decide) (List.prefix_append ..)

theorem beginning_accessors (h : (build config d).result = .ok (some m)) (hf : KeepsBeginnings f) :
    ∀ name ∈ m.accessors.map fun accessor => f accessor.name,
      name.toList.head? = some 'g' ∨ name.toList.head? = some 's' := by
  rw [List.forall_mem_map]
  intro a ha
  obtain ⟨k, hk, mapping, -, hkind⟩ := accessor_of_mem h ha
  obtain ⟨hne, -⟩ := specified_of_mem_keptFields hk
  rcases hkind with rfl | rfl
  · exact Or.inl (hf.getter _ hne)
  · exact Or.inr (hf.setter _ hne)

/-- **Names that are taken for one**: if the beginnings are kept, the names that a class binds stay
different exactly if the constants of its columns do, and its accessors do. -/
theorem nodup_map_boundNames_iff (h : (build config d).result = .ok (some m))
    (hf : KeepsBeginnings f) :
    ((ClassSource.ofModel m).boundNames.map f).Nodup
      ↔ (m.fields.map fun field => f field.constantName).Nodup
        ∧ (m.accessors.map fun accessor => f accessor.name).Nodup := by
  have haccessors := beginning_accessors h hf
  have hmethods : (["__init__", "latest"] ++ registerName :: m.accessors.map (·.name)).map f
      = ["__init__", "latest"] ++ registerName
          :: m.accessors.map fun accessor => f accessor.name := by
    have hfixed := hf.fixed
    simp only [List.forall_mem_cons] at hfixed
    simp only [List.map_append, List.map_cons, List.map_nil, List.map_map, hfixed.1, hfixed.2.1,
      hfixed.2.2.1]
    rfl
  have hothers : ∀ name ∈ ["__init__", "latest"] ++ registerName :: m.accessors.map
      fun accessor => f accessor.name, name.toList.head? ≠ some 'C' := by
    simp only [List.forall_mem_append, List.forall_mem_cons]
    refine ⟨⟨by decide, by decide, by simp⟩, by decide, ?_⟩
    intro name hname
    rcases haccessors name hname with hhead | hhead
    · simp [hhead]
    · simp [hhead]
  have hversions : (m.groups.map fun group => f group.name).Nodup :=
    map_name_groups h hf ▸ nodup_versionConstants config d.fields
  rw [boundNames_ofModel h, List.map_append, List.map_append, hmethods, List.map_map, List.map_map]
  refine (nodup_append_iff_of_beginnings (beginning_columns h hf) (beginning_groups h hf)
    hothers).trans ?_
  rw [nodup_methods_iff haccessors]
  exact ⟨fun hall => ⟨hall.1, hall.2.2⟩, fun hboth => ⟨hboth.1, hversions, hboth.2⟩⟩

end

/-- **No name is bound twice**, as the names are written. -/
theorem nodup_boundNames (h : (build config d).result = .ok (some m)) :
    (ClassSource.ofModel m).boundNames.Nodup := by
  rw [← List.map_id (ClassSource.ofModel m).boundNames,
    nodup_map_boundNames_iff h keepsBeginnings_id]
  exact ⟨nodup_constantName_fields h, nodup_accessorNames h⟩

/-- Two columns of a model with the same constant are one. -/
theorem eq_of_constantName_eq (h : (build config d).result = .ok (some m)) {f g : ColumnField}
    (hf : f ∈ m.fields) (hg : g ∈ m.fields) (heq : f.constantName = g.constantName) : f = g :=
  List.inj_on_of_nodup_map (nodup_constantName_fields h) hf hg heq

/-- The columns of a model have different names. -/
theorem nodup_columnName_fields (h : (build config d).result = .ok (some m)) :
    (m.fields.map (·.columnName)).Nodup := by
  have hnodup := nodup_columnNames config d.fields
  rw [keptSpecs, List.map_map] at hnodup
  rwa [fields_of_build h, List.map_map]

/-! ## Versions -/

/-- The members of a group are the constants of the columns up to its version. -/
theorem members_perm (h : (build config d).result = .ok (some m)) {g : VersionGroup}
    (hg : g ∈ m.groups) :
    g.members.Perm ((m.fields.filter (·.version ≤ g.version)).map (·.constantName)) := by
  rw [groups_of_build h] at hg
  obtain ⟨w, -, rfl⟩ := List.mem_map.mp hg
  have hsame : (m.fields.filter (·.version ≤ w)).map (·.constantName)
      = ((keptSpecs config d.fields).filter (·.version ≤ w)).map (·.constantName) := by
    rw [fields_of_build h, keptSpecs, List.filter_map, List.filter_map, List.map_map, List.map_map]
    rfl
  rw [hsame]
  exact (inVersionOrder_perm _ _).map _

/-- A column is a member of the groups from its version on, once. -/
theorem count_members (h : (build config d).result = .ok (some m)) {g : VersionGroup}
    (hg : g ∈ m.groups) {f : ColumnField} (hf : f ∈ m.fields) :
    g.members.count f.constantName = if f.version ≤ g.version then 1 else 0 := by
  have hnodup : ((m.fields.filter (·.version ≤ g.version)).map (·.constantName)).Nodup :=
    (nodup_constantName_fields h).sublist (List.filter_sublist.map _)
  rw [(members_perm h hg).count_eq]
  split
  next hle =>
    apply List.count_eq_one_of_mem hnodup
    exact List.mem_map_of_mem (List.mem_filter.mpr ⟨hf, by simpa using hle⟩)
  next hlt =>
    rw [List.count_eq_zero, List.mem_map]
    rintro ⟨f', hf', heq⟩
    rw [List.mem_filter] at hf'
    rw [eq_of_constantName_eq h hf'.1 hf heq] at hf'
    exact hlt (by simpa using hf'.2)

/-- The versions of a model. -/
theorem map_version_groups (h : (build config d).result = .ok (some m)) :
    m.groups.map (·.version) = versionsOf (·.version) m.fields := by
  have hsame : versionsOf (·.version) m.fields
      = versionsOf (·.version) (keptSpecs config d.fields) := by
    rw [fields_of_build h, versionsOf, versionsOf, keptSpecs, List.map_map, List.map_map]
    rfl
  rw [hsame, groups_of_build h, List.map_map]
  exact List.map_id _

/-- Every column has its version among those of the groups. -/
theorem version_mem_groups (h : (build config d).result = .ok (some m)) {f : ColumnField}
    (hf : f ∈ m.fields) : f.version ∈ m.groups.map (·.version) := by
  rw [map_version_groups h, mem_versionsOf]
  exact ⟨f, hf, rfl⟩

/-- The last group of a model has all its columns. -/
theorem exists_last_group (h : (build config d).result = .ok (some m)) :
    ∃ last, m.groups.getLast? = some last ∧ last.members.Perm (m.fields.map (·.constantName)) := by
  cases hlast : m.groups.getLast? with
  | none =>
    -- Every column has a group, so that without groups there are no columns.
    have hfields : m.fields = [] := by
      rw [List.eq_nil_iff_forall_not_mem]
      intro f hf
      have hmem := version_mem_groups h hf
      rw [List.getLast?_eq_none_iff.mp hlast] at hmem
      exact absurd hmem List.not_mem_nil
    rw [fields_of_build h, List.map_eq_nil_iff] at hfields
    exact absurd hfields (build_eq_some_iff.mp h).1
  | some last =>
    obtain ⟨groups, hgroups⟩ := List.getLast?_eq_some_iff.mp hlast
    have hascending := pairwise_versionsOf (·.version) m.fields
    rw [← map_version_groups h, hgroups, List.map_append, List.pairwise_append] at hascending
    -- Versions ascend, so that no column is of a later version than the last group.
    have hall : m.fields.filter (·.version ≤ last.version) = m.fields := by
      rw [List.filter_eq_self]
      intro f hf
      have hmem := version_mem_groups h hf
      rw [hgroups, List.map_append, List.mem_append] at hmem
      rw [decide_eq_true_eq]
      rcases hmem with hbefore | hin
      · exact Int.le_of_lt (hascending.2.2 _ hbefore _ (List.mem_singleton_self _))
      · exact Int.le_of_eq (List.mem_singleton.mp hin)
    have hperm := members_perm h (List.mem_of_getLast? hlast)
    rw [hall] at hperm
    exact ⟨last, rfl, hperm⟩

/-- No group of a model is empty. -/
theorem members_ne_nil (h : (build config d).result = .ok (some m)) {g : VersionGroup}
    (hg : g ∈ m.groups) : g.members ≠ [] := by
  have hversion : g.version ∈ m.groups.map (·.version) := List.mem_map_of_mem hg
  rw [map_version_groups h, mem_versionsOf] at hversion
  obtain ⟨f, hf, heq⟩ := hversion
  have hcount := count_members h hg hf
  rw [if_pos (Int.le_of_eq heq)] at hcount
  intro hnil
  rw [hnil, List.count_nil] at hcount
  exact absurd hcount (by decide)

/-! ## Accessors -/

/-- The accessors of a model are a getter and a setter for each column in order, or none at all. -/
theorem map_accessors (h : (build config d).result = .ok (some m)) :
    (m.accessors.map fun a => (a.kind, a.constantName))
      = if config.generateAccessors then
          m.fields.flatMap fun f => [(.getter, f.constantName), (.setter, f.constantName)]
        else [] := by
  rw [accessors_of_build h, List.map_flatMap]
  cases haccessors : config.generateAccessors with
  | false =>
    rw [if_neg Bool.false_ne_true, List.flatMap_eq_nil_iff]
    intro k hk
    rw [no_accessors_of_mem_keptFields hk haccessors, List.map_nil]
  | true =>
    rw [if_pos rfl, fields_of_build h, List.flatMap_map]
    apply List.flatMap_congr
    intro k hk
    obtain ⟨mapping, -, -, hboth, -⟩ := accessors_of_mem_keptFields hk haccessors
    rw [hboth]
    rfl

/-- The constant that an accessor uses is that of exactly one column. -/
theorem existsUnique_field (h : (build config d).result = .ok (some m)) {a : Accessor}
    (ha : a ∈ m.accessors) : ∃! f, f ∈ m.fields ∧ f.constantName = a.constantName := by
  obtain ⟨f, hf, heq⟩ : ∃ f ∈ m.fields, f.constantName = a.constantName := by
    obtain ⟨k, hk, mapping, -, hkind⟩ := accessor_of_mem h ha
    refine ⟨k.spec.columnField, ?_, ?_⟩
    · rw [fields_of_build h]
      exact List.mem_map_of_mem hk
    · rcases hkind with rfl | rfl <;> rfl
  refine ⟨f, ⟨hf, heq⟩, ?_⟩
  rintro f' ⟨hf', heq'⟩
  exact eq_of_constantName_eq h hf' hf (heq'.trans heq.symm)

/-! ## References -/

/-- **Whatever the class refers to, it binds.** -/
theorem mem_boundNames_of_mem_references (h : (build config d).result = .ok (some m))
    {name : String} (hname : name ∈ (ClassSource.ofModel m).references) :
    name ∈ (ClassSource.ofModel m).boundNames := by
  have hcolumn : ∀ name ∈ m.fields.map (·.constantName),
      name ∈ (ClassSource.ofModel m).boundNames := by
    intro name hin
    rw [boundNames_ofModel h]
    exact List.mem_append_left _ (List.mem_append_left _ hin)
  have hgroup : ∀ name ∈ m.groups.map (·.name), name ∈ (ClassSource.ofModel m).boundNames := by
    intro name hin
    rw [boundNames_ofModel h]
    exact List.mem_append_left _ (List.mem_append_right _ hin)
  have hregister : registerName ∈ (ClassSource.ofModel m).boundNames := by
    rw [boundNames_ofModel h]
    exact List.mem_append_right _ (by simp)
  rcases List.mem_append.mp hname with hmember | hmethod
  · obtain ⟨g, hg, hin⟩ := List.mem_flatMap.mp hmember
    have hperm := (members_perm h hg).mem_iff.mp hin
    exact hcolumn name ((List.filter_sublist.map _).mem hperm)
  · obtain ⟨x, hx, hin⟩ := List.mem_flatMap.mp hmethod
    -- Constructors use the method that registers, this one the groups, accessors their column.
    rcases List.mem_append.mp hx with hfixed | haccessor
    · rcases List.mem_append.mp hfixed with hconstructor | hregistering
      · obtain ⟨c, -, rfl⟩ := List.mem_map.mp hconstructor
        unfold Method.ofConstructor at hin
        split at hin
        next =>
          rw [List.mem_singleton.mp hin]
          exact hregister
        next => exact absurd hin List.not_mem_nil
      · rw [List.mem_singleton.mp hregistering] at hin
        rw [Method.registering, MethodBody.references, Dispatch.groupNames_ofGroups] at hin
        exact hgroup name hin
    · obtain ⟨a, ha, rfl⟩ := List.mem_map.mp haccessor
      obtain ⟨f, ⟨hf, heq⟩, -⟩ := existsUnique_field h ha
      have hreferences : (Method.ofAccessor a).body.references = [a.constantName] := by
        unfold Method.ofAccessor
        split <;> rfl
      rw [hreferences, List.mem_singleton] at hin
      rw [hin, ← heq]
      exact hcolumn _ (List.mem_map_of_mem hf)

/-! ## The whole body -/

/-- What makes the body of a class sound. -/
structure Sound (config : Config) (m : ClassModel) : Prop where
  /-- No name is bound twice, as the names are written. -/
  bound : (ClassSource.ofModel m).boundNames.Nodup
  /-- As they are read, only two constants of columns or two accessors may be one name. -/
  read : ((ClassSource.ofModel m).boundNames.map readName).Nodup
    ↔ (m.fields.map fun f => readName f.constantName).Nodup
      ∧ (m.accessors.map fun a => readName a.name).Nodup
  /-- Whatever is referred to is bound. -/
  references : ∀ name ∈ (ClassSource.ofModel m).references,
    name ∈ (ClassSource.ofModel m).boundNames
  columnNames : (m.fields.map (·.columnName)).Nodup
  /-- Each column has a getter and a setter, or none has. -/
  accessors : (m.accessors.map fun a => (a.kind, a.constantName))
    = if config.generateAccessors then
        m.fields.flatMap fun f => [(.getter, f.constantName), (.setter, f.constantName)]
      else []
  targets : ∀ a ∈ m.accessors, ∃! f, f ∈ m.fields ∧ f.constantName = a.constantName
  ascending : (m.groups.map (·.version)).Pairwise (· < ·)
  nonempty : ∀ g ∈ m.groups, g.members ≠ []
  /-- A column is a member of the groups from its version on, once. -/
  members : ∀ g ∈ m.groups, ∀ f ∈ m.fields,
    g.members.count f.constantName = if f.version ≤ g.version then 1 else 0
  last : ∃ g, m.groups.getLast? = some g ∧ g.members.Perm (m.fields.map (·.constantName))
  importsAscend : (ClassSource.ofModel m).imports.Pairwise (· < ·)
  imports : ∀ name, name ∈ (ClassSource.ofModel m).imports
    ↔ name = m.superclass ∨ name = unknownVersionName ∨ ∃ f ∈ m.fields, f.columnClass = name

/-- **The body of a generated class is sound.** -/
theorem sound_of_build (h : (build config d).result = .ok (some m)) : Sound config m where
  bound := nodup_boundNames h
  read := nodup_map_boundNames_iff h keepsBeginnings_readName
  references _ := mem_boundNames_of_mem_references h
  columnNames := nodup_columnName_fields h
  accessors := map_accessors h
  targets _ := existsUnique_field h
  ascending := by
    rw [map_version_groups h]
    exact pairwise_versionsOf (·.version) m.fields
  nonempty _ := members_ne_nil h
  members _ hg _ := count_members h hg
  last := exists_last_group h
  importsAscend := (ClassSource.foldr_insertName _).1
  imports name := by
    show name ∈ (m.superclass :: unknownVersionName :: m.fields.map (·.columnClass)).foldr
      ClassSource.insertName [] ↔ _
    rw [(ClassSource.foldr_insertName _).2, List.mem_cons, List.mem_cons, List.mem_map]

/-- A type with two columns whose names are spelled with the letter A, once of full width. -/
def letters : TypeDeclaration where
  package := "app"
  name := "Sheet"
  fields := [⟨some "mFirst", some "int", { name := some "A" }⟩,
    ⟨some "mSecond", some "int", { name := some "Ａ" }⟩]

set_option maxRecDepth 10000 in
theorem build_letters :
    (build {} letters).result = .ok (some (ofSpecs {} letters 1 (keptSpecs {} letters.fields)
      (groupsOf (keptSpecs {} letters.fields)))) :=
  build_eq_some_iff.mpr ⟨fun h => absurd (congrArg List.length h) (by decide), by decide, rfl⟩

set_option maxRecDepth 10000 in
/-- Both columns are kept, in a body that is sound. -/
theorem sound_letters :
    ∃ m, (build {} letters).result = .ok (some m) ∧ m.fields.length = 2 ∧ Sound {} m :=
  ⟨_, build_letters, by decide, sound_of_build build_letters⟩

set_option maxRecDepth 10000 in
/-- But their constants are read as one name, and the second column takes the place of the first. -/
theorem readNames_letters :
    ∃ m, (build {} letters).result = .ok (some m)
      ∧ m.fields.map (fun f => readName f.constantName) = ["COLUMN_A", "COLUMN_A"]
      ∧ ¬ ((ClassSource.ofModel m).boundNames.map readName).Nodup := by
  have hread : (ofSpecs {} letters 1 (keptSpecs {} letters.fields)
      (groupsOf (keptSpecs {} letters.fields))).fields.map (fun f => readName f.constantName)
        = ["COLUMN_A", "COLUMN_A"] := by decide
  refine ⟨_, build_letters, hread, ?_⟩
  intro hnodup
  have hconstants := ((nodup_map_boundNames_iff build_letters keepsBeginnings_readName).mp hnodup).1
  rw [hread] at hconstants
  exact absurd hconstants (by decide)

end ClassModel

end RecordForge

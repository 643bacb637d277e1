import RecordForge.Proofs.ClassModel
import RecordForge.Source.Text

/-!
# Which classes can be rendered

A source can be written if all versions in it have a text. The source of a model shows the versions
of its columns and groups and the one that its constructors delegate to (`mem_versions_ofModel`). Of
a model that was built, the columns and the groups have versions by which constants were named, so
only the latest version is left to have none (`render_eq_ok_iff_of_build`).
-/

namespace RecordForge

theorem Dispatch.versions_foldr (groups : List VersionGroup) (known : List Int) :
    (groups.foldr (fun g rest => Dispatch.whenVersion g.version g.name rest)
      (.unknown known)).versions = groups.map (·.version) ++ known := by
  induction groups with
  | nil => rfl
  | cons g groups ih => rw [List.foldr_cons, versions, ih, List.map_cons, List.cons_append]

/-- A chain over groups writes the versions of the groups. -/
theorem Dispatch.mem_versions_ofGroups {groups : List VersionGroup} {n : Int} :
    n ∈ (ofGroups groups).versions ↔ n ∈ groups.map (·.version) := by
  rw [ofGroups, versions_foldr, List.mem_append, or_self]

theorem Method.versions_ofConstructor (className : String) (c : Constructor) :
    (ofConstructor className c).body.versions = c.delegateVersion.toList := by
  rw [ofConstructor]
  cases c.delegateVersion <;> rfl

theorem Method.versions_ofAccessor (a : Accessor) : (ofAccessor a).body.versions = [] := by
  rw [ofAccessor]
  cases a.kind <;> rfl

namespace ClassModel

variable {m : ClassModel} {config : Config} {d : TypeDeclaration}

/-- The versions that the source of a model shows. -/
theorem mem_versions_ofModel {n : Int} :
    n ∈ (ClassSource.ofModel m).versions
      ↔ n ∈ m.fields.map (·.version) ∨ n ∈ m.constructors.flatMap (·.delegateVersion.toList)
        ∨ n ∈ m.versions := by
  have hconstructors : (m.constructors.map (Method.ofConstructor m.className)).flatMap
      (·.body.versions) = m.constructors.flatMap (·.delegateVersion.toList) := by
    rw [List.flatMap_map]
    exact List.flatMap_congr fun c _ => Method.versions_ofConstructor m.className c
  have haccessors : (m.accessors.map Method.ofAccessor).flatMap (·.body.versions) = [] := by
    rw [List.flatMap_map, List.flatMap_eq_nil_iff]
    exact fun a _ => Method.versions_ofAccessor a
  rw [ClassSource.versions, ClassSource.ofModel, List.flatMap_append, List.flatMap_append,
    hconstructors, haccessors, List.append_nil, List.mem_append, List.mem_append,
    List.flatMap_singleton, Method.registering, MethodBody.versions,
    Dispatch.mem_versions_ofGroups]
  rfl

/-- A source is written if the versions that it shows have a text. -/
theorem render_eq_ok_iff {text : String} :
    m.render = .ok text
      ↔ (∀ n ∈ (ClassSource.ofModel m).versions, (Value.int n).isWritable = true)
        ∧ text = m.text := by
  rw [render, ClassSource.render, Value.writing_eq_ok_iff, List.forall_mem_map]
  rfl

/-- The versions that a built model shows have a text if the latest one has. -/
theorem forall_versions_of_build (h : (build config d).result = .ok (some m)) :
    (∀ n ∈ (ClassSource.ofModel m).versions, (Value.int n).isWritable = true)
      ↔ (Value.int m.latestVersion).isWritable = true := by
  obtain ⟨-, hwritable, hm⟩ := build_eq_some_iff.mp h
  -- Constants were named by the versions of the columns and of the groups.
  have hversions : ∀ w ∈ versionsOf (·.version) (keptSpecs config d.fields),
      (Value.int w).isWritable = true := forall_mem_versionsOf_iff.mpr hwritable
  have hdelegated : m.constructors.flatMap (·.delegateVersion.toList) = [m.latestVersion] := by
    rw [hm]
    rfl
  simp only [mem_versions_ofModel, hdelegated, List.mem_singleton]
  constructor
  · exact fun hall => hall _ (Or.inr (Or.inl rfl))
  · rintro hlatest n (hfield | rfl | hgroup)
    · rw [fields_of_build h, List.map_map] at hfield
      obtain ⟨k, hk, rfl⟩ := List.mem_map.mp hfield
      exact hwritable k.spec (List.mem_map_of_mem hk)
    · exact hlatest
    · rw [versions, groups_of_build h, List.map_map] at hgroup
      obtain ⟨w, hw, rfl⟩ := List.mem_map.mp hgroup
      exact hversions w hw

/-- **When a built model can be rendered**: its latest version has a text. -/
theorem render_eq_ok_iff_of_build (h : (build config d).result = .ok (some m)) {text : String} :
    m.render = .ok text ↔ (Value.int m.latestVersion).isWritable = true ∧ text = m.text := by
  rw [render_eq_ok_iff, forall_versions_of_build h]

end ClassModel

end RecordForge

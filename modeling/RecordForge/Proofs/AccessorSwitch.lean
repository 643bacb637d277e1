import RecordForge.Proofs.ClassModel
import RecordForge.Proofs.Reports

/-!
# Switching accessors off

Two runs over the same declaration, one with accessors and one without. A specification without
accessors is that of the other run laid bare (`ColumnSpec.bare`), and it takes fewer names, so that
without accessors no field is a duplicate that was none with them. If with accessors there is no
duplicate at all, the runs keep the same fields and report the same (`selectFrom_withAccessors`),
and the class models differ in the accessors alone (`build_withAccessors`).
-/

namespace RecordForge

/-- The same choices with accessors switched on or off. -/
def Config.withAccessors (config : Config) (on : Bool) : Config :=
  { config with generateAccessors := on }

/-! ## One field -/

namespace ColumnSpec

/-- The specification without its accessors. -/
def bare (spec : ColumnSpec) : ColumnSpec :=
  { spec with accessorNames := none, getter := none, setter := none }

/-- Without accessors a specification takes only the name of its constant. -/
theorem names_bare (spec : ColumnSpec) : spec.bare.names = [spec.constantName] := rfl

theorem bare_withAccessors (name identifier : String) (mapping : TypeMapping)
    (allowNull primary : Bool) (version : Int) :
    ((plain name mapping allowNull primary version).withAccessors identifier mapping).bare
      = plain name mapping allowNull primary version := rfl

/-- Reading a field reports the same in both runs, and gives the same specification except for the
accessors. -/
theorem ofField_withAccessors (config : Config) (field : FieldDeclaration) :
    ofField (config.withAccessors false) field
      = do return (← ofField (config.withAccessors true) field).map bare := by
  have hmissing : ofField.missing field = do return (← ofField.missing field).map bare := by
    ext1 <;> simp [ofField.missing]
  unfold ofField
  split
  next identifier typeName _ _ =>
    split
    next => exact hmissing
    next =>
      unfold ofNamed
      cases TypeMapping.ofType? typeName with
      | none => ext1 <;> simp
      | some mapping => ext1 <;> simp [Config.withAccessors, bare_withAccessors]
  next => exact hmissing

/-! ## Selecting -/

/-- With accessors a specification takes the name of its constant and more. -/
theorem mem_names_of_mem_names_bare {spec : ColumnSpec} {name : String}
    (h : name ∈ spec.bare.names) : name ∈ spec.names := by
  rw [names_bare, List.mem_singleton] at h
  rw [names, h]
  exact List.mem_cons_self ..

/-- **Selecting without accessors**: as long as there is no duplicate with them, both runs report
the same and keep the same specifications except for the accessors. The invariant is that the run
without accessors owns no name that the other does not. -/
theorem selectFrom_withAccessors (config : Config) (fields : List FieldDeclaration) :
    ∀ owners bareOwners : Owners,
      (∀ name ∈ bareOwners.map Prod.fst, name ∈ owners.map Prod.fst) →
      (selectFrom (config.withAccessors true) owners fields).warningsOf duplicateFormat = [] →
      selectFrom (config.withAccessors false) bareOwners fields
        = do return (← selectFrom (config.withAccessors true) owners fields).map bare := by
  induction fields with
  | nil => exact fun _ _ _ _ => rfl
  | cons field rest ih =>
    intro owners bareOwners howners hnone
    rw [selectFrom, Reported.warningsOf_bind, warningsOf_ofField (by decide),
      List.nil_append] at hnone
    rw [selectFrom, selectFrom, ofField_withAccessors]
    cases hspec : (ofField (config.withAccessors true) field).result with
    | none =>
      rw [hspec] at hnone
      have hrest := ih owners bareOwners howners hnone
      ext1 <;> simp [hspec, hrest]
    | some spec =>
      have hcomplete : spec.isComplete (config.withAccessors true).generateAccessors = true :=
        isComplete_of_result_ofField hspec
      have hbare : spec.bare.isComplete (config.withAccessors false).generateAccessors = true := by
        rw [isComplete, Bool.and_eq_true] at hcomplete
        simpa [isComplete, bare, Config.withAccessors] using hcomplete.1
      rw [hspec] at hnone
      simp only [if_pos hcomplete] at hnone
      cases hclash : clash? owners spec.names with
      | some found =>
        -- A duplicate would have been reported.
        simp only [hclash, Reported.warningsOf_bind] at hnone
        have hwarn := (List.append_eq_nil_iff.mp hnone).1
        rw [← duplicateFormat, Reported.warningsOf_warn_self] at hwarn
        exact absurd hwarn (List.cons_ne_nil _ _)
      | none =>
        have hfree : clash? bareOwners spec.bare.names = none := by
          rw [clash?_eq_none_iff] at hclash ⊢
          intro name hname howned
          exact hclash name (mem_names_of_mem_names_bare hname) (howners name howned)
        have howners' : ∀ name ∈ (putEntries bareOwners
              (spec.bare.names.map (·, field.identifier))).map Prod.fst,
            name ∈ (putEntries owners (spec.names.map (·, field.identifier))).map Prod.fst := by
          intro name hname
          rw [mem_keys_putEntries] at hname ⊢
          refine hname.imp (howners name) ?_
          simp only [List.map_map, Function.comp_def, List.map_id']
          exact mem_names_of_mem_names_bare
        simp only [hclash, Reported.warningsOf_bind, Reported.warningsOf_pure,
          List.append_nil] at hnone
        have hrest := ih _ _ howners' hnone
        ext1 <;> simp [hspec, hcomplete, hbare, hclash, hfree, hrest]

end ColumnSpec

/-! ## The class model -/

namespace ClassModel

open ColumnSpec

/-- The totals of bare specifications are those of the others, laid bare. -/
theorem cumulative_map_bare (specs : List ColumnSpec) :
    (VersionGroups.partition (·.version) (specs.map bare)).cumulative
      = (VersionGroups.partition (·.version) specs).cumulative.map fun g =>
          (g.1, g.2.map bare) := by
  have hversions : versionsOf (·.version) (specs.map bare) = versionsOf (·.version) specs := by
    rw [versionsOf, List.map_map]
    rfl
  rw [VersionGroups.cumulative_partition, VersionGroups.cumulative_partition, hversions,
    List.map_map]
  apply List.map_congr_left
  intro w _
  rw [Function.comp_apply, List.filter_map, inVersionOrder_map]
  rfl

/-- Versions are grouped in the same way in both runs. -/
theorem ofGroups_map_bare (specs : List ColumnSpec) :
    VersionGroup.ofGroups (·.constantName) (VersionGroups.partition (·.version) (specs.map bare))
      = VersionGroup.ofGroups (·.constantName) (VersionGroups.partition (·.version) specs) := by
  rw [VersionGroup.ofGroups, VersionGroup.ofGroups, cumulative_map_bare, List.mapM_map]
  congr 1
  funext g
  rw [Function.comp_apply, VersionGroup.ofVersion, VersionGroup.ofVersion, List.map_map]
  rfl

/-- The model of bare specifications has no accessors, and all else as with them. -/
theorem ofSpecs_map_bare (config : Config) (d : TypeDeclaration) (latest : Int)
    (specs : List ColumnSpec) (groups : List VersionGroup) :
    ofSpecs (config.withAccessors false) d latest (specs.map bare) groups
      = { ofSpecs (config.withAccessors true) d latest specs groups with accessors := [] } := by
  have haccessors : (specs.map bare).flatMap accessorsOf = [] := by
    rw [List.flatMap_eq_nil_iff, List.forall_mem_map]
    exact fun _ _ => rfl
  simp only [ofSpecs, haccessors, List.filterMap_map]
  rfl

/-- What building gives, without the accessors. -/
def withoutAccessors (built : Except Unwritable (Option ClassModel)) :
    Except Unwritable (Option ClassModel) :=
  built.map (Option.map fun m => { m with accessors := [] })

/-- What follows the selection reports the same in both runs, and gives the same model except for
the accessors. -/
theorem ofSelected_map_bare (config : Config) (d : TypeDeclaration) (specs : List ColumnSpec) :
    ofSelected (config.withAccessors false) d (specs.map bare)
      = do return withoutAccessors (← ofSelected (config.withAccessors true) d specs) := by
  have hversions : (VersionGroups.partition (·.version) (specs.map bare)).map Prod.fst
      = (VersionGroups.partition (·.version) specs).map Prod.fst := by
    rw [VersionGroups.keys_partition, VersionGroups.keys_partition, versionsOf, List.map_map]
    rfl
  have hlatest : readLatestVersion (config.withAccessors false) d
      = readLatestVersion (config.withAccessors true) d := rfl
  have hname : (config.withAccessors false).classSuffix = (config.withAccessors true).classSuffix :=
    rfl
  unfold ofSelected
  rw [List.isEmpty_map]
  split
  next => rfl
  next =>
    simp only [hversions, hlatest, hname, List.length_map, ofGroups_map_bare]
    generalize readLatestVersion (config.withAccessors true) d = latest
    generalize (VersionGroups.partition (·.version) specs).map Prod.fst = versions
    -- Both runs stop at the same step, if they stop at all.
    cases VersionGroup.ofGroups (·.constantName) (VersionGroups.partition (·.version) specs) with
    | error e => ext1 <;> simp [withoutAccessors, Except.map]
    | ok groups =>
      cases hcheck : (checkLatestVersion d latest.result versions).result with
      | error e => ext1 <;> simp [hcheck, withoutAccessors, Except.map]
      | ok _ => ext1 <;> simp [hcheck, withoutAccessors, Except.map, ofSpecs_map_bare]

/-- **Switching accessors off changes only the accessors.** If the run with accessors reports no
duplicate, the run without them makes the same reports in the same order, both diagnostics and log
records; it fails or gives no model exactly if the other does, and otherwise gives the same model in
every part except that it has no accessors. -/
theorem build_withAccessors (config : Config) (d : TypeDeclaration)
    (h : (build (config.withAccessors true) d).warningsOf duplicateFormat = []) :
    (build (config.withAccessors false) d).events = (build (config.withAccessors true) d).events
      ∧ (build (config.withAccessors false) d).result
        = (build (config.withAccessors true) d).result.map
            (Option.map fun m => { m with accessors := [] }) := by
  rw [warningsOf_build_eq_select (by decide)] at h
  have hselect : select (config.withAccessors false) d.fields
      = do return (← select (config.withAccessors true) d.fields).map bare :=
    selectFrom_withAccessors config d.fields [] [] (fun _ hname => hname) h
  have hname : (config.withAccessors false).classSuffix = (config.withAccessors true).classSuffix :=
    rfl
  rw [build, build, hselect, hname]
  constructor
  · simp [ofSelected_map_bare]
  · simp [ofSelected_map_bare, withoutAccessors]

/-- A task with a title and a mark, which came with the second version. -/
def task : TypeDeclaration where
  package := "app.model"
  name := "Task"
  latestVersion := .int 2
  fields := [⟨some "mTitle", some "str", {}⟩, ⟨some "mDone", some "bool", { version := .int 2 }⟩]

/-- A task has four accessors or none, and nothing else of its class changes. -/
theorem build_task :
    ∃ m, (build (Config.withAccessors {} true) task).result = .ok (some m)
      ∧ (build (Config.withAccessors {} false) task).result
        = .ok (some { m with accessors := [] })
      ∧ m.accessors.length = 4 ∧ m.fields.length = 2 := by
  have hnone : (build (Config.withAccessors {} true) task).warningsOf duplicateFormat = [] := by
    rw [warningsOf_build_eq_select (by decide)]
    rfl
  obtain ⟨-, hresult⟩ := build_withAccessors {} task hnone
  have hbuild : (build (Config.withAccessors {} true) task).result
      = .ok (some (ofSpecs _ task 2 _ _)) :=
    build_eq_some_iff.mpr
      ⟨fun h => absurd (congrArg List.length h) (by decide), by decide, rfl⟩
  rw [hbuild] at hresult
  exact ⟨_, hbuild, hresult, by decide, by decide⟩

end ClassModel

end RecordForge

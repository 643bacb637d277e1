import RecordForge.Proofs.Construction
import RecordForge.Proofs.Reports

/-!
# The latest version

A generated class makes objects of its latest version by a method of its own. That method hands the
version on as it is, so it comes to what the class makes of that version (`constructBy_latest`):
objects if some column was introduced in it, and the error for an unknown version otherwise.
Building the model warns in exactly the second case (`warningsOf_emptyLatest`), so what goes wrong
with objects of the latest version was known when the class was generated (`latest_ofModel`).
-/

namespace RecordForge

open ColumnSpec

/-- A value holds no usable version exactly if it is no integer from one on. -/
theorem Value.positive?_eq_none_iff {v : Value} :
    v.positive? = none ↔ ¬ ∃ n, v = .int n ∧ 1 ≤ n := by
  unfold Value.positive?
  split
  next n => simp
  next h => exact iff_of_true rfl fun ⟨n, hn, _⟩ => h n hn

namespace ClassModel

variable {config : Config} {d : TypeDeclaration} {m : ClassModel}

/-! ## What is warned of -/

/-- The latest version of a model. -/
theorem latestVersion_of_build (hbuild : (build config d).result = .ok (some m)) :
    m.latestVersion = d.latestVersion.positive?.getD config.defaultVersion := by
  obtain ⟨-, -, rfl⟩ := build_eq_some_iff.mp hbuild
  rfl

/-- What building a model warns of besides its fields concerns the latest version: it is read, and
then looked up among the versions. -/
theorem warningsOf_build_latest (hbuild : (build config d).result = .ok (some m)) {format : String}
    (h : format ∉ FieldReport.formats) (hduplicate : format ≠ duplicateFormat) :
    (build config d).warningsOf format
      = (readLatestVersion config d).warningsOf format
        ++ (checkLatestVersion d m.latestVersion ((VersionGroups.partition (·.version)
          (keptSpecs config d.fields)).map Prod.fst)).warningsOf format := by
  obtain ⟨hkept, hwritable, -⟩ := build_eq_some_iff.mp hbuild
  have hspecs : ¬ (keptSpecs config d.fields).isEmpty = true := by simpa [keptSpecs] using hkept
  have hgroups := ofGroups_partition_eq_ok_iff.mpr ⟨hwritable, rfl⟩
  rw [warningsOf_build_eq_ofSelected h hduplicate, result_select, ofSelected, if_neg hspecs]
  simp only [Reported.warningsOf_bind, hgroups, Reported.proceed_ok,
    result_checkLatestVersion hwritable, Reported.warningsOf_log, Reported.warningsOf_pure,
    List.append_nil, result_readLatestVersion, ← latestVersion_of_build hbuild]

/-- Building a model warns of a latest version that cannot be used, once and naming it. -/
theorem warningsOf_invalidLatest (hbuild : (build config d).result = .ok (some m)) :
    (build config d).warningsOf invalidLatestFormat
      = if d.latestVersion.positive?.isSome then []
        else [⟨.warning, invalidLatestFormat,
          [.text d.qualifiedName, d.latestVersion, .int config.defaultVersion]⟩] := by
  rw [warningsOf_build_latest hbuild (by decide) (by decide),
    warningsOf_checkLatestVersion (by decide), List.append_nil, readLatestVersion]
  cases d.latestVersion.positive? with
  | some n => rfl
  | none => simp [Reported.warningsOf_warn_self]

/-- Building a model warns of a latest version exactly if no column was introduced in it. -/
theorem warningsOf_emptyLatest (hbuild : (build config d).result = .ok (some m)) :
    let versions := versionsOf (·.version) (keptSpecs config d.fields)
    (build config d).warningsOf emptyLatestFormat
      = if m.latestVersion ∈ versions then []
        else [⟨.warning, emptyLatestFormat, [.int m.latestVersion, .text d.qualifiedName,
          .text (", ".intercalate (versions.map toString))]⟩] := by
  obtain ⟨-, hwritable, -⟩ := build_eq_some_iff.mp hbuild
  rw [warningsOf_build_latest hbuild (by decide) (by decide),
    warningsOf_readLatestVersion (by decide), List.nil_append, checkLatestVersion,
    versionsText_partition hwritable, VersionGroups.keys_partition]
  dsimp only
  split
  next => rfl
  next =>
    rw [Reported.proceed_ok, Reported.warningsOf_bind, Reported.warningsOf_pure, List.append_nil,
      ← emptyLatestFormat, Reported.warningsOf_warn_self]

/-! ## Objects of the latest version -/

/-- **The method for the latest version** hands that version on to the class. -/
theorem constructBy_latest (hbuild : (build config d).result = .ok (some m)) (hread : m.Readable)
    (context : Value) :
    (m.loaded (keptSpecs config d.fields)).constructBy "latest" [context]
      = (m.loaded (keptSpecs config d.fields)).construct [context, .int m.latestVersion] := by
  have hnames := nameWithin_readName ["context"] (by decide) m.className
  simp only [List.forall_mem_cons] at hnames
  have hconstructor : (⟨"latest", ["context"], some m.latestVersion⟩ : Constructor)
      ∈ m.constructors := by
    obtain ⟨-, -, rfl⟩ := build_eq_some_iff.mp hbuild
    exact List.mem_cons_of_mem _ (List.mem_cons_self ..)
  have hmethod : (m.loaded (keptSpecs config d.fields)).method? "latest" = some _ :=
    method?_loaded hbuild hread _ (x := Method.ofConstructor m.className _)
      (List.mem_append_left _ (List.mem_append_left _ (List.mem_map_of_mem hconstructor)))
  have hbind : (m.loaded (keptSpecs config d.fields)).bindArguments
      (Method.asRead m.className (Method.ofConstructor m.className
        ⟨"latest", ["context"], some m.latestVersion⟩)) [context] = .ok [("context", context)] := by
    simp [Method.ofConstructor, Method.asRead, LoadedClass.bindArguments, LoadedClass.checkArity,
      hnames]
  rw [LoadedClass.constructBy, hmethod]
  simp only [hbind]
  rfl

/-- **Asking for the latest version fails exactly if generating the class warned of it.** The class
of a model that can be executed loads exactly if its latest version has a text, and its method for
the latest version comes to what the class makes of the context and that version. It ends in the
error for an unknown version exactly if building the model warned that the latest version has no
columns; otherwise there is an object, with the columns up to the latest version. That version is
the declared one if this is an integer from one on, and the configured one with a single warning if
it is anything else. -/
theorem latest_ofModel (hbuild : (build config d).result = .ok (some m)) (hexec : m.Executable) :
    let warned := (build config d).warningsOf emptyLatestFormat
    let replaced := (build config d).warningsOf invalidLatestFormat
    ((∃ c, LoadedClass.load (ClassSource.ofModel m) = .ok c)
        ↔ (Value.int m.latestVersion).isWritable = true)
      ∧ (∀ c, LoadedClass.load (ClassSource.ofModel m) = .ok c → ∀ context : Value,
          c.constructBy "latest" [context] = c.construct [context, .int m.latestVersion]
          ∧ ((∃ e, c.constructBy "latest" [context] = .error (.unknownVersion e)) ↔ warned ≠ [])
          ∧ (warned = [] → ∃ r, c.constructBy "latest" [context] = .ok r
            ∧ r.template.columns = (inVersionOrder (·.version)
                ((select config d.fields).result.filter (·.version ≤ m.latestVersion))).map column))
      ∧ (∀ n, d.latestVersion = .int n → 1 ≤ n → m.latestVersion = n ∧ replaced = [])
      ∧ ((¬ ∃ n, d.latestVersion = .int n ∧ 1 ≤ n) →
          m.latestVersion = config.defaultVersion
            ∧ replaced = [⟨.warning, invalidLatestFormat,
              [.text d.qualifiedName, d.latestVersion, .int config.defaultVersion]⟩]) := by
  have hlatest := latestVersion_of_build hbuild
  simp only [warningsOf_invalidLatest hbuild, warningsOf_emptyLatest hbuild]
  refine ⟨exists_load_ofModel_iff hbuild hexec.toReadable, ?_, ?_, ?_⟩
  · intro c hload context
    obtain ⟨hwritable, rfl⟩ := (load_ofModel_eq_ok_iff hbuild hexec.toReadable).mp hload
    have hsame := constructBy_latest hbuild hexec.toReadable context
    refine ⟨hsame, ?_⟩
    rw [hsame, construct_loaded hbuild hexec, outcomeOf, result_select]
    -- The class and the warning ask the same: whether some column has the latest version.
    by_cases hv : m.latestVersion ∈ versionsOf (·.version) (keptSpecs config d.fields)
    · simp only [if_pos hv]
      refine ⟨by simp, fun _ => ⟨_, rfl, ?_⟩⟩
      simp [created, Template.columns, columnsUpTo, Function.comp_def]
    · simp only [if_neg hv, if_pos hwritable]
      exact ⟨by simp, fun hnone => absurd hnone (List.cons_ne_nil _ _)⟩
  · intro n hn hpos
    have hpositive : d.latestVersion.positive? = some n := by rw [hn, Value.positive?, if_pos hpos]
    rw [hlatest, hpositive]
    exact ⟨rfl, rfl⟩
  · intro hnone
    rw [hlatest, Value.positive?_eq_none_iff.mpr hnone]
    exact ⟨rfl, rfl⟩

/-- A draft does not say which version is its latest one. -/
def draft : TypeDeclaration where
  package := "app.model"
  name := "Draft"
  latestVersion := .text "newest"
  fields := [⟨some "mTitle", some "str", {}⟩]

/-- The configured version zero is taken for what it is, a version without columns. -/
theorem latest_draft :
    ∃ m c, (build { defaultVersion := 0 } draft).result = .ok (some m) ∧ m.Executable
      ∧ m.latestVersion = 0
      ∧ LoadedClass.load (ClassSource.ofModel m) = .ok c
      ∧ ((build { defaultVersion := 0 } draft).warningsOf invalidLatestFormat).length = 1
      ∧ (build { defaultVersion := 0 } draft).warningsOf emptyLatestFormat ≠ []
      ∧ ∃ e, c.constructBy "latest" [.null] = .error (.unknownVersion e) := by
  have hbuild : (build { defaultVersion := 0 } draft).result
      = .ok (some (ofSpecs _ draft 0 _ (groupsOf _))) :=
    build_eq_some_iff.mpr
      ⟨fun h => absurd (congrArg List.length h) (by decide), by decide, rfl⟩
  have hexec : (ofSpecs { defaultVersion := 0 } draft 0
      (keptSpecs { defaultVersion := 0 } draft.fields)
      (groupsOf (keptSpecs { defaultVersion := 0 } draft.fields))).Executable := by decide
  obtain ⟨hloads, hlatest, -, hreplaced⟩ := latest_ofModel hbuild hexec
  obtain ⟨c, hload⟩ := hloads.mpr (by decide)
  obtain ⟨hversion, hwarning⟩ := hreplaced (by simp [draft])
  have hwarned : (build { defaultVersion := 0 } draft).warningsOf emptyLatestFormat ≠ [] := by
    rw [warningsOf_emptyLatest hbuild, if_neg]
    · exact List.cons_ne_nil _ _
    · rw [mem_versionsOf]
      decide
  refine ⟨_, c, hbuild, hexec, rfl, hload, by rw [hwarning]; rfl, hwarned, ?_⟩
  exact (hlatest c hload .null).2.1.mpr hwarned

end ClassModel

end RecordForge

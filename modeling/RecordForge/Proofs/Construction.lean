import RecordForge.Proofs.Loading

/-!
# Making objects

The method that registers columns tests for one version after the other. Whatever the versions are,
the chain of tests comes down to looking the version of the object up (`runDispatch_foldr`). An
object of a version that some column was introduced in has exactly the columns up to that version;
for any other version there is no object, and the error names all versions that there are, as long
as the version asked for has a text (`construct_ofModel`).
-/

namespace RecordForge

open ColumnSpec

/-! ## The chain of tests -/

@[simp] theorem equalsInt_int (v w : Int) : (Value.int v).equalsInt w = decide (v = w) := by
  simp [Value.equalsInt, Value.equals, Value.equalsScalar, Value.integral?]

namespace LoadedClass

/-- **The chain looks the version up**: the first group of that version is registered, and without
one the error names the known versions. -/
theorem runDispatch_foldr {c : LoadedClass} (hfaults : c.faults = []) {r : Record} {v : Int}
    (hr : r.version = .int v) (known : List Int) (groups : List VersionGroup) :
    c.runDispatch r none
        (groups.foldr (fun g rest => .whenVersion g.version g.name rest) (.unknown known))
      = match groups.find? (·.version = v) with
        | some g => (c.group g.name).map r.addColumns
        | none => .error (c.unknownVersion ⟨.int v, known.map .int⟩) := by
  induction groups with
  | nil =>
    simp [runDispatch, checkUsable, hfaults, contentAt?, hr]
    rfl
  | cons g rest ih =>
    -- A test that fails hands over to the rest of the chain, which looks the version up further on.
    rw [List.foldr_cons, runDispatch, hr, equalsInt_int]
    by_cases h : v = g.version
    · have hfind : (g :: rest).find? (·.version = v) = some g := by simp [h]
      rw [hfind, if_pos (by simpa using h)]
      show _ = (c.group g.name).map r.addColumns
      cases c.group g.name with
      | ok columns => rfl
      | error e => rfl
    · have hfind : (g :: rest).find? (·.version = v) = rest.find? (·.version = v) := by
        simp [Ne.symm h]
      rw [hfind, if_neg (by simpa using h)]
      exact ih

/-- The error about an unknown version is made if that version has a text, given that the known ones
have one. -/
theorem unknownVersion_eq {c : LoadedClass} (hname : c.name ≠ unknownVersionName) {known : List Int}
    (hknown : ∀ w ∈ known, (Value.int w).isWritable = true) (v : Int) :
    c.unknownVersion ⟨.int v, known.map .int⟩
      = if (Value.int v).isWritable then .unknownVersion ⟨.int v, known.map .int⟩
        else .unwritable {} := by
  have hwrite : (UnknownVersion.mk (.int v) (known.map .int)).write
      = if (Value.int v).isWritable then .ok (UnknownVersion.mk (.int v) (known.map .int)).message
        else .error {} := by
    have hall : Value.areWritable (known.map .int) = true := by
      rw [Value.areWritable_iff, List.forall_mem_map]
      exact hknown
    rw [UnknownVersion.write, Value.writing, Value.areWritable, hall, Bool.and_true]
  rw [unknownVersion, if_neg hname, hwrite]
  cases (Value.int v).isWritable <;> rfl

end LoadedClass

/-! ## Objects of the class -/

/-- What a class whose columns are these makes of a context and a version that it knows. -/
def ColumnSpec.created (specs : List ColumnSpec) (context : Value) (v : Int) : Record where
  context
  version := .int v
  template := ⟨(columnsUpTo specs v).map fun column => (column.name, column)⟩

/-- A name that does not begin with two underscores is the same in every class. -/
theorem nameWithin_of_not_private {name : String} (h : Text.isPrivateName name = false)
    (className : String) : Text.nameWithin className name = name := by
  unfold Text.nameWithin
  split
  next => rfl
  next => rw [if_neg (by simp [h])]

/-- Plain names that are the same in every class are read within a class as they are written. -/
theorem nameWithin_readName (names : List String)
    (h : ∀ name ∈ names, isPlainName name = true ∧ Text.isPrivateName name = false)
    (className : String) :
    ∀ name ∈ names, Text.nameWithin className (Text.readName name) = name := by
  intro name hname
  rw [readName_of_isPlainName (h name hname).1, nameWithin_of_not_private (h name hname).2]

/-- The columns up to a version have different names. -/
theorem nodup_names_columnsUpTo (config : Config) (fields : List FieldDeclaration) (v : Int) :
    ((columnsUpTo (keptSpecs config fields) v).map (·.name)).Nodup := by
  rw [columnsUpTo, List.map_map]
  refine ((inVersionOrder_perm _ _).map ((·.name) ∘ column)).nodup_iff.mpr ?_
  exact (nodup_columnNames config fields).sublist (List.filter_sublist.map _)

/-- Registering the columns up to a version fills an empty template with them. -/
theorem addColumns_columnsUpTo (config : Config) (fields : List FieldDeclaration) (context : Value)
    (v : Int) :
    ({ context, version := .int v } : Record).addColumns (columnsUpTo (keptSpecs config fields) v)
      = created (keptSpecs config fields) context v := by
  have hentries : putEntries []
      ((columnsUpTo (keptSpecs config fields) v).map fun column => (column.name, column)) = _ :=
    putEntries_nil_eq <| by
      rw [List.map_map]
      exact nodup_names_columnsUpTo config fields v
  rw [Record.addColumns, Template.addColumns, hentries]
  rfl

namespace ClassModel

variable {config : Config} {d : TypeDeclaration} {m : ClassModel}

/-- The class of a model keeps its columns under the constants of their versions. -/
theorem group_loaded (m : ClassModel) {fields : List FieldDeclaration} {v : Int}
    (hv : v ∈ versionsOf (·.version) (keptSpecs config fields)) :
    (m.loaded (keptSpecs config fields)).group (Naming.versionConstant v)
      = .ok (columnsUpTo (keptSpecs config fields) v) := by
  have hfound : contentAt? (m.loaded (keptSpecs config fields)).groups
      (Naming.versionConstant v) = some (columnsUpTo (keptSpecs config fields) v) :=
    contentAt?_map (nodup_versionConstants config fields) hv
  rw [LoadedClass.group, hfound]

/-- The versions that the groups of a model are tested for. -/
theorem find?_groups (hbuild : (build config d).result = .ok (some m)) (v : Int) :
    m.groups.map (·.version) = versionsOf (·.version) (keptSpecs config d.fields)
      ∧ (v ∈ versionsOf (·.version) (keptSpecs config d.fields) →
          ∃ g, m.groups.find? (·.version = v) = some g ∧ g.name = Naming.versionConstant v)
      ∧ (v ∉ versionsOf (·.version) (keptSpecs config d.fields) →
          m.groups.find? (·.version = v) = none) := by
  have hgroups := groups_of_build hbuild
  refine ⟨?_, ?_, ?_⟩
  · rw [hgroups, List.map_map]
    exact List.map_id' _
  · intro hv
    obtain ⟨g, hg⟩ : ∃ g, m.groups.find? (·.version = v) = some g := by
      rw [← Option.isSome_iff_exists, List.find?_isSome, hgroups]
      exact ⟨_, List.mem_map_of_mem hv, by simp⟩
    obtain ⟨w, -, rfl⟩ := List.mem_map.mp (hgroups ▸ List.mem_of_find?_eq_some hg)
    have hw : w = v := by simpa using List.find?_some hg
    exact ⟨_, hg, by rw [hw]⟩
  · intro hv
    rw [List.find?_eq_none, hgroups]
    intro g hg
    obtain ⟨w, hw, rfl⟩ := List.mem_map.mp hg
    simp only [decide_eq_true_eq]
    rintro rfl
    exact hv hw

/-- What a class whose columns are these makes of a context and a version. -/
def outcomeOf (specs : List ColumnSpec) (context : Value) (v : Int) : Except RunError Record :=
  if v ∈ versionsOf (·.version) specs then .ok (created specs context v)
  else if (Value.int v).isWritable then
    .error (.unknownVersion ⟨.int v, (versionsOf (·.version) specs).map .int⟩)
  else .error (.unwritable {})

/-- **The registering method** gives a new object the columns up to its version. -/
theorem registerColumns_loaded (hbuild : (build config d).result = .ok (some m))
    (hexec : m.Executable) (context : Value) (v : Int) :
    (m.loaded (keptSpecs config d.fields)).registerColumns { context, version := .int v }
      = outcomeOf (keptSpecs config d.fields) context v := by
  have hmethod : (m.loaded (keptSpecs config d.fields)).method? registerName = some _ :=
    method?_loaded hbuild hexec.toReadable _ (x := Method.registering m.groups)
      (by simp [ClassSource.ofModel])
  have htemplate : (m.loaded (keptSpecs config d.fields)).method? "get_template" = none :=
    method?_loaded_eq_none hbuild hexec _ (by decide) (by decide)
  have hchain := LoadedClass.runDispatch_foldr (c := m.loaded (keptSpecs config d.fields)) rfl
    (r := { context, version := .int v }) rfl (m.groups.map (·.version)) m.groups
  obtain ⟨hversions, hknown, hunknown⟩ := find?_groups hbuild v
  have hregister : (m.loaded (keptSpecs config d.fields)).registerColumns
      { context, version := .int v } = (m.loaded (keptSpecs config d.fields)).runDispatch
        { context, version := .int v } none (Dispatch.ofGroups m.groups) := by
    rw [LoadedClass.registerColumns, hmethod]
    show LoadedClass.runRegister _ _ (Dispatch.ofGroups m.groups) = _
    rw [LoadedClass.runRegister, LoadedClass.templateOf, htemplate]
    rfl
  rw [hregister, Dispatch.ofGroups, hchain, hversions, outcomeOf]
  by_cases hv : v ∈ versionsOf (·.version) (keptSpecs config d.fields)
  · obtain ⟨g, hg, hname⟩ := hknown hv
    rw [hg, if_pos hv]
    show (LoadedClass.group _ g.name).map _ = _
    rw [hname, group_loaded m hv, ← addColumns_columnsUpTo]
    rfl
  · -- The versions of the columns have a text, since constants were named by them.
    obtain ⟨-, hwritable, -⟩ := build_eq_some_iff.mp hbuild
    have hall : ∀ w ∈ versionsOf (·.version) (keptSpecs config d.fields),
        (Value.int w).isWritable = true := forall_mem_versionsOf_iff.mpr hwritable
    rw [hunknown hv, if_neg hv]
    show Except.error (LoadedClass.unknownVersion _ _) = _
    rw [LoadedClass.unknownVersion_eq hexec.className_ne_error hall]
    exact apply_ite Except.error _ _ _

/-- **Making an object**: the initialiser hands its arguments on to the base and registers the
columns. -/
theorem construct_loaded (hbuild : (build config d).result = .ok (some m)) (hexec : m.Executable)
    (context : Value) (v : Int) :
    (m.loaded (keptSpecs config d.fields)).construct [context, .int v]
      = outcomeOf (keptSpecs config d.fields) context v := by
  have hnames := nameWithin_readName ["context", "version"] (by decide) m.className
  simp only [List.forall_mem_cons] at hnames
  have hconstructor : (⟨"__init__", ["context", "version"], none⟩ : Constructor)
      ∈ m.constructors := by
    obtain ⟨-, -, rfl⟩ := build_eq_some_iff.mp hbuild
    exact List.mem_cons_self ..
  have hmethod : (m.loaded (keptSpecs config d.fields)).method? "__init__" = some _ :=
    method?_loaded hbuild hexec.toReadable _ (x := Method.ofConstructor m.className _)
      (List.mem_append_left _ (List.mem_append_left _ (List.mem_map_of_mem hconstructor)))
  have hbind : (m.loaded (keptSpecs config d.fields)).bindArguments
      (Method.asRead m.className (Method.ofConstructor m.className
        ⟨"__init__", ["context", "version"], none⟩)) [context, .int v]
      = .ok [("context", context), ("version", .int v)] := by
    simp [Method.ofConstructor, Method.asRead, LoadedClass.bindArguments, LoadedClass.checkArity,
      hnames]
  rw [← registerColumns_loaded hbuild hexec, LoadedClass.construct, hmethod]
  simp only [hbind]
  rfl

/-- A class gives a version what is due. There is an object exactly if a column was introduced in
that version. The object keeps the context and the version, has no value yet, and its template holds
the columns up to the version, each under its name. For any other version the error carries the
version asked for and, in strictly ascending order, all versions that columns were introduced in. -/
structure ServesVersion (specs : List ColumnSpec) (c : LoadedClass) (context : Value) (v : Int) :
    Prop where
  made : (∃ r, c.construct [context, .int v] = .ok r) ↔ ∃ spec ∈ specs, spec.version = v
  content : ∀ r, c.construct [context, .int v] = .ok r →
    r.context = context ∧ r.version = .int v ∧ r.values = []
      ∧ r.template.columns
        = (inVersionOrder (·.version) (specs.filter (·.version ≤ v))).map column
      ∧ r.template.entries.map Prod.fst = r.template.columns.map (·.name)
  unknown : (¬ ∃ spec ∈ specs, spec.version = v) → ∃ known : List Int,
    c.construct [context, .int v] = .error (.unknownVersion ⟨.int v, known.map .int⟩)
      ∧ known.Pairwise (· < ·) ∧ ∀ w, w ∈ known ↔ ∃ spec ∈ specs, spec.version = w

/-- A class with such outcomes serves the versions of columns and those that have a text. -/
theorem servesVersion_iff {specs : List ColumnSpec} {c : LoadedClass} {context : Value} {v : Int}
    (h : c.construct [context, .int v] = outcomeOf specs context v) :
    ServesVersion specs c context v
      ↔ (∃ spec ∈ specs, spec.version = v) ∨ (Value.int v).isWritable = true := by
  rw [outcomeOf] at h
  have hknown : ∀ w, (∃ spec ∈ specs, spec.version = w) ↔ w ∈ versionsOf (·.version) specs :=
    fun w => mem_versionsOf.symm
  by_cases hv : v ∈ versionsOf (·.version) specs
  · rw [if_pos hv] at h
    refine iff_of_true ⟨?_, ?_, ?_⟩ (Or.inl ((hknown v).mpr hv))
    · exact iff_of_true ⟨_, h⟩ ((hknown v).mpr hv)
    · intro r hr
      obtain rfl := Except.ok.inj (h.symm.trans hr)
      refine ⟨rfl, rfl, rfl, ?_, ?_⟩
      · simp [created, Template.columns, columnsUpTo, Function.comp_def]
      · simp [created, Template.columns, columnsUpTo, Function.comp_def]
    · exact fun hnone => absurd ((hknown v).mpr hv) hnone
  · have hnone : ¬ ∃ spec ∈ specs, spec.version = v := fun hsome => hv ((hknown v).mp hsome)
    rw [if_neg hv] at h
    by_cases hwritable : (Value.int v).isWritable = true
    · rw [if_pos hwritable] at h
      refine iff_of_true ⟨?_, ?_, ?_⟩ (Or.inr hwritable)
      · exact iff_of_false (fun ⟨r, hr⟩ => nomatch h.symm.trans hr) hnone
      · exact fun r hr => nomatch h.symm.trans hr
      · exact fun _ => ⟨_, h, pairwise_versionsOf .., fun w => (hknown w).symm⟩
    · -- The error is another one than the one that is due.
      rw [if_neg hwritable] at h
      refine iff_of_false (fun hserves => ?_) (not_or.mpr ⟨hnone, hwritable⟩)
      obtain ⟨known, herror, -⟩ := hserves.unknown hnone
      exact nomatch h.symm.trans herror

/-- **What an object of a version is.** The class of a model that can be executed loads exactly if
its latest version has a text. It gives a version what is due exactly if a column was introduced in
that version, or if the version has a text, which is to say that it has no more than 4300 digits.
For any other version the error about an unknown version cannot be worded, and what is raised
instead tells neither the version nor the known ones. -/
theorem construct_ofModel (hbuild : (build config d).result = .ok (some m)) (hexec : m.Executable) :
    ((∃ c, LoadedClass.load (ClassSource.ofModel m) = .ok c)
        ↔ (Value.int m.latestVersion).isWritable = true)
      ∧ ∀ c, LoadedClass.load (ClassSource.ofModel m) = .ok c → ∀ (context : Value) (v : Int),
        let specs := (select config d.fields).result
        (ServesVersion specs c context v
            ↔ (∃ spec ∈ specs, spec.version = v)
              ∨ v.natAbs < Numeral.firstBeyond Numeral.maxIntegerDigits)
          ∧ (¬ ServesVersion specs c context v →
              c.construct [context, .int v] = .error (.unwritable {})) := by
  refine ⟨exists_load_ofModel_iff hbuild hexec.toReadable, ?_⟩
  intro c hload context v
  obtain ⟨-, rfl⟩ := (load_ofModel_eq_ok_iff hbuild hexec.toReadable).mp hload
  have houtcome := construct_loaded hbuild hexec context v
  have hserves := servesVersion_iff houtcome
  simp only [result_select, ← Value.isWritable_int_iff]
  refine ⟨hserves, fun hnot => ?_⟩
  rw [hserves, not_or] at hnot
  rw [houtcome, outcomeOf, if_neg (mt mem_versionsOf.mp hnot.1), if_neg hnot.2]

/-- An account whose columns leave a gap in their versions. -/
def account : TypeDeclaration where
  package := "app.model"
  name := "Account"
  latestVersion := .int 3
  fields := [⟨some "m_owner", some "string", { version := .int 3 }⟩,
    ⟨some "mId", some "long", { primary := .text "true" }⟩,
    ⟨some "mOpen", some "bool", { version := .int 3 }⟩]

theorem build_account :
    (build {} account).result = .ok (some (ofSpecs {} account 3 (keptSpecs {} account.fields)
      (groupsOf (keptSpecs {} account.fields)))) :=
  build_eq_some_iff.mpr ⟨fun h => absurd (congrArg List.length h) (by decide), by decide, rfl⟩

theorem executable_account :
    (ofSpecs {} account 3 (keptSpecs {} account.fields)
      (groupsOf (keptSpecs {} account.fields))).Executable := by
  decide

/-- An account of version three has all three columns; there is none of version two. -/
theorem construct_account :
    ∃ m c, (build {} account).result = .ok (some m) ∧ m.Executable
      ∧ LoadedClass.load (ClassSource.ofModel m) = .ok c
      ∧ (∃ r, c.construct [.null, .int 3] = .ok r ∧ r.template.columns.length = 3)
      ∧ ∃ known : List Int,
          c.construct [.null, .int 2] = .error (.unknownVersion ⟨.int 2, known.map .int⟩)
            ∧ 1 ∈ known ∧ 3 ∈ known := by
  obtain ⟨hloads, hconstruct⟩ := construct_ofModel build_account executable_account
  obtain ⟨c, hload⟩ := hloads.mpr (by decide)
  refine ⟨_, c, build_account, executable_account, hload, ?_, ?_⟩
  · have hserves := (hconstruct c hload .null 3).1.mpr (Or.inl (by decide))
    obtain ⟨r, hr⟩ := hserves.made.mpr (by decide)
    obtain ⟨-, -, -, hcolumns, -⟩ := hserves.content r hr
    refine ⟨r, hr, ?_⟩
    rw [hcolumns, List.length_map, (inVersionOrder_perm _ _).length_eq]
    decide
  · have hdigits := Value.isWritable_int_iff.mp (show (Value.int 2).isWritable = true by decide)
    have hserves := (hconstruct c hload .null 2).1.mpr (Or.inr hdigits)
    obtain ⟨known, herror, -, hmem⟩ := hserves.unknown (by decide)
    exact ⟨known, herror, (hmem 1).mpr (by decide), (hmem 3).mpr (by decide)⟩

/-- Asked for an account of a version with too many digits, the class raises another error than the
one about unknown versions. -/
theorem not_servesVersion_account :
    let v : Int := Numeral.firstBeyond Numeral.maxIntegerDigits
    ∃ m c, (build {} account).result = .ok (some m) ∧ m.Executable
      ∧ LoadedClass.load (ClassSource.ofModel m) = .ok c
      ∧ ¬ ServesVersion (select {} account.fields).result c .null v
      ∧ c.construct [.null, .int v] = .error (.unwritable {}) := by
  intro v
  have hdigits : (Value.int v).isWritable ≠ true := by
    rw [ne_eq, Value.isWritable_int_iff, Int.natAbs_natCast]
    exact Nat.lt_irrefl _
  have hnone : ¬ ∃ spec ∈ keptSpecs {} account.fields, spec.version = v := by
    -- All versions of accounts have a text.
    rintro ⟨spec, hspec, hversion⟩
    obtain ⟨-, hwritable, -⟩ := build_eq_some_iff.mp build_account
    exact hdigits (hversion ▸ hwritable spec hspec)
  have houtcome := construct_loaded build_account executable_account .null v
  refine ⟨_, _, build_account, executable_account,
    (load_ofModel_eq_ok_iff build_account executable_account.toReadable).mpr ⟨by decide, rfl⟩,
    ?_, ?_⟩
  · rw [result_select, servesVersion_iff houtcome, not_or]
    exact ⟨hnone, hdigits⟩
  · rw [houtcome, outcomeOf, if_neg (mt mem_versionsOf.mp hnone), if_neg hdigits]

end ClassModel

end RecordForge

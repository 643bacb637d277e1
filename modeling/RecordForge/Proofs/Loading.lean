import Mathlib.Data.Option.Basic
import RecordForge.Proofs.Rendering
import RecordForge.Source.Load

/-!
# Loading the class of a model

The text of a generated class is only taken at its word if it says what it means. `Readable` is
what a model needs for that; nothing in it concerns the columns, their versions or their order. The
class of such a model is `loaded`, written out from the specifications of the kept fields
(`plainClass?_ofModel`): each constant holds the column of its specification, each constant of a
version the columns up to that version, and each method stands under its own name. It can be loaded
if the one version in its text that may have too many digits, the latest one, has not
(`load_ofModel_eq_ok_iff`).
-/

namespace RecordForge

/-! ## The columns of specifications -/

namespace ColumnSpec

/-- The column that a specification describes. -/
def column (spec : ColumnSpec) : Column :=
  ⟨spec.constantName, some spec.kind, spec.columnName, .bool spec.allowNull, .bool spec.primary,
    .int spec.version⟩

/-- The columns up to a version, in ascending order of versions and, inside of a version, in the
order of their specifications. -/
def columnsUpTo (specs : List ColumnSpec) (version : Int) : List Column :=
  (inVersionOrder (·.version) (specs.filter (·.version ≤ version))).map column

end ColumnSpec

/-! ## What a model needs -/

/-- Whether a package is none at all or a path of identifiers with points between them. -/
def IsPackage (package : String) : Prop :=
  package = "" ∨ ∀ part ∈ Text.parts '.' package,
    Text.isAscii part.toList = true ∧ Text.isIdentifier part.toList = true

namespace ClassModel

/-- What a model needs so that the text of its class says what it means: the class builds on
records, its package is a path, all names that it gives are plain, and it does not take the name
under which its methods find the base. -/
structure Readable (m : ClassModel) : Prop where
  superclass : m.superclass = recordClass
  runtimeModule : m.runtimeModule = recordModule
  package : IsPackage m.package
  className : isPlainName m.className = true
  className_ne_base : m.className ≠ baseName
  constants : ∀ f ∈ m.fields, isPlainName f.constantName = true
  accessors : ∀ a ∈ m.accessors, isPlainName a.name = true
  parameters : ∀ a ∈ m.accessors, ∀ p ∈ a.parameter, isPlainName p = true

/-- What a model needs besides so that its objects work: no accessor takes the name of an operation
of records, and the class is not taken for the error for an unknown version. -/
structure Executable (m : ClassModel) : Prop extends m.Readable where
  className_ne_error : m.className ≠ unknownVersionName
  hidesNothing : ∀ a ∈ m.accessors, a.name ∉ LoadedClass.recordMethods

instance (package : String) : Decidable (IsPackage package) :=
  inferInstanceAs (Decidable (_ ∨ _))

instance (m : ClassModel) : Decidable m.Readable :=
  decidable_of_iff (m.superclass = recordClass ∧ m.runtimeModule = recordModule
      ∧ IsPackage m.package ∧ isPlainName m.className = true ∧ m.className ≠ baseName
      ∧ (∀ f ∈ m.fields, isPlainName f.constantName = true)
      ∧ (∀ a ∈ m.accessors, isPlainName a.name = true)
      ∧ ∀ a ∈ m.accessors, ∀ p ∈ a.parameter, isPlainName p = true)
    ⟨fun ⟨h₁, h₂, h₃, h₄, h₅, h₆, h₇, h₈⟩ => ⟨h₁, h₂, h₃, h₄, h₅, h₆, h₇, h₈⟩,
      fun ⟨h₁, h₂, h₃, h₄, h₅, h₆, h₇, h₈⟩ => ⟨h₁, h₂, h₃, h₄, h₅, h₆, h₇, h₈⟩⟩

instance (m : ClassModel) : Decidable m.Executable :=
  decidable_of_iff (m.Readable ∧ m.className ≠ unknownVersionName
      ∧ ∀ a ∈ m.accessors, a.name ∉ LoadedClass.recordMethods)
    ⟨fun ⟨h₁, h₂, h₃⟩ => ⟨h₁, h₂, h₃⟩, fun ⟨h₁, h₂, h₃⟩ => ⟨h₁, h₂, h₃⟩⟩

/-- The class of a model that keeps the columns of these specifications. -/
def loaded (m : ClassModel) (specs : List ColumnSpec) : LoadedClass where
  name := m.className
  bases := [recordClass]
  doc := (ClassSource.ofModel m).doc
  columns := specs.map fun spec => (spec.constantName, spec.column)
  groups := (versionsOf (·.version) specs).map fun w =>
    (Naming.versionConstant w, ColumnSpec.columnsUpTo specs w)
  methods :=
    ((ClassSource.ofModel m).methods.map (Method.asRead m.className)).map fun x => (x.name, x)

end ClassModel

/-! ## The comment -/

/-- Word characters and points stay within a comment. -/
theorem staysInComment_of_forall {text : String}
    (h : ∀ c ∈ text.toList, isAsciiWord c = true ∨ c = '.') : staysInComment text = true := by
  rw [staysInComment, List.all_eq_true]
  intro c hc
  have hnewline : ¬ (isAsciiWord '\n' = true ∨ '\n' = '.') := by decide
  have hreturn : ¬ (isAsciiWord '\r' = true ∨ '\r' = '.') := by decide
  have hnull : ¬ (isAsciiWord '\x00' = true ∨ '\x00' = '.') := by decide
  simp only [Bool.and_eq_true, decide_eq_true_eq]
  refine ⟨⟨?_, ?_⟩, ?_⟩
  · rintro rfl
    exact hnewline (h _ hc)
  · rintro rfl
    exact hreturn (h _ hc)
  · rintro rfl
    exact hnull (h _ hc)

/-- The characters of a package are word characters and points. -/
theorem mem_package {package : String} (h : IsPackage package) :
    ∀ c ∈ package.toList, isAsciiWord c = true ∨ c = '.' := by
  intro c hc
  rcases h with rfl | h
  · exact absurd hc (by simp)
  · rw [← Text.joinWith_cutAt '.' package.toList] at hc
    rcases Text.mem_joinWith hc with rfl | ⟨part, hpart, hin⟩
    · exact Or.inr rfl
    · obtain ⟨hascii, hident⟩ := h (String.ofList part) (List.mem_map_of_mem hpart)
      rw [String.toList_ofList] at hascii hident
      exact Or.inl (isAsciiWord_of_isIdentifier hascii hident c hin)

/-! ## Columns and groups -/

/-- Mapping with a function that always succeeds succeeds. -/
theorem mapM_eq_some_map {α β : Type} {f : α → Option β} {g : α → β} {as : List α}
    (h : ∀ a ∈ as, f a = some (g a)) : as.mapM f = some (as.map g) := by
  induction as with
  | nil => rfl
  | cons a rest ih =>
    rw [List.mapM_cons, h a (List.mem_cons_self ..), ih fun b hb => h b (List.mem_cons_of_mem _ hb)]
    rfl

theorem ofColumnClass?_columnClass (kind : StorageKind) :
    StorageKind.ofColumnClass? kind.columnClass = some kind := by
  cases kind <;> rfl

namespace ClassSource

/-- A column whose constant is plain is the column of its specification. -/
theorem plainColumn?_columnField {spec : ColumnSpec} (h : isPlainName spec.constantName = true) :
    plainColumn? spec.columnField = some (spec.constantName, spec.column) := by
  simp [plainColumn?, ColumnSpec.columnField, ColumnSpec.column, h, ofColumnClass?_columnClass]

/-- The group of a version holds the columns of its constants. -/
theorem plainGroup?_eq_some {specs : List ColumnSpec} {w : Int} (hw : 0 ≤ w)
    (hconstants : (specs.map (·.constantName)).Nodup) :
    plainGroup? (specs.map fun spec => (spec.constantName, spec.column))
        ⟨Naming.versionConstant w, w,
          (inVersionOrder (·.version) (specs.filter (·.version ≤ w))).map (·.constantName)⟩
      = some (Naming.versionConstant w, ColumnSpec.columnsUpTo specs w) := by
  have hmembers : ((inVersionOrder (·.version) (specs.filter (·.version ≤ w))).map
        (·.constantName)).mapM (contentAt? (specs.map fun spec => (spec.constantName, spec.column)))
      = some (ColumnSpec.columnsUpTo specs w) := by
    rw [List.mapM_map]
    apply mapM_eq_some_map
    intro spec hspec
    have hin : spec ∈ specs := (List.mem_filter.mp (mem_inVersionOrder.mp hspec)).1
    exact contentAt?_map hconstants hin
  simp [plainGroup?, Naming.isPlainName_versionConstant hw, hmembers]

end ClassSource

/-! ## Methods -/

namespace Method

/-- A plain method is read under the name that it was given. -/
theorem name_asRead {x : Method} (h : x.isPlain = true) (className : String) :
    (x.asRead className).name = x.name := by
  simp only [isPlain, Bool.and_eq_true] at h
  obtain ⟨⟨⟨⟨hname, -⟩, -⟩, -⟩, -⟩ := h
  simp only [asRead, readName_of_isPlainName hname]

/-- The methods that every generated class has are plain. -/
theorem isPlain_ofConstructor {className : String} {latest : Int} {constructor : Constructor}
    (h : constructor ∈ ClassModel.constructorsFor latest) :
    (ofConstructor className constructor).isPlain = true := by
  have hnames : ∀ name ∈ ["__init__", "latest", "context", "version"],
      isPlainName name = true := by decide
  have htype : "int" ∈ accessorTypes := by decide
  simp only [List.forall_mem_cons] at hnames
  rcases List.mem_pair.mp h with rfl | rfl
  · simp [isPlain, ofConstructor, signature, receiver, initializerType, hnames, htype]
  · simp [isPlain, ofConstructor, signature, receiver, hnames]

theorem isPlain_registering (groups : List VersionGroup) : (registering groups).isPlain = true := by
  have hname : isPlainName registerName = true := by decide
  simp [isPlain, registering, signature, hname]

/-- An accessor with plain names is plain. -/
theorem isPlain_ofAccessor {a : Accessor} (hname : isPlainName a.name = true)
    (hparameter : ∀ p, a.parameter = some p → isPlainName p = true ∧ p ≠ "self")
    (htype : a.valueType ∈ accessorTypes) :
    (ofAccessor a).isPlain = true := by
  have hdefault : isPlainName (setterParameter a) = true ∧ setterParameter a ≠ "self" := by
    unfold setterParameter
    split
    next => decide
    next p hp =>
      split
      next => decide
      next => exact hparameter p hp
  unfold ofAccessor
  split
  next => simp [isPlain, signature, hname, htype]
  next =>
    simp [isPlain, signature, receiver, setterType, hname, hdefault, Ne.symm hdefault.2]
    by_cases hempty : a.valueType = ""
    · simp [hempty]
    · simp [hempty, htype]

end Method

/-! ## The class -/

namespace ClassModel

/-- The methods of the class of a model, by name. -/
theorem map_name_methods (m : ClassModel) :
    (ClassSource.ofModel m).methods.map (·.name)
      = m.constructors.map (·.name) ++ registerName :: m.accessors.map (·.name) := by
  have hconstructor : ∀ c : Constructor, (Method.ofConstructor m.className c).name = c.name := by
    intro c
    unfold Method.ofConstructor
    split <;> rfl
  have haccessor : ∀ a : Accessor, (Method.ofAccessor a).name = a.name := by
    intro a
    unfold Method.ofAccessor
    split <;> rfl
  simp [ClassSource.ofModel, Function.comp_def, hconstructor, haccessor, Method.registering]

section

variable {config : Config} {d : TypeDeclaration} {m : ClassModel}

theorem map_name_constructors (hbuild : (build config d).result = .ok (some m)) :
    m.constructors.map (·.name) = ["__init__", "latest"] := by
  obtain ⟨-, -, rfl⟩ := build_eq_some_iff.mp hbuild
  rfl

/-- The versions of a generated class count from one. -/
theorem pos_of_mem_versionsOf {fields : List FieldDeclaration} {w : Int}
    (h : w ∈ versionsOf (·.version) (keptSpecs config fields)) : 0 < w := by
  obtain ⟨spec, hspec, rfl⟩ := mem_versionsOf.mp h
  obtain ⟨k, hk, rfl⟩ := mem_keptSpecs.mp hspec
  have := one_le_version_of_mem_keptFields hk
  omega

/-- Besides the accessors a class has three methods, which begin unlike these. -/
theorem nodup_methods_iff {accessors : List String}
    (h : ∀ name ∈ accessors, name.toList.head? = some 'g' ∨ name.toList.head? = some 's') :
    (["__init__", "latest"] ++ registerName :: accessors).Nodup ↔ accessors.Nodup := by
  have hfixed : ∀ name ∈ ["__init__", "latest", registerName], name ∉ accessors := by
    have hheads : ∀ name ∈ ["__init__", "latest", registerName],
        name.toList.head? ≠ some 'g' ∧ name.toList.head? ≠ some 's' := by decide
    intro name hname hin
    rcases h name hin with hhead | hhead
    · exact (hheads name hname).1 hhead
    · exact (hheads name hname).2 hhead
  simp only [List.forall_mem_cons] at hfixed
  simp only [List.cons_append, List.nil_append, List.nodup_cons, List.mem_cons, not_or]
  constructor
  · exact fun hnodup => hnodup.2.2.2
  · exact fun hnodup => ⟨⟨by decide, by decide, hfixed.1⟩, ⟨by decide, hfixed.2.1⟩, hfixed.2.2.1,
      hnodup⟩

/-- The accessors of a generated class begin with `get` or `set`. -/
theorem head?_of_mem_accessorNames (hbuild : (build config d).result = .ok (some m)) :
    ∀ name ∈ m.accessors.map (·.name),
      name.toList.head? = some 'g' ∨ name.toList.head? = some 's' := by
  rw [List.forall_mem_map]
  intro a ha
  obtain ⟨k, hk, mapping, -, hkind⟩ := accessor_of_mem hbuild ha
  obtain ⟨hne, -⟩ := specified_of_mem_keptFields hk
  rcases hkind with rfl | rfl
  · exact Or.inl (Naming.head?_getterName hne)
  · exact Or.inr (Naming.head?_setterName hne)

/-- No two methods of a generated class have the same name. -/
theorem nodup_methodNames (hbuild : (build config d).result = .ok (some m)) :
    ((ClassSource.ofModel m).methods.map (·.name)).Nodup := by
  rw [map_name_methods, map_name_constructors hbuild,
    nodup_methods_iff (head?_of_mem_accessorNames hbuild)]
  exact nodup_accessorNames hbuild

/-- The methods of a model that can be read are plain. -/
theorem isPlain_of_mem_methods (hbuild : (build config d).result = .ok (some m))
    (hread : m.Readable) {x : Method} (hx : x ∈ (ClassSource.ofModel m).methods) :
    x.isPlain = true := by
  simp only [ClassSource.ofModel, List.mem_append, List.mem_map, List.mem_singleton] at hx
  rcases hx with (⟨c, hc, rfl⟩ | rfl) | ⟨a, ha, rfl⟩
  · obtain ⟨-, -, rfl⟩ := build_eq_some_iff.mp hbuild
    exact Method.isPlain_ofConstructor hc
  · exact Method.isPlain_registering m.groups
  · obtain ⟨k, hk, mapping, hmapping, hkind⟩ := accessor_of_mem hbuild ha
    have htype : a.valueType = mapping.valueType := by
      rcases hkind with rfl | rfl <;> rfl
    have hself : ∀ p, a.parameter = some p → p ≠ "self" := by
      rcases hkind with rfl | rfl
      · intro p hp
        exact absurd hp (by simp [Accessor.getterOf])
      · rintro p hp rfl
        exact (Naming.safeParameter_free _).2 (Option.some.inj hp)
    apply Method.isPlain_ofAccessor (hread.accessors a ha)
    · exact fun p hp => ⟨hread.parameters a ha p hp, hself p hp⟩
    · obtain ⟨typeName, -, hofType⟩ := Option.bind_eq_some_iff.mp hmapping
      rw [htype]
      exact TypeMapping.of_ofType? (p := fun mapping => mapping.valueType ∈ accessorTypes)
        (by decide) hofType

/-- What the class is generated for stays within the comment that says so. -/
theorem staysInComment_origin (hbuild : (build config d).result = .ok (some m))
    (hread : m.Readable) : staysInComment m.origin = true := by
  obtain ⟨hascii, hident, -, -⟩ := isPlainName_iff.mp hread.className
  have hname : ∀ c ∈ m.typeName.toList, isAsciiWord c = true := by
    intro c hc
    apply isAsciiWord_of_isIdentifier hascii hident
    obtain ⟨-, -, rfl⟩ := build_eq_some_iff.mp hbuild
    show c ∈ (d.name ++ config.classSuffix).toList
    rw [String.toList_append]
    exact List.mem_append_left _ hc
  apply staysInComment_of_forall
  intro c hc
  rw [origin, qualify] at hc
  split at hc
  next => exact Or.inl (hname c hc)
  next =>
    simp only [String.toList_append, List.mem_append] at hc
    rcases hc with (hin | hin) | hin
    · exact mem_package hread.package c hin
    · exact Or.inr (by simpa using hin)
    · exact Or.inl (hname c hin)

/-- The methods as they are read stand under the names that they were given. -/
theorem keys_loaded_methods (hbuild : (build config d).result = .ok (some m)) (hread : m.Readable)
    (specs : List ColumnSpec) :
    (m.loaded specs).methods.map Prod.fst = (ClassSource.ofModel m).methods.map (·.name) := by
  rw [loaded, List.map_map, List.map_map]
  apply List.map_congr_left
  intro x hx
  simp only [Function.comp_apply]
  exact Method.name_asRead (isPlain_of_mem_methods hbuild hread hx) m.className

/-- The columns of the class are those of the specifications. -/
theorem mapM_plainColumn? (hbuild : (build config d).result = .ok (some m)) (hread : m.Readable) :
    m.fields.mapM ClassSource.plainColumn?
      = some ((keptSpecs config d.fields).map fun spec => (spec.constantName, spec.column)) := by
  have hfields := fields_of_build hbuild
  rw [hfields, List.mapM_map, keptSpecs, List.map_map]
  apply mapM_eq_some_map
  intro k hk
  apply ClassSource.plainColumn?_columnField
  apply hread.constants k.spec.columnField
  rw [hfields]
  exact List.mem_map_of_mem hk

/-- Each group of the class holds the columns up to its version. -/
theorem mapM_plainGroup? (hbuild : (build config d).result = .ok (some m)) :
    m.groups.mapM (ClassSource.plainGroup?
        ((keptSpecs config d.fields).map fun spec => (spec.constantName, spec.column)))
      = some ((versionsOf (·.version) (keptSpecs config d.fields)).map fun w =>
          (Naming.versionConstant w, ColumnSpec.columnsUpTo (keptSpecs config d.fields) w)) := by
  rw [groups_of_build hbuild, List.mapM_map]
  apply mapM_eq_some_map
  intro w hw
  apply ClassSource.plainGroup?_eq_some _ (nodup_constantNames config d.fields)
  exact Int.le_of_lt (pos_of_mem_versionsOf hw)

/-- The constants of the versions are different. -/
theorem nodup_versionConstants (config : Config) (fields : List FieldDeclaration) :
    ((versionsOf (·.version) (keptSpecs config fields)).map Naming.versionConstant).Nodup := by
  refine (nodup_versionsOf _ _).map_on ?_
  intro v hv w hw
  exact Naming.versionConstant_injOn (Int.le_of_lt (pos_of_mem_versionsOf hv))
    (Int.le_of_lt (pos_of_mem_versionsOf hw))

/-- A model that can be read says what it means, and this is its class. -/
theorem plainClass?_ofModel (hbuild : (build config d).result = .ok (some m)) (hread : m.Readable) :
    (ClassSource.ofModel m).plainClass? = some (m.loaded (keptSpecs config d.fields)) := by
  have hguard : (staysInComment (ClassSource.ofModel m).origin
      && (ClassSource.ofModel m).runtimeModule = recordModule
      && isPlainName (ClassSource.ofModel m).name && (ClassSource.ofModel m).name ≠ baseName
      && (ClassSource.ofModel m).methods.all Method.isPlain) = true := by
    simp only [Bool.and_eq_true, decide_eq_true_eq, List.all_eq_true]
    exact ⟨⟨⟨⟨staysInComment_origin hbuild hread, hread.runtimeModule⟩, hread.className⟩,
      hread.className_ne_base⟩, fun x hx => isPlain_of_mem_methods hbuild hread hx⟩
  have hsuperclass : (ClassSource.ofModel m).superclass = recordClass := hread.superclass
  have hbase : Base.ofName? recordClass = some .record := rfl
  have hfields : (ClassSource.ofModel m).columns.mapM ClassSource.plainColumn? = _ :=
    mapM_plainColumn? hbuild hread
  have hmembers : (ClassSource.ofModel m).groups.mapM _ = _ := mapM_plainGroup? hbuild
  -- No entry replaces another one: all constants and all names of methods are different.
  have hcolumns : putEntries [] ((keptSpecs config d.fields).map
      fun spec => (spec.constantName, spec.column)) = _ := putEntries_nil_eq <| by
    rw [List.map_map]
    exact nodup_constantNames config d.fields
  have hgroups : putEntries [] ((versionsOf (·.version) (keptSpecs config d.fields)).map
      fun w => (Naming.versionConstant w, ColumnSpec.columnsUpTo (keptSpecs config d.fields) w))
        = _ := putEntries_nil_eq <| by
    rw [List.map_map]
    exact nodup_versionConstants config d.fields
  have hkeys : putEntries [] (m.loaded (keptSpecs config d.fields)).methods = _ :=
      putEntries_nil_eq <| by
    rw [keys_loaded_methods hbuild hread]
    exact nodup_methodNames hbuild
  rw [ClassSource.plainClass?, hguard, hsuperclass, hbase, hfields]
  simp only [guard_true, Option.pure_def, Option.bind_eq_bind, Option.bind_some, hcolumns,
    hmembers, hgroups]
  exact congrArg (fun methods => some { m.loaded (keptSpecs config d.fields) with methods }) hkeys

/-- **The class of a model that can be read**: there is one if the latest version has a text, which
the source shows. -/
theorem load_ofModel_eq_ok_iff (hbuild : (build config d).result = .ok (some m))
    (hread : m.Readable) {c : LoadedClass} :
    LoadedClass.load (ClassSource.ofModel m) = .ok c
      ↔ (Value.int m.latestVersion).isWritable = true
        ∧ c = m.loaded (keptSpecs config d.fields) := by
  have hrender : ∀ text, (ClassSource.ofModel m).render = .ok text
      ↔ (Value.int m.latestVersion).isWritable = true ∧ text = m.text :=
    fun _ => render_eq_ok_iff_of_build hbuild
  rw [LoadedClass.load, plainClass?_ofModel hbuild hread]
  cases htext : (ClassSource.ofModel m).render with
  | error e =>
    -- A source without a text is not looked at any further.
    have hnot : (Value.int m.latestVersion).isWritable ≠ true := fun hwritable =>
      nomatch htext.symm.trans ((hrender m.text).mpr ⟨hwritable, rfl⟩)
    exact iff_of_false (fun h => (nomatch h)) fun h => hnot h.1
  | ok text =>
    have hwritable := ((hrender text).mp htext).1
    exact ⟨fun h => ⟨hwritable, (Except.ok.inj h).symm⟩, fun h => congrArg _ h.2.symm⟩

theorem exists_load_ofModel_iff (hbuild : (build config d).result = .ok (some m))
    (hread : m.Readable) :
    (∃ c, LoadedClass.load (ClassSource.ofModel m) = .ok c)
      ↔ (Value.int m.latestVersion).isWritable = true := by
  simp only [load_ofModel_eq_ok_iff hbuild hread]
  exact ⟨fun ⟨_, h, _⟩ => h, fun h => ⟨_, h, rfl⟩⟩

/-! ## Finding methods -/

/-- A method is found under the name that it was given. -/
theorem method?_loaded (hbuild : (build config d).result = .ok (some m)) (hread : m.Readable)
    (specs : List ColumnSpec) {x : Method} (hx : x ∈ (ClassSource.ofModel m).methods) :
    (m.loaded specs).method? x.name = some (x.asRead m.className) := by
  -- A plain method is read under its own name, and no other one stands under it.
  have hin : (x.name, x.asRead m.className) ∈ (m.loaded specs).methods := by
    rw [← Method.name_asRead (isPlain_of_mem_methods hbuild hread hx) m.className]
    exact List.mem_map_of_mem (List.mem_map_of_mem hx)
  apply contentAt?_of_mem _ hin
  rw [keys_loaded_methods hbuild hread]
  exact nodup_methodNames hbuild

/-- The operations of records are those of the base, apart from the initialiser. -/
theorem method?_loaded_eq_none (hbuild : (build config d).result = .ok (some m))
    (hexec : m.Executable) (specs : List ColumnSpec) {name : String}
    (hname : name ∈ LoadedClass.recordMethods) (hinit : name ≠ "__init__") : (m.loaded specs).method? name = none := by
  rw [LoadedClass.method?, contentAt?_eq_none_iff, keys_loaded_methods hbuild hexec.toReadable,
    map_name_methods]
  have hown : "latest" ∉ LoadedClass.recordMethods ∧ registerName ∉ LoadedClass.recordMethods := by
    decide
  rw [map_name_constructors hbuild]
  simp only [List.cons_append, List.nil_append, List.mem_cons, not_or]
  refine ⟨hinit, ?_, ?_, ?_⟩
  · rintro rfl
    exact hown.1 hname
  · rintro rfl
    exact hown.2 hname
  · intro hin
    obtain ⟨a, ha, rfl⟩ := List.mem_map.mp hin
    exact hexec.hidesNothing a ha hname

end

end ClassModel

end RecordForge

import Mathlib.Logic.Function.Basic
import RecordForge.Proofs.Construction

/-!
# Runs of accessors

What a caller sees of an object through its getters and setters is a plain record: a value for each
kept column that has been set. `AccessorCall.onPlain` says what a call does to the plain record,
without constants, accessor names or templates. `Represents` ties an object to a plain record; every
call keeps it and gives the outcome that the plain record gives (`run_represents`), so every run of
calls does (`runAll_represents`).
-/

namespace RecordForge

open ColumnSpec

/-! ## Plain records -/

/-- The values of the columns that have one. -/
abbrev PlainRecord := ColumnSpec → Option Value

namespace KeptField

/-- What a setter stores for a value, or why it stores nothing. -/
def encode (k : KeptField) (v : Value) : Except ColumnError Value :=
  if k.isBoolean then .ok (.int (if v.truth then 1 else 0))
  else match v, k.spec.allowNull with
    | .null, false => .error (.null k.spec.columnName)
    | v, _ => k.spec.column.convert v

/-- What a getter gives back for what is stored, if anything is. -/
def decode (k : KeptField) (stored : Option Value) : Value :=
  if k.isBoolean then .bool ((stored.getD .null).equalsInt 1) else stored.getD .null

end KeptField

/-- A call of an accessor of a kept field. -/
inductive AccessorCall where
  | get (field : KeptField)
  | set (field : KeptField) (value : Value)

namespace AccessorCall

/-- The field whose accessor is called. -/
def field : AccessorCall → KeptField
  | .get k => k
  | .set k _ => k

/-- What a call gives back and leaves, given a plain record of a version. A call that fails leaves
the plain record as it was. -/
def onPlain (version : Int) (p : PlainRecord) :
    AccessorCall → Except ColumnError Value × PlainRecord
  | .get k => (.ok (k.decode (p k.spec)), p)
  | .set k v =>
    if k.spec.version ≤ version then
      match k.encode v with
      | .ok stored => (.ok .null, Function.update p k.spec (some stored))
      | .error e => (.error e, p)
    else (.error (.undefined k.spec.columnName (.int version)), p)

/-- What calls give back one after the other, and the plain record that they leave. -/
def runPlain (version : Int) (p : PlainRecord) :
    List AccessorCall → List (Except ColumnError Value) × PlainRecord
  | [] => ([], p)
  | call :: rest =>
    let done := call.onPlain version p
    let others := runPlain version done.2 rest
    (done.1 :: others.1, others.2)

/-! ## Objects -/

/-- What a call gives back, and the object afterwards: the old one if the call failed. -/
def outcome (r : Record) : Except RunError (Value × Record) → Except RunError Value × Record
  | .ok (v, r') => (.ok v, r')
  | .error e => (.error e, r)

/-- Makes a call on an object. -/
def run (c : LoadedClass) (r : Record) : AccessorCall → Except RunError Value × Record
  | .get k => outcome r (c.call r k.getterName [])
  | .set k v => outcome r (c.call r k.setterName [v])

/-- What calls on an object give back one after the other, and the object that they leave. -/
def runAll (c : LoadedClass) (r : Record) :
    List AccessorCall → List (Except RunError Value) × Record
  | [] => ([], r)
  | call :: rest =>
    let done := call.run c r
    let others := runAll c done.2 rest
    (done.1 :: others.1, others.2)

end AccessorCall

/-- An object represents a plain record: it is the object that was made apart from its values, and
each column has its value in the plain record. -/
structure Represents (specs : List ColumnSpec) (made r : Record) (p : PlainRecord) : Prop where
  sameContext : r.context = made.context
  sameVersion : r.version = made.version
  sameTemplate : r.template = made.template
  value : ∀ spec ∈ specs, r.value spec.column = (p spec).getD .null

/-- A new object represents the plain record without values. -/
theorem represents_created (specs : List ColumnSpec) (context : Value) (version : Int) :
    Represents specs (created specs context version) (created specs context version)
      fun _ => none :=
  ⟨rfl, rfl, rfl, fun _ _ => rfl⟩

/-! ## Storing -/

section

variable {config : Config} {fields : List FieldDeclaration}

/-- Kept columns of the same name are the same. -/
theorem eq_of_columnName_eq {a b : ColumnSpec} (ha : a ∈ keptSpecs config fields)
    (hb : b ∈ keptSpecs config fields) (h : a.columnName = b.columnName) : a = b :=
  List.inj_on_of_nodup_map (nodup_columnNames config fields) ha hb h

/-- A column belongs to the template of a version exactly if it was introduced by then. -/
theorem contains_created {context : Value} {version : Int} {spec : ColumnSpec}
    (hspec : spec ∈ keptSpecs config fields) :
    (created (keptSpecs config fields) context version).template.contains spec.column
      = decide (spec.version ≤ version) := by
  rw [Template.contains, Template.column?, created]
  by_cases hv : spec.version ≤ version
  · have hin : spec.column ∈ columnsUpTo (keptSpecs config fields) version :=
      List.mem_map_of_mem (mem_inVersionOrder.mpr (List.mem_filter.mpr ⟨hspec, by simpa using hv⟩))
    rw [contentAt?_map (nodup_names_columnsUpTo config fields version) hin]
    simp [hv]
  · -- A column of that name would be this column, and so of a version up to the given one.
    have hnone : contentAt? ((columnsUpTo (keptSpecs config fields) version).map
        fun column => (column.name, column)) spec.column.name = none := by
      rw [contentAt?_eq_none_iff, List.map_map]
      intro hin
      obtain ⟨column, hcolumn, hname⟩ := List.mem_map.mp hin
      obtain ⟨other, hother, rfl⟩ := List.mem_map.mp hcolumn
      obtain ⟨hkept, hle⟩ := List.mem_filter.mp (mem_inVersionOrder.mp hother)
      obtain rfl := eq_of_columnName_eq hkept hspec hname
      exact hv (by simpa using hle)
    rw [hnone]
    simp [hv]

/-- Storing under the name of a kept column changes the value of that column and of no other. -/
theorem value_putEntry {r : Record} {p : PlainRecord} {spec : ColumnSpec}
    (hspec : spec ∈ keptSpecs config fields)
    (hvalue : ∀ other ∈ keptSpecs config fields, r.value other.column = (p other).getD .null)
    (stored : Value) :
    ∀ other ∈ keptSpecs config fields,
      ({ r with values := putEntry r.values spec.columnName stored } : Record).value other.column
        = (Function.update p spec (some stored) other).getD .null := by
  intro other hother
  show (contentAt? (putEntry r.values spec.columnName stored) other.columnName).getD .null = _
  rw [contentAt?_putEntry]
  by_cases h : other = spec
  · rw [if_pos (congrArg ColumnSpec.columnName h), h, Function.update_self]
  · have hname : other.columnName ≠ spec.columnName := fun hname =>
      h (eq_of_columnName_eq hother hspec hname)
    rw [if_neg hname, Function.update_of_ne h]
    exact hvalue other hother

/-- What an object of a version takes for the value that a setter hands over. -/
theorem accept_column {k : KeptField} (hk : k ∈ keptFields config fields)
    (haccessors : config.generateAccessors = true) {context : Value} {version : Int} {r : Record}
    {p : PlainRecord}
    (hr : Represents (keptSpecs config fields)
      (created (keptSpecs config fields) context version) r p) (v : Value) :
    r.accept k.spec.column (if k.isBoolean then .int (if v.truth then 1 else 0) else v)
      = if k.spec.version ≤ version then k.encode v
        else .error (.undefined k.spec.columnName (.int version)) := by
  have hspec : k.spec ∈ keptSpecs config fields := List.mem_map_of_mem hk
  have hversion : r.version = .int version := hr.sameVersion
  unfold Record.accept
  rw [hr.sameTemplate, contains_created hspec, hversion]
  by_cases hv : k.spec.version ≤ version
  · rw [if_pos hv, if_pos (by simpa using hv)]
    unfold KeptField.encode
    cases hboolean : k.isBoolean with
    | true =>
      -- Truth values are stored in a column of integers, which takes every integer as it is.
      have hkind : k.spec.kind = .integer := by
        obtain ⟨mapping, hmapping, hkind, -⟩ := accessors_of_mem_keptFields hk haccessors
        obtain ⟨typeName, -, hofType⟩ := Option.bind_eq_some_iff.mp hmapping
        rw [hkind]
        apply TypeMapping.of_ofType? (p := fun mapping => mapping.boolean = true →
          mapping.kind = .integer) (by decide) hofType
        simpa [KeptField.isBoolean, hmapping] using hboolean
      simp [Column.convert, column, hkind, Column.convertTo, Column.toInteger, Except.map]
    | false =>
      cases v with
      | null => cases hnull : k.spec.allowNull <;> simp [column, hnull, Value.truth, Column.convert]
      | _ => cases k.spec.allowNull <;> rfl
  · rw [if_neg hv, if_neg (by simpa using hv)]
    rfl

end

/-! ## Calls of accessors -/

namespace LoadedClass

variable {c : LoadedClass} {a : Accessor} {className name : String}

/-- What calling a getter as it is read comes down to. -/
theorem call_of_getter (hkind : a.kind = .getter)
    (hmethod : c.method? name = some ((Method.ofAccessor a).asRead className)) (r : Record) :
    c.call r name []
      = (c.fetch r a.retrieval (Text.readName a.constantName) a.boolean).map (·, r) := by
  obtain ⟨accessor, kind, constant, valueType, retrieval, parameter, boolean⟩ := a
  obtain rfl : kind = .getter := hkind
  rw [call, hmethod]
  show (do return (← c.fetch r retrieval (Text.readName constant) boolean, r)) = _
  cases c.fetch r retrieval (Text.readName constant) boolean with
  | ok v => rfl
  | error e => rfl

/-- What calling a setter as it is read comes down to. -/
theorem call_of_setter (hkind : a.kind = .setter)
    (hmethod : c.method? name = some ((Method.ofAccessor a).asRead className)) (r : Record)
    (v : Value) :
    c.call r name [v]
      = (c.store r (Text.readName a.constantName) v a.boolean).map (.null, ·) := by
  have hargument : ∀ parameter, argument [(parameter, v)] parameter = .ok v := by
    simp [argument, contentAt?]
  obtain ⟨accessor, kind, constant, valueType, retrieval, parameter, boolean⟩ := a
  obtain rfl : kind = .setter := hkind
  rw [call, hmethod]
  -- Whatever the parameter is read as, the body reads the same name.
  show (do
    let a ← argument [(Text.nameWithin className (Text.readName _), v)]
      (Text.nameWithin className (Text.readName _))
    return (Value.null, ← c.store r (Text.readName constant) a boolean)) = _
  rw [hargument]
  show (do return (Value.null, ← c.store r (Text.readName constant) v boolean)) = _
  cases c.store r (Text.readName constant) v boolean with
  | ok r' => rfl
  | error e => rfl

end LoadedClass

namespace ClassModel

variable {config : Config} {d : TypeDeclaration} {m : ClassModel} {k : KeptField}

/-- The constant of a kept column holds that column. -/
theorem column_loaded (m : ClassModel) (hk : k ∈ keptFields config d.fields) :
    (m.loaded (keptSpecs config d.fields)).column k.spec.constantName = .ok k.spec.column := by
  have hfound : contentAt? (m.loaded (keptSpecs config d.fields)).columns k.spec.constantName
      = some k.spec.column :=
    contentAt?_map (nodup_constantNames config d.fields) (List.mem_map_of_mem hk)
  rw [LoadedClass.column, hfound]

/-- The accessors of a kept field are methods of the class, under plain names. -/
theorem methods_of_mem_keptFields (hbuild : (build config d).result = .ok (some m))
    (hexec : m.Executable) (haccessors : config.generateAccessors = true)
    (hk : k ∈ keptFields config d.fields) :
    ∃ mapping, k.mapping? = some mapping ∧ mapping.retrieval ∈ typedRetrievals
      ∧ isPlainName k.spec.constantName = true
      ∧ (m.loaded (keptSpecs config d.fields)).method? k.getterName
        = some ((Method.ofAccessor (Accessor.getterOf (AccessorNames.ofIdentifier k.identifier)
            k.spec.constantName mapping)).asRead m.className)
      ∧ (m.loaded (keptSpecs config d.fields)).method? k.setterName
        = some ((Method.ofAccessor (Accessor.setterOf (AccessorNames.ofIdentifier k.identifier)
            k.spec.constantName mapping)).asRead m.className) := by
  obtain ⟨mapping, hmapping, -, hboth, -⟩ := accessors_of_mem_keptFields hk haccessors
  obtain ⟨typeName, -, hofType⟩ := Option.bind_eq_some_iff.mp hmapping
  have hin : ∀ a ∈ accessorsOf k.spec,
      Method.ofAccessor a ∈ (ClassSource.ofModel m).methods := by
    intro a ha
    apply List.mem_append_right
    apply List.mem_map_of_mem
    rw [accessors_of_build hbuild]
    exact List.mem_flatMap.mpr ⟨k, hk, ha⟩
  rw [hboth] at hin
  simp only [List.forall_mem_cons] at hin
  refine ⟨mapping, hmapping, ?_, ?_, ?_, ?_⟩
  · exact TypeMapping.of_ofType? (p := fun mapping => mapping.retrieval ∈ typedRetrievals)
      (by decide) hofType
  · apply hexec.constants k.spec.columnField
    rw [fields_of_build hbuild]
    exact List.mem_map_of_mem hk
  · exact method?_loaded hbuild hexec.toReadable _ hin.1
  · exact method?_loaded hbuild hexec.toReadable _ hin.2.1

/-- No operation of records that an accessor calls is replaced in the class. -/
theorem checkNotReplaced_loaded (hbuild : (build config d).result = .ok (some m))
    (hexec : m.Executable) {name : String} (hname : name ∈ LoadedClass.recordMethods)
    (hinit : name ≠ "__init__")
    (given : Nat) :
    (m.loaded (keptSpecs config d.fields)).checkNotReplaced name given = .ok () := by
  rw [LoadedClass.checkNotReplaced, method?_loaded_eq_none hbuild hexec _ hname hinit]

/-- Every operation that fetches a value gives back that of the column. -/
theorem retrieve_loaded (hbuild : (build config d).result = .ok (some m)) (hexec : m.Executable)
    (hk : k ∈ keptFields config d.fields) {retrieval : String}
    (hretrieval : retrieval ∈ typedRetrievals) (r : Record) :
    (m.loaded (keptSpecs config d.fields)).retrieve r retrieval k.spec.constantName
      = .ok (r.value k.spec.column) := by
  have hall : ∀ name ∈ typedRetrievals,
      name ≠ "get_value" ∧ name ∈ LoadedClass.recordMethods ∧ name ≠ "__init__" := by decide
  obtain ⟨hother, hrecord, hinit⟩ := hall retrieval hretrieval
  have hget : (m.loaded (keptSpecs config d.fields)).getValue r k.spec.column
      = .ok (r.value k.spec.column) := by
    rw [LoadedClass.getValue, checkNotReplaced_loaded hbuild hexec (by decide) (by decide)]
    rfl
  rw [LoadedClass.retrieve, if_neg hother, if_pos (Or.inl hretrieval), column_loaded m hk,
    checkNotReplaced_loaded hbuild hexec hrecord hinit]
  exact hget

/-- **A getter** gives back what is stored in its column and leaves the object alone. -/
theorem call_getter (hbuild : (build config d).result = .ok (some m)) (hexec : m.Executable)
    (haccessors : config.generateAccessors = true) (hk : k ∈ keptFields config d.fields)
    (r : Record) :
    (m.loaded (keptSpecs config d.fields)).call r k.getterName []
      = .ok (k.decode (some (r.value k.spec.column)), r) := by
  obtain ⟨mapping, hmapping, hretrieval, hplain, hgetter, -⟩ :=
    methods_of_mem_keptFields hbuild hexec haccessors hk
  have hretrieve := retrieve_loaded hbuild hexec hk hretrieval r
  have hboolean : k.isBoolean = mapping.boolean := by simp [KeptField.isBoolean, hmapping]
  rw [LoadedClass.call_of_getter rfl hgetter]
  show ((m.loaded _).fetch r mapping.retrieval (Text.readName k.spec.constantName)
    mapping.boolean).map (·, r) = _
  rw [readName_of_isPlainName hplain, LoadedClass.fetch, hretrieve, KeptField.decode, hboolean]
  rfl

/-- **A setter** stores its argument in its column, a truth value as one or zero. -/
theorem call_setter (hbuild : (build config d).result = .ok (some m)) (hexec : m.Executable)
    (haccessors : config.generateAccessors = true) (hk : k ∈ keptFields config d.fields)
    (r : Record) (v : Value) :
    (m.loaded (keptSpecs config d.fields)).call r k.setterName [v]
      = ((r.setValue k.spec.column (if k.isBoolean then .int (if v.truth then 1 else 0) else v)).mapError
          RunError.column).map fun r' => (.null, r') := by
  obtain ⟨mapping, hmapping, -, hplain, -, hsetter⟩ :=
    methods_of_mem_keptFields hbuild hexec haccessors hk
  have hboolean : k.isBoolean = mapping.boolean := by simp [KeptField.isBoolean, hmapping]
  have hstore : (m.loaded (keptSpecs config d.fields)).store r k.spec.constantName v mapping.boolean
      = (r.setValue k.spec.column (if k.isBoolean then .int (if v.truth then 1 else 0) else v)).mapError
          RunError.column := by
    rw [LoadedClass.store, column_loaded m hk,
      checkNotReplaced_loaded hbuild hexec (by decide) (by decide), hboolean]
    rfl
  rw [LoadedClass.call_of_setter rfl hsetter]
  show ((m.loaded _).store r (Text.readName k.spec.constantName) v mapping.boolean).map _ = _
  rw [readName_of_isPlainName hplain, hstore]

end ClassModel

/-! ## Runs -/

namespace AccessorCall

variable {config : Config} {d : TypeDeclaration} {m : ClassModel}

/-- **One call** gives the outcome that the plain record gives, and the object afterwards represents
the plain record afterwards. -/
theorem run_represents (hbuild : (ClassModel.build config d).result = .ok (some m))
    (hexec : m.Executable) (haccessors : config.generateAccessors = true) {context : Value}
    {version : Int} {r : Record} {p : PlainRecord}
    (hr : Represents (keptSpecs config d.fields)
      (created (keptSpecs config d.fields) context version) r p)
    {call : AccessorCall} (hcall : call.field ∈ keptFields config d.fields) :
    (call.run (m.loaded (keptSpecs config d.fields)) r).1
        = (call.onPlain version p).1.mapError RunError.column
      ∧ Represents (keptSpecs config d.fields)
          (created (keptSpecs config d.fields) context version)
          (call.run (m.loaded (keptSpecs config d.fields)) r).2 (call.onPlain version p).2 := by
  cases call with
  | get k =>
    have hk : k ∈ keptFields config d.fields := hcall
    have hvalue := hr.value k.spec (List.mem_map_of_mem hk)
    rw [run, ClassModel.call_getter hbuild hexec haccessors hk, hvalue]
    exact ⟨rfl, hr⟩
  | set k v =>
    have hk : k ∈ keptFields config d.fields := hcall
    have haccept := accept_column hk haccessors hr v
    rw [run, ClassModel.call_setter hbuild hexec haccessors hk, Record.setValue, haccept, onPlain]
    by_cases hv : k.spec.version ≤ version
    · rw [if_pos hv, if_pos hv]
      cases k.encode v with
      | error e => exact ⟨rfl, hr⟩
      | ok stored =>
        refine ⟨rfl, hr.sameContext, hr.sameVersion, hr.sameTemplate, ?_⟩
        exact value_putEntry (List.mem_map_of_mem hk) hr.value stored
    · rw [if_neg hv, if_neg hv]
      exact ⟨rfl, hr⟩

/-- **Runs of calls**, by induction on the calls. -/
theorem runAll_represents (hbuild : (ClassModel.build config d).result = .ok (some m))
    (hexec : m.Executable) (haccessors : config.generateAccessors = true) {context : Value}
    {version : Int} (calls : List AccessorCall) :
    ∀ {r : Record} {p : PlainRecord},
      Represents (keptSpecs config d.fields)
        (created (keptSpecs config d.fields) context version) r p →
      (∀ call ∈ calls, call.field ∈ keptFields config d.fields) →
      (runAll (m.loaded (keptSpecs config d.fields)) r calls).1
          = (runPlain version p calls).1.map (·.mapError RunError.column)
        ∧ Represents (keptSpecs config d.fields)
            (created (keptSpecs config d.fields) context version)
            (runAll (m.loaded (keptSpecs config d.fields)) r calls).2
            (runPlain version p calls).2 := by
  induction calls with
  | nil => exact fun hr _ => ⟨rfl, hr⟩
  | cons call rest ih =>
    intro r p hr hcalls
    -- The rest of the calls runs on the object that the first one leaves.
    obtain ⟨hcall, hrest⟩ := List.forall_mem_cons.mp hcalls
    obtain ⟨hfirst, hr'⟩ := run_represents hbuild hexec haccessors hr hcall
    obtain ⟨hothers, hr''⟩ := ih hr' hrest
    exact ⟨by rw [runAll, runPlain, hfirst, hothers]; rfl, hr''⟩

/-- A plain record of a version only ever has values of kept columns that were introduced by
then. -/
theorem runPlain_domain {version : Int} (calls : List AccessorCall) :
    ∀ {p : PlainRecord},
      (∀ spec, p spec ≠ none → spec ∈ keptSpecs config d.fields ∧ spec.version ≤ version) →
      (∀ call ∈ calls, call.field ∈ keptFields config d.fields) →
      ∀ spec, (runPlain version p calls).2 spec ≠ none →
        spec ∈ keptSpecs config d.fields ∧ spec.version ≤ version := by
  induction calls with
  | nil => exact fun h _ => h
  | cons call rest ih =>
    intro p h hcalls
    obtain ⟨hcall, hrest⟩ := List.forall_mem_cons.mp hcalls
    refine ih ?_ hrest
    cases call with
    | get k => exact h
    | set k v =>
      rw [onPlain]
      split
      next hv =>
        split
        next stored _ =>
          intro spec (hne : Function.update p k.spec (some stored) spec ≠ none)
          by_cases heq : spec = k.spec
          · rw [heq]
            exact ⟨List.mem_map_of_mem hcall, hv⟩
          · exact h spec (by rwa [Function.update_of_ne heq] at hne)
        next => exact h
      next => exact h

end AccessorCall

/-- **Accessors refine a plain record.** The class of a model that can be executed loads exactly if
its latest version has a text, and makes an object of every version that some column was introduced
in. Whatever getters and setters of kept
fields are called on it and in whatever order, each call gives back, or fails with, what the plain
record gives; in the end every column has its value in the plain record, which has none for a column
of a later version; and context, version and template are those that the object was made with. -/
theorem runAll_ofModel {config : Config} {d : TypeDeclaration} {m : ClassModel}
    (hbuild : (ClassModel.build config d).result = .ok (some m)) (hexec : m.Executable)
    (haccessors : config.generateAccessors = true) :
    ((∃ c, LoadedClass.load (ClassSource.ofModel m) = .ok c)
        ↔ (Value.int m.latestVersion).isWritable = true)
      ∧ ∀ c, LoadedClass.load (ClassSource.ofModel m) = .ok c → ∀ (context : Value) (version : Int),
      (∃ k ∈ keptFields config d.fields, k.spec.version = version) →
      ∃ made, c.construct [context, .int version] = .ok made
        ∧ ∀ calls : List AccessorCall,
          (∀ call ∈ calls, call.field ∈ keptFields config d.fields) →
          let done := AccessorCall.runAll c made calls
          let plain := AccessorCall.runPlain version (fun _ => none) calls
          done.1 = plain.1.map (·.mapError RunError.column)
            ∧ (∀ k ∈ keptFields config d.fields,
                done.2.value k.spec.column = (plain.2 k.spec).getD .null)
            ∧ (∀ spec, plain.2 spec ≠ none →
                spec ∈ (select config d.fields).result ∧ spec.version ≤ version)
            ∧ done.2.context = context ∧ done.2.version = .int version
            ∧ done.2.template = made.template := by
  refine ⟨ClassModel.exists_load_ofModel_iff hbuild hexec.toReadable, ?_⟩
  rintro c hload context version ⟨k, hk, rfl⟩
  obtain ⟨-, rfl⟩ := (ClassModel.load_ofModel_eq_ok_iff hbuild hexec.toReadable).mp hload
  have hknown : k.spec.version ∈ versionsOf (·.version) (keptSpecs config d.fields) :=
    mem_versionsOf.mpr ⟨k.spec, List.mem_map_of_mem hk, rfl⟩
  refine ⟨created (keptSpecs config d.fields) context k.spec.version, ?_, ?_⟩
  · rw [ClassModel.construct_loaded hbuild hexec, ClassModel.outcomeOf, if_pos hknown]
  · intro calls hcalls
    obtain ⟨houtcomes, hr⟩ := AccessorCall.runAll_represents hbuild hexec haccessors calls
      (represents_created (keptSpecs config d.fields) context k.spec.version) hcalls
    refine ⟨houtcomes, ?_, ?_, hr.sameContext, hr.sameVersion, hr.sameTemplate⟩
    · exact fun other hother => hr.value other.spec (List.mem_map_of_mem hother)
    · rw [result_select]
      exact AccessorCall.runPlain_domain calls (fun _ h => absurd rfl h) hcalls

/-- An account takes a text for a truth value, but no null for its primary key. -/
theorem runAll_account :
    ∃ m c made, (ClassModel.build {} ClassModel.account).result = .ok (some m) ∧ m.Executable
      ∧ LoadedClass.load (ClassSource.ofModel m) = .ok c
      ∧ c.construct [.null, .int 3] = .ok made
      ∧ ∃ owner id isOpen, keptFields {} ClassModel.account.fields = [owner, id, isOpen]
        ∧ (AccessorCall.runAll c made [.set isOpen (.text "x"), .set id .null, .get isOpen]).1
          = [.ok .null, .error (.column (.null "id")), .ok (.bool true)] := by
  obtain ⟨hloads, hobjects⟩ :=
    runAll_ofModel ClassModel.build_account ClassModel.executable_account rfl
  obtain ⟨c, hload⟩ := hloads.mpr (by decide)
  obtain ⟨made, hmade, hruns⟩ := hobjects c hload .null 3 ⟨_, List.mem_cons_self .., rfl⟩
  obtain ⟨owner, id, isOpen, hkept, hexpected⟩ : ∃ owner id isOpen,
      keptFields {} ClassModel.account.fields = [owner, id, isOpen]
        ∧ (AccessorCall.runPlain 3 (fun _ => none)
            [.set isOpen (.text "x"), .set id .null, .get isOpen]).1
          = [.ok .null, .error (.null "id"), .ok (.bool true)] :=
    ⟨_, _, _, rfl, rfl⟩
  refine ⟨_, c, made, ClassModel.build_account, ClassModel.executable_account, hload, hmade,
    owner, id, isOpen, hkept, ?_⟩
  have hcalls : ∀ call ∈ [AccessorCall.set isOpen (.text "x"), .set id .null, .get isOpen],
      call.field ∈ keptFields {} ClassModel.account.fields := by
    simp [hkept, AccessorCall.field]
  obtain ⟨houtcomes, -⟩ := hruns _ hcalls
  rw [houtcomes, hexpected]
  rfl

end RecordForge

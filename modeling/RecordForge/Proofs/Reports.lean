import RecordForge.ClassModel

/-!
# What building a model reports

What each step may report is said once, as a predicate on diagnostics: `FieldReport` for reading a
field, `SelectionReport` for selecting columns, `ModelReport` for what follows. From there on it is
known that no step reports an error (`ClassModel.errors_build`) and by which step a warning was made,
since no two steps share a format (`ClassModel.warningsOf_build_eq_select`,
`ClassModel.warningsOf_build_eq_ofSelected`).
-/

namespace RecordForge

/-! ## Diagnostics of a run -/

namespace Reported

variable {α β : Type} {P Q : Diagnostic → Prop} {format : String}

/-- All diagnostics that are reported are such. -/
def All (P : Diagnostic → Prop) (x : Reported α) : Prop :=
  ∀ d ∈ x.diagnostics, P d

@[simp] theorem all_pure (a : α) : (Pure.pure a : Reported α).All P := List.forall_mem_nil _

@[simp] theorem all_bind (x : Reported α) (f : α → Reported β) :
    (x >>= f).All P ↔ x.All P ∧ (f x.result).All P := by
  rw [All, diagnostics_bind, List.forall_mem_append]
  rfl

@[simp] theorem all_note (format : String) (values : List Value) :
    (note format values).All P ↔ P ⟨.note, format, values⟩ :=
  List.forall_mem_singleton

@[simp] theorem all_warn (format : String) (values : List Value) :
    (warn format values).All P ↔ P ⟨.warning, format, values⟩ :=
  List.forall_mem_singleton

@[simp] theorem all_error (format : String) (values : List Value) :
    (error format values).All P ↔ P ⟨.error, format, values⟩ :=
  List.forall_mem_singleton

@[simp] theorem all_log (logger : String) (level : LogLevel) (message : String) :
    (log logger level message).All P :=
  List.forall_mem_nil _

/-- A step that goes on reports what the next one does, and a failed one nothing. -/
theorem all_proceed {ε : Type} {step : Except ε α} {next : α → Reported (Except ε β)}
    (h : ∀ a, step = .ok a → (next a).All P) : (proceed step next).All P := by
  cases step with
  | ok a => exact h a rfl
  | error e => exact all_pure _

theorem All.imp {x : Reported α} (h : x.All P) (himp : ∀ d, P d → Q d) : x.All Q :=
  fun d hd => himp d (h d hd)

/-- The errors among the diagnostics. -/
def errors (x : Reported α) : List Diagnostic :=
  Diagnostic.ofSeverity x.diagnostics .error

@[simp] theorem errors_pure (a : α) : (Pure.pure a : Reported α).errors = [] := rfl

@[simp] theorem errors_bind (x : Reported α) (f : α → Reported β) :
    (x >>= f).errors = x.errors ++ (f x.result).errors := by
  rw [errors, diagnostics_bind, Diagnostic.ofSeverity, List.filter_append]
  rfl

@[simp] theorem errors_note (format : String) (values : List Value) :
    (note format values).errors = [] := rfl

@[simp] theorem errors_log (logger : String) (level : LogLevel) (message : String) :
    (log logger level message).errors = [] := rfl

/-- A step all of whose diagnostics are something else reports no error. -/
theorem All.errors_eq_nil {x : Reported α} (h : x.All (·.severity ≠ .error)) : x.errors = [] := by
  rw [errors, Diagnostic.ofSeverity, List.filter_eq_nil_iff]
  exact fun d hd => by simpa using h d hd

/-- The warnings of a format, in order. -/
def warningsOf (x : Reported α) (format : String) : List Diagnostic :=
  x.diagnostics.filter fun d => d.severity = .warning && d.format = format

@[simp] theorem warningsOf_pure (a : α) : (Pure.pure a : Reported α).warningsOf format = [] := rfl

@[simp] theorem warningsOf_bind (x : Reported α) (f : α → Reported β) :
    (x >>= f).warningsOf format = x.warningsOf format ++ (f x.result).warningsOf format := by
  rw [warningsOf, diagnostics_bind, List.filter_append]
  rfl

@[simp] theorem warningsOf_note (f : String) (values : List Value) :
    (note f values).warningsOf format = [] := rfl

@[simp] theorem warningsOf_log (logger : String) (level : LogLevel) (message : String) :
    (log logger level message).warningsOf format = [] := rfl

theorem warningsOf_warn_self (values : List Value) :
    (warn format values).warningsOf format = [⟨.warning, format, values⟩] := by
  simp [warningsOf]

/-- A step all of whose warnings have other formats makes no warning of this one. -/
theorem All.warningsOf_eq_nil {x : Reported α}
    (h : x.All fun d => d.severity = .warning → d.format ≠ format) : x.warningsOf format = [] := by
  rw [warningsOf, List.filter_eq_nil_iff]
  exact fun d hd => by simpa using h d hd

end Reported

/-! ## Reading a field -/

/-- What reading a field may report. -/
inductive FieldReport : Diagnostic → Prop where
  | name (v : Value) : FieldReport ⟨.note, "dbfield: name = %s", [v]⟩
  | type (v : Value) : FieldReport ⟨.note, "dbfield: type = %s", [v]⟩
  | version (v : Value) : FieldReport ⟨.note, "dbfield: version = %s", [v]⟩
  | lack (identifier type : Value) :
    FieldReport ⟨.warning, "field [%s] of type [%s] has no name or type. ignored!",
      [identifier, type]⟩
  | flag (flag field raw default : Value) :
    FieldReport ⟨.warning, "parse %s for [%s] failed: %r, use default %s",
      [flag, field, raw, default]⟩
  | invalidVersion (field raw : Value) (default : Int) :
    FieldReport ⟨.warning, "invalid version for [%s]: %r, use default %d",
      [field, raw, .int default]⟩
  | unsupported (type field : Value) :
    FieldReport ⟨.warning, "[%s] of field [%s] is unsupported data type. ignored!", [type, field]⟩

/-- The formats of the warnings about a single field. -/
def FieldReport.formats : List String := [
  "field [%s] of type [%s] has no name or type. ignored!",
  "parse %s for [%s] failed: %r, use default %s",
  "invalid version for [%s]: %r, use default %d",
  "[%s] of field [%s] is unsupported data type. ignored!"]

theorem FieldReport.format_mem {d : Diagnostic} (h : FieldReport d)
    (hwarning : d.severity = .warning) : d.format ∈ formats := by
  cases h <;> simp [formats] at hwarning ⊢

namespace ColumnSpec

theorem all_readFlag (raw : Value) (default : Bool) (flag field : String) :
    (readFlag raw default flag field).All FieldReport := by
  unfold readFlag
  split
  next => simp
  next => simpa using .flag ..

theorem all_readVersion (raw : Value) (field : String) :
    (readVersion raw field).All FieldReport := by
  unfold readVersion
  split
  next => simp
  next => simpa using .invalidVersion ..

theorem all_missing (field : FieldDeclaration) : (ofField.missing field).All FieldReport := by
  simpa [ofField.missing] using .lack ..

theorem all_ofNamed (config : Config) (identifier typeName : String) (column : ColumnAnnotation) :
    (ofNamed config identifier typeName column).All FieldReport := by
  simp only [ofNamed, Reported.all_bind, Reported.all_note]
  refine ⟨.name _, .type _, .version _, all_readFlag _ _ _ _, all_readFlag _ _ _ _,
    all_readVersion _ _, ?_⟩
  cases TypeMapping.ofType? typeName with
  | none => simpa using .unsupported ..
  | some mapping => by_cases haccessors : config.generateAccessors <;> simp [haccessors]

/-- Reading a field reports nothing else. -/
theorem all_ofField (config : Config) (field : FieldDeclaration) :
    (ofField config field).All FieldReport := by
  unfold ofField
  split
  next =>
    split
    next => exact all_missing field
    next => exact all_ofNamed _ _ _ _
  next => exact all_missing field

end ColumnSpec

/-! ## Selecting columns -/

/-- The format of the warning about a field that would define a name a second time. -/
abbrev ColumnSpec.duplicateFormat : String := "field [%s] duplicates %s of field [%s]. ignored!"

/-- What selecting columns may report. -/
inductive SelectionReport (d : Diagnostic) : Prop where
  | ofField (h : FieldReport d)
  | duplicate (field name owner : Value)
    (h : d = ⟨.warning, ColumnSpec.duplicateFormat, [field, name, owner]⟩)

/-- Selecting columns reports nothing else. -/
theorem ColumnSpec.all_selectFrom (config : Config) (fields : List FieldDeclaration) :
    ∀ owners : Owners, (selectFrom config owners fields).All SelectionReport := by
  induction fields with
  | nil => exact fun _ => Reported.all_pure _
  | cons field rest ih =>
    intro owners
    rw [selectFrom, Reported.all_bind]
    refine ⟨(all_ofField config field).imp fun _ => .ofField, ?_⟩
    cases (ofField config field).result with
    | none => exact ih owners
    | some spec =>
      by_cases hcomplete : spec.isComplete config.generateAccessors
      · cases hclash : clash? owners spec.names with
        | none => simp [hcomplete, hclash, ih]
        | some found => simpa [hcomplete, hclash, ih] using .duplicate _ _ _ rfl
      · simp [hcomplete, ih]

/-- Reading a field makes no warning of another format. -/
theorem ColumnSpec.warningsOf_ofField {format : String} (h : format ∉ FieldReport.formats)
    (config : Config) (field : FieldDeclaration) :
    (ofField config field).warningsOf format = [] := by
  refine ((all_ofField config field).imp ?_).warningsOf_eq_nil
  rintro d hd hwarning rfl
  exact h (hd.format_mem hwarning)

/-- Selecting makes no warning of another format than these and that for duplicates. -/
theorem ColumnSpec.warningsOf_select {format : String} (h : format ∉ FieldReport.formats)
    (hduplicate : format ≠ duplicateFormat) (config : Config) (fields : List FieldDeclaration) :
    (select config fields).warningsOf format = [] := by
  refine ((all_selectFrom config fields []).imp ?_).warningsOf_eq_nil
  rintro d (hd | ⟨_, _, _, rfl⟩) hwarning rfl
  · exact h (hd.format_mem hwarning)
  · exact hduplicate rfl

/-! ## Building a model -/

namespace ClassModel

/-- The format of the warning about a latest version that cannot be used. -/
abbrev invalidLatestFormat : String := "invalid latest version for [%s]: %r, use default %d"

/-- The format of the warning about a latest version in which no column was introduced. -/
abbrev emptyLatestFormat : String := "latest version %d of [%s] has no columns (versions: %s)"

/-- Reading the latest version reports at most that it cannot be used. -/
theorem all_readLatestVersion (config : Config) (d : TypeDeclaration) :
    (readLatestVersion config d).All (· = ⟨.warning, invalidLatestFormat,
      [.text d.qualifiedName, d.latestVersion, .int config.defaultVersion]⟩) := by
  unfold readLatestVersion
  split <;> simp

/-- Checking the latest version reports at most that it has no columns. -/
theorem all_checkLatestVersion (d : TypeDeclaration) (latest : Int) (versions : List Int) :
    (checkLatestVersion d latest versions).All fun r => ∃ text, r = ⟨.warning, emptyLatestFormat,
      [.int latest, .text d.qualifiedName, .text text]⟩ := by
  unfold checkLatestVersion
  split
  next => exact Reported.all_pure _
  next =>
    refine Reported.all_proceed fun text _ => ?_
    simp

/-- What may be reported of a model once its columns are selected. -/
inductive ModelReport (d : TypeDeclaration) : Diagnostic → Prop where
  | skipped :
    ModelReport d ⟨.warning, "[%s] has no valid columns. skipped!", [.text d.qualifiedName]⟩
  | invalidLatest (default : Int) :
    ModelReport d ⟨.warning, invalidLatestFormat,
      [.text d.qualifiedName, d.latestVersion, .int default]⟩
  | emptyLatest (latest : Int) (versions : String) :
    ModelReport d ⟨.warning, emptyLatestFormat,
      [.int latest, .text d.qualifiedName, .text versions]⟩

/-- The formats of the warnings about the model of a type. -/
def ModelReport.formats : List String :=
  ["[%s] has no valid columns. skipped!", invalidLatestFormat, emptyLatestFormat]

theorem ModelReport.format_mem {d : TypeDeclaration} {r : Diagnostic} (h : ModelReport d r) :
    r.format ∈ formats := by
  cases h <;> simp [formats]

/-- What follows the selection reports nothing else. -/
theorem all_ofSelected (config : Config) (d : TypeDeclaration) (specs : List ColumnSpec) :
    (ofSelected config d specs).All (ModelReport d) := by
  unfold ofSelected
  split
  next => simpa using .skipped
  next =>
    rw [Reported.all_bind]
    refine ⟨(all_readLatestVersion config d).imp ?_, Reported.all_proceed fun groups _ => ?_⟩
    · rintro _ rfl
      exact .invalidLatest _
    · rw [Reported.all_bind]
      refine ⟨(all_checkLatestVersion d _ _).imp ?_, Reported.all_proceed fun _ _ => by simp⟩
      rintro _ ⟨text, rfl⟩
      exact .emptyLatest _ _

/-- Building a model reports no error. -/
@[simp] theorem errors_build (config : Config) (d : TypeDeclaration) :
    (build config d).errors = [] := by
  apply Reported.All.errors_eq_nil
  rw [build, Reported.all_bind, Reported.all_bind]
  refine ⟨by simp, (ColumnSpec.all_selectFrom config d.fields []).imp ?_,
    (all_ofSelected config d _).imp ?_⟩
  · rintro _ (⟨⟨⟩⟩ | ⟨_, _, _, rfl⟩) <;> simp
  · rintro _ ⟨⟩ <;> simp

/-! ### Where a warning comes from -/

section

variable {config : Config} {d : TypeDeclaration} {format : String}

/-- Reading the latest version makes no warning but that it cannot be used. -/
theorem warningsOf_readLatestVersion (h : format ≠ invalidLatestFormat) :
    (readLatestVersion config d).warningsOf format = [] := by
  refine ((all_readLatestVersion config d).imp ?_).warningsOf_eq_nil
  rintro _ rfl - rfl
  exact h rfl

/-- Checking the latest version makes no warning but that it has no columns. -/
theorem warningsOf_checkLatestVersion (h : format ≠ emptyLatestFormat) (latest : Int)
    (versions : List Int) : (checkLatestVersion d latest versions).warningsOf format = [] := by
  refine ((all_checkLatestVersion d latest versions).imp ?_).warningsOf_eq_nil
  rintro _ ⟨text, rfl⟩ - rfl
  exact h rfl

/-- Warnings in other formats than those about the model come from selecting. -/
theorem warningsOf_build_eq_select (h : format ∉ ModelReport.formats) :
    (build config d).warningsOf format
      = (ColumnSpec.select config d.fields).warningsOf format := by
  have hmodel : ∀ specs, (ofSelected config d specs).warningsOf format = [] := by
    intro specs
    refine ((all_ofSelected config d specs).imp ?_).warningsOf_eq_nil
    rintro r hr - rfl
    exact h hr.format_mem
  rw [build, Reported.warningsOf_bind, Reported.warningsOf_note,
    Reported.warningsOf_bind, hmodel, List.append_nil]
  rfl

/-- Warnings in formats that selecting does not use come from what follows it. -/
theorem warningsOf_build_eq_ofSelected (h : format ∉ FieldReport.formats)
    (hduplicate : format ≠ ColumnSpec.duplicateFormat) :
    (build config d).warningsOf format
      = (ofSelected config d (ColumnSpec.select config d.fields).result).warningsOf format := by
  rw [build, Reported.warningsOf_bind, Reported.warningsOf_note,
    Reported.warningsOf_bind, ColumnSpec.warningsOf_select h hduplicate]
  rfl

end

end ClassModel

end RecordForge

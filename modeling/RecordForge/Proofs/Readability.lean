import RecordForge.Proofs.Batches
import RecordForge.Proofs.Messages

/-!
# Every report can be read

A diagnostic is readable if it has a message and is logged with that message. Whether it is depends
on the letters of its format and on the values in their places (`Diagnostic.isReadable_of_letters`),
and of a value only its digits can be in the way. So each step of a run reports readable diagnostics
only, whatever was annotated, and whatever a writer refuses for a reason that has a text
(`Generation.diagnostics_readable`).
-/

namespace RecordForge

/-! ## Readable diagnostics -/

namespace Message

@[simp] theorem takes_plain (v : Value) : takes 's' v = v.isWritable := rfl

@[simp] theorem takes_shown (v : Value) : takes 'r' v = v.isWritable := rfl

@[simp] theorem takes_integer (n : Int) : takes 'd' (.int n) = (Value.int n).isWritable := by
  have hinteger : takes 'd' (.int n) = (written (.int n) (toString n)).isOk := rfl
  rw [hinteger, written]
  cases (Value.int n).isWritable <;> rfl

end Message

namespace Diagnostic

/-- The diagnostic has a message, and it is logged with that message. -/
def IsReadable (d : Diagnostic) : Prop :=
  ∃ text, d.message = .ok text ∧ (Reporter.logging.records d).map (·.message) = [.ok text]

/-- A diagnostic is readable if each directive of its format takes the value in its place. -/
theorem isReadable_of_letters {severity : Severity} {format : String} {values : List Value}
    (letters : List Char) (hletters : Message.letters? (Message.pieces format) = some letters)
    (htakes : List.Forall₂ (fun letter v => Message.takes letter v = true) letters values) :
    IsReadable ⟨severity, format, values⟩ := by
  have hmessage : ∃ text, Message.format format values = .ok text := by
    cases values with
    | nil => exact ⟨format, rfl⟩
    | cons v vs =>
      have hfill := (Message.isOk_fill_iff _ _).mpr ⟨letters, hletters, htakes⟩
      rw [Message.format, List.isEmpty_cons, if_neg Bool.false_ne_true]
      cases hresult : Message.fill (Message.pieces format) (.values (v :: vs)) with
      | ok text => exact ⟨text, rfl⟩
      | error e =>
        rw [hresult] at hfill
        exact absurd hfill Bool.false_ne_true
  obtain ⟨text, htext⟩ := hmessage
  exact ⟨text, htext, congrArg (fun m => [m]) (message_record_of_ok htext)⟩

end Diagnostic

/-! ## What was written has a text -/

/-- A list has a text if all its items have one. -/
theorem Value.isWritable_list {items : List Value} (h : ∀ v ∈ items, v.isWritable = true) :
    (Value.list items).isWritable = true := by
  rw [isWritable]
  induction items with
  | nil => rfl
  | cons v rest ih =>
    obtain ⟨hv, hrest⟩ := List.forall_mem_cons.mp h
    rw [areWritable, hv, ih hrest, Bool.and_self]

/-- All that was written in an annotation has a text. -/
structure ColumnAnnotation.IsWritable (a : ColumnAnnotation) : Prop where
  allowNull : a.allowNull.isWritable = true
  primary : a.primary.isWritable = true
  version : a.version.isWritable = true

/-- All that was written in a declaration has a text. -/
structure TypeDeclaration.IsWritable (d : TypeDeclaration) : Prop where
  latestVersion : d.latestVersion.isWritable = true
  fields : ∀ field ∈ d.fields, field.column.IsWritable

/-- An item has a text, and so has all that is written in its declaration. -/
structure Item.IsWritable (config : Config) (item : Item) : Prop where
  value : ∀ v, item = .value v → v.isWritable = true
  declared : ∀ d, Generation.declare config item = .ok d → d.IsWritable

/-! ## Reading a field -/

open Diagnostic (IsReadable isReadable_of_letters)

namespace ColumnSpec

theorem readable_readFlag {raw : Value} (h : raw.isWritable = true) (default : Bool)
    (flag field : String) : (readFlag raw default flag field).All IsReadable := by
  unfold readFlag
  split
  next => exact Reported.all_pure _
  next =>
    simp only [Reported.all_bind, Reported.all_warn, Reported.all_pure, and_true]
    exact isReadable_of_letters ['s', 's', 'r', 's'] (by decide) (by simp [h])

theorem readable_readVersion {raw : Value} (h : raw.isWritable = true) (field : String) :
    (readVersion raw field).All IsReadable := by
  unfold readVersion
  split
  next => exact Reported.all_pure _
  next =>
    have hdefault : (Value.int firstVersion).isWritable = true := by decide
    simp only [Reported.all_bind, Reported.all_warn, Reported.all_pure, and_true]
    exact isReadable_of_letters ['s', 'r', 'd'] (by decide) (by simp [h, hdefault])

theorem readable_missing (field : FieldDeclaration) :
    (ofField.missing field).All IsReadable := by
  simp only [ofField.missing, Reported.all_bind, Reported.all_warn, Reported.all_pure, and_true]
  exact isReadable_of_letters ['s', 's'] (by decide) (by simp)

theorem readable_ofNamed (config : Config) (identifier typeName : String)
    {column : ColumnAnnotation} (h : column.IsWritable) :
    (ofNamed config identifier typeName column).All IsReadable := by
  simp only [ofNamed, Reported.all_bind, Reported.all_note]
  refine ⟨isReadable_of_letters ['s'] (by decide) (by simp),
    isReadable_of_letters ['s'] (by decide) (by simp),
    isReadable_of_letters ['s'] (by decide) (by simp [h.version]),
    readable_readFlag h.allowNull _ _ _, readable_readFlag h.primary _ _ _,
    readable_readVersion h.version _, ?_⟩
  cases TypeMapping.ofType? typeName with
  | some mapping => by_cases haccessors : config.generateAccessors <;> simp [haccessors]
  | none =>
    simp only [Reported.all_bind, Reported.all_warn, Reported.all_pure, and_true]
    exact isReadable_of_letters ['s', 's'] (by decide) (by simp)

theorem readable_ofField (config : Config) {field : FieldDeclaration}
    (h : field.column.IsWritable) : (ofField config field).All IsReadable := by
  unfold ofField
  split
  next =>
    split
    next => exact readable_missing field
    next => exact readable_ofNamed _ _ _ h
  next => exact readable_missing field

/-- Selecting columns reports readable diagnostics only. -/
theorem readable_selectFrom (config : Config) {fields : List FieldDeclaration} :
    ∀ owners : Owners, (∀ field ∈ fields, field.column.IsWritable) →
      (selectFrom config owners fields).All IsReadable := by
  induction fields with
  | nil => exact fun _ _ => Reported.all_pure _
  | cons field rest ih =>
    intro owners h
    obtain ⟨hfield, hrest⟩ := List.forall_mem_cons.mp h
    rw [selectFrom, Reported.all_bind]
    refine ⟨readable_ofField config hfield, ?_⟩
    cases (ofField config field).result with
    | none => exact ih owners hrest
    | some spec =>
      by_cases hcomplete : spec.isComplete config.generateAccessors
      · cases hclash : clash? owners spec.names with
        | none => simp [hcomplete, hclash, ih _ hrest]
        | some found =>
          have hduplicate : IsReadable ⟨.warning, duplicateFormat,
              [Value.ofText? field.identifier, .text found.1, Value.ofText? found.2]⟩ :=
            isReadable_of_letters ['s', 's', 's'] (by decide) (by simp)
          simpa [hcomplete, hclash, ih _ hrest] using hduplicate
      · simp [hcomplete, ih _ hrest]

end ColumnSpec

/-! ## Building a model -/

namespace ClassModel

variable {config : Config} {d : TypeDeclaration}

theorem readable_readLatestVersion (hdefault : (Value.int config.defaultVersion).isWritable = true)
    (h : d.IsWritable) : (readLatestVersion config d).All IsReadable := by
  unfold readLatestVersion
  split
  next => exact Reported.all_pure _
  next =>
    simp only [Reported.all_bind, Reported.all_warn, Reported.all_pure, and_true]
    exact isReadable_of_letters ['s', 'r', 'd'] (by decide) (by simp [h.latestVersion, hdefault])

/-- The latest version is the declared one or the default, so it has a text. -/
theorem isWritable_result_readLatestVersion
    (hdefault : (Value.int config.defaultVersion).isWritable = true) (h : d.IsWritable) :
    (Value.int (readLatestVersion config d).result).isWritable = true := by
  unfold readLatestVersion
  split
  next n hlatest =>
    have hdeclared : d.latestVersion = .int n := by
      unfold Value.positive? at hlatest
      split at hlatest
      next m hm =>
        split at hlatest
        next => rw [hm, Option.some.inj hlatest]
        next => exact absurd hlatest (by simp)
      next => exact absurd hlatest (by simp)
    rw [Reported.result_pure, ← hdeclared]
    exact h.latestVersion
  next => exact hdefault

theorem readable_checkLatestVersion {latest : Int} (h : (Value.int latest).isWritable = true)
    (versions : List Int) : (checkLatestVersion d latest versions).All IsReadable := by
  unfold checkLatestVersion
  split
  next => exact Reported.all_pure _
  next =>
    apply Reported.all_proceed
    intro text _
    simp only [Reported.all_bind, Reported.all_warn, Reported.all_pure, and_true]
    exact isReadable_of_letters ['d', 's', 's'] (by decide) (by simp [h])

/-- Building a model reports readable diagnostics only. -/
theorem readable_build (hdefault : (Value.int config.defaultVersion).isWritable = true)
    (h : d.IsWritable) : (build config d).All IsReadable := by
  rw [build, Reported.all_bind, Reported.all_note, Reported.all_bind]
  refine ⟨isReadable_of_letters ['s', 's'] (by decide) (by simp),
    ColumnSpec.readable_selectFrom config [] h.fields, ?_⟩
  unfold ofSelected
  split
  next =>
    simp only [Reported.all_bind, Reported.all_warn, Reported.all_pure, and_true]
    exact isReadable_of_letters ['s'] (by decide) (by simp)
  next =>
    rw [Reported.all_bind]
    refine ⟨readable_readLatestVersion hdefault h, Reported.all_proceed fun groups _ => ?_⟩
    rw [Reported.all_bind]
    refine ⟨readable_checkLatestVersion (isWritable_result_readLatestVersion hdefault h) _,
      Reported.all_proceed fun _ _ => ?_⟩
    simp only [Reported.all_bind, Reported.all_log, Reported.all_pure, and_true]

end ClassModel

/-! ## A run -/

namespace Generation

variable {σ : Type} {config : Config} {d : TypeDeclaration}

/-- Making the source of a declared type reports readable diagnostics only. -/
theorem readable_sourceOf (hdefault : (Value.int config.defaultVersion).isWritable = true)
    (h : d.IsWritable) : (sourceOf config d).All IsReadable := by
  have hidentifiers :
      (Value.list (d.fields.map fun f => Value.ofText? f.identifier)).isWritable = true :=
    Value.isWritable_list (List.forall_mem_map.mpr fun _ _ => Value.isWritable_ofText? _)
  simp only [sourceOf, Reported.all_bind, Reported.all_note]
  exact ⟨isReadable_of_letters ['s'] (by decide) (by simp),
    isReadable_of_letters ['s'] (by decide) (by simp),
    isReadable_of_letters ['s'] (by decide) (by simp [hidentifiers]),
    ClassModel.readable_build hdefault h, Reported.all_proceed fun _ _ => Reported.all_pure _⟩

/-- The report of a writer's answer is readable, if the reason for a refusal has a text. -/
theorem readable_reportWritten (d : TypeDeclaration) (r : GenerationResult)
    {written : Except WriteError (Option Path)}
    (h : ∀ e, written = .error e → e.content.isWritable = true) :
    (reportWritten d r written).All IsReadable := by
  cases written with
  | error e =>
    simp only [reportWritten, Reported.all_bind, Reported.all_error, Reported.all_pure, and_true]
    exact isReadable_of_letters ['s', 's'] (by decide) (by simp [h e rfl])
  | ok path => simp [reportWritten]

/-- The report of an item that cannot be read is readable. -/
theorem readable_unreadable {item : Item} (h : item.IsWritable config) (e : ReadError) :
    (unreadable item e).All IsReadable := by
  have hitem : (itemValue item).isWritable = true := by
    unfold itemValue
    split
    next v => exact h.value v rfl
    next => rfl
  simp only [unreadable, Reported.all_bind, Reported.all_error, Reported.all_pure, and_true]
  exact isReadable_of_letters ['s', 's'] (by decide) (by simp [hitem])

/-- A declared type reports readable diagnostics only. -/
theorem readable_ofDeclaration (hdefault : (Value.int config.defaultVersion).isWritable = true)
    (h : d.IsWritable) {writer : Option (Write σ)} (hwriter : ∀ w ∈ writer, w.Printable) (out : σ) :
    (ofDeclaration config writer out d).All IsReadable := by
  rw [ofDeclaration, Reported.all_bind]
  refine ⟨readable_sourceOf hdefault h, ?_⟩
  cases (sourceOf config d).result with
  | error e => exact Reported.all_pure _
  | ok source =>
    cases writer with
    | none => exact Reported.all_pure _
    | some w =>
      cases source with
      | none => exact Reported.all_pure _
      | some source =>
        simp only [writeSource, Reported.all_bind, Reported.all_pure, and_true]
        exact readable_reportWritten _ _ (hwriter w rfl _ _ _ _)

/-- One item reports readable diagnostics only. -/
theorem readable_ofItem (hdefault : (Value.int config.defaultVersion).isWritable = true)
    {item : Item} (h : item.IsWritable config) {writer : Option (Write σ)}
    (hwriter : ∀ w ∈ writer, w.Printable) (out : σ) :
    (ofItem config writer out item).All IsReadable := by
  rw [ofItem]
  cases hread : declare config item with
  | ok d =>
    rw [ofRead, Reported.all_bind]
    exact ⟨readable_ofDeclaration hdefault (h.declared d hread) hwriter out, Reported.all_pure _⟩
  | error e =>
    rw [ofRead]
    split
    next => exact Reported.all_pure _
    next =>
      rw [Reported.all_bind]
      exact ⟨readable_unreadable h e, Reported.all_pure _⟩

/-- A run reports readable diagnostics only. -/
theorem readable_run (hdefault : (Value.int config.defaultVersion).isWritable = true)
    {writer : Option (Write σ)} (hwriter : ∀ w ∈ writer, w.Printable) {items : List Item} :
    ∀ out : σ, (∀ item ∈ items, item.IsWritable config) →
      (run config writer out items).All IsReadable := by
  induction items with
  | nil => exact fun _ _ => Reported.all_pure _
  | cons item rest ih =>
    intro out h
    obtain ⟨hitem, hrest⟩ := List.forall_mem_cons.mp h
    rw [run_cons, Reported.all_bind]
    refine ⟨readable_ofItem hdefault hitem hwriter out, ?_⟩
    split
    next => exact Reported.all_pure _
    next =>
      rw [Reported.all_bind]
      exact ⟨ih _ hrest, Reported.all_pure _⟩

/-- **Every diagnostic of a run can be read.** Whatever is annotated and marked, of whatever kind,
and however a writer answers, each diagnostic has a message and is logged with it, as long as the
integers written and the reasons of the writer have a text. -/
theorem diagnostics_readable (config : Config)
    (hdefault : (Value.int config.defaultVersion).isWritable = true) (writer : Option (Write σ))
    (hwriter : ∀ w ∈ writer, w.Printable) (out : σ) (items : List Item)
    (hitems : ∀ item ∈ items, item.IsWritable config) :
    ∀ d ∈ (run config writer out items).diagnostics, d.IsReadable :=
  readable_run hdefault hwriter out hitems

/-- A type whose annotations are of odd kinds. -/
def oddDeclaration : TypeDeclaration where
  package := "app"
  name := "Odd"
  latestVersion := .null
  fields := [
    ⟨some "mCount", some "int",
      { allowNull := .list [], primary := .float .nan, version := .dict [("a", .int 1)] }⟩,
    ⟨none, some "", {}⟩]

/-- The writer that refuses everything because the disk is full. -/
def fullDisk : Write Nat :=
  fun n _ _ _ => (n, .error (.refused "RuntimeError" (.text "disk full")))

/-- A run over such a type and something that is no class, with such a writer. -/
theorem diagnostics_readable_oddDeclaration :
    (Value.int ({} : Config).defaultVersion).isWritable = true
      ∧ (∀ w ∈ some fullDisk, w.Printable)
      ∧ (∀ item ∈ [Item.declaration oddDeclaration, .value (.list [.bool true])],
        item.IsWritable {})
      ∧ ∀ d ∈ (run {} (some fullDisk) 0
          [.declaration oddDeclaration, .value (.list [.bool true])]).diagnostics,
        d.IsReadable := by
  have hdefault : (Value.int ({} : Config).defaultVersion).isWritable = true := by decide
  have hwriter : ∀ w ∈ some fullDisk, w.Printable := by
    rintro _ ⟨⟩ _ _ _ _ _ ⟨⟩
    rfl
  have hdeclaration : oddDeclaration.IsWritable :=
    ⟨rfl, List.forall_mem_cons.mpr ⟨⟨rfl, rfl, by decide⟩,
      List.forall_mem_singleton.mpr ⟨rfl, rfl, by decide⟩⟩⟩
  have hitems : ∀ item ∈ [Item.declaration oddDeclaration, .value (.list [.bool true])],
      item.IsWritable {} := by
    refine List.forall_mem_cons.mpr ⟨⟨?_, ?_⟩, List.forall_mem_singleton.mpr ⟨?_, ?_⟩⟩
    · exact fun v hv => nomatch hv
    · exact fun d hd => Except.ok.inj hd ▸ hdeclaration
    · exact fun v hv => Item.value.inj hv ▸ rfl
    · exact fun d hd => nomatch hd
  exact ⟨hdefault, hwriter, hitems, diagnostics_readable {} hdefault _ hwriter 0 _ hitems⟩

end Generation

end RecordForge

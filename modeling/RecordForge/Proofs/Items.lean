import Mathlib.Data.List.Basic
import RecordForge.Generation
import RecordForge.Proofs.Rendering
import RecordForge.Proofs.Reports

/-!
# Generating one item

An item is read, its source is made, and the source is written. What comes before writing ends in
one of four ways (`unwritten_ends`), and writing adds at most a path or an error, so that every
result says of its source, its errors and its path what happened (`fair_ofItem`). There is a result
unless the item cannot be read for a reason that is not expected of a class, or something to be
written has no text: a type name, a version in the source, or the reason of a writer
(`ofItem_finishes_iff`). What a writer has written before makes no difference if its answers do not
depend on that (`ofItem_steady`).
-/

namespace RecordForge

/-! ## Writers -/

namespace Write

variable {σ : Type}

/-- The answers of the writer do not depend on what it has written. -/
def Steady (w : Write σ) : Prop :=
  ∀ s s' package module source, (w s package module source).2 = (w s' package module source).2

/-- The reasons for which the writer refuses sources have a text. -/
def Printable (w : Write σ) : Prop :=
  ∀ s package module source e, (w s package module source).2 = .error e →
    e.content.isWritable = true

/-- A call of a writer. -/
structure Call where
  package : String
  module : String
  source : String
deriving DecidableEq, Repr

/-- The writer that also keeps a record of its calls. -/
def recorded (w : Write σ) : Write (σ × List Call) := fun state package module source =>
  let (s, written) := w state.1 package module source
  ((s, state.2 ++ [⟨package, module, source⟩]), written)

/-- Memory takes everything. -/
theorem steady_memory : Writer.memory.write.Steady :=
  fun _ _ _ _ _ => rfl

theorem printable_memory : Writer.memory.write.Printable :=
  fun _ _ _ _ _ h => absurd h (by simp [Writer.write])

/-- Refusing modules by their names is steady. -/
theorem steady_refusing {refusal? : String → Option WriteError} {w : Writer}
    (h : w.write.Steady) : (Writer.refusing refusal? w).write.Steady := by
  intro s s' package module source
  unfold Writer.write
  cases refusal? module with
  | none => exact h s s' package module source
  | some e => rfl

theorem printable_refusing {refusal? : String → Option WriteError} {w : Writer}
    (h : w.write.Printable)
    (hrefusal : ∀ module e, refusal? module = some e → e.content.isWritable = true) :
    (Writer.refusing refusal? w).write.Printable := by
  intro s package module source e he
  unfold Writer.write at he
  cases hmodule : refusal? module with
  | none =>
    rw [hmodule] at he
    exact h s package module source e he
  | some error =>
    rw [hmodule] at he
    exact Except.error.inj he ▸ hrefusal module error hmodule

end Write

/-- The writer of a directory changes the files as writing below the directory does. -/
theorem Writer.write_directory (directory : Path) (out : Outputs) (package module source : String) :
    (Writer.directory directory).write out package module source
      = ({ out with files := (Writer.writeBelow directory out.files package module source).1 },
        (Writer.writeBelow directory out.files package module source).2.map some) := by
  rw [write]

/-- The errors of writing below a directory have a text. -/
theorem Writer.content_writeBelow {directory : Path} {t : FileTree}
    {package module source : String} {e : WriteError}
    (h : (writeBelow directory t package module source).2 = .error e) :
    ∃ text, e.content = .text text := by
  unfold writeBelow at h
  dsimp only at h
  split at h
  next => exact Except.error.inj h ▸ ⟨_, rfl⟩
  next =>
    split at h
    next => exact Except.error.inj h ▸ ⟨_, rfl⟩
    next =>
      split at h
      next => exact Except.error.inj h ▸ ⟨_, rfl⟩
      next =>
        split at h
        next => exact nomatch h
        next => exact Except.error.inj h ▸ ⟨_, rfl⟩

/-- So has every reason of the writer of a directory. -/
theorem Write.printable_directory (directory : Path) :
    (Writer.directory directory).write.Printable := by
  intro out package module source e he
  rw [Writer.write_directory] at he
  cases hwritten : (Writer.writeBelow directory out.files package module source).2 with
  | ok path => simp [hwritten, Except.map] at he
  | error error =>
    obtain ⟨text, htext⟩ := Writer.content_writeBelow hwritten
    obtain rfl : error = e := by simpa [hwritten, Except.map] using he
    rw [htext]
    rfl

/-! ## One item -/

/-- The versions that the source of a type shows have a text: those of the fields that are kept, and
the latest one if there is such a field. -/
structure TypeDeclaration.Renders (config : Config) (d : TypeDeclaration) : Prop where
  kept : ∀ spec ∈ keptSpecs config d.fields, (Value.int spec.version).isWritable = true
  latest : keptFields config d.fields ≠ [] →
    (Value.int (d.latestVersion.positive?.getD config.defaultVersion)).isWritable = true

namespace Generation

variable {σ : Type} {config : Config} {writer : Option (Write σ)} {w : Write σ} {s : σ}
  {item : Item} {d : TypeDeclaration} {source : String} {r : GenerationResult}

/-- Generating one item. -/
def ofItem (config : Config) (writer : Option (Write σ)) (s : σ) (item : Item) :
    Reported (Except GenerationFailure GenerationResult × σ) :=
  ofRead config writer s item (declare config item)

/-- The part of generating an item that comes before its source is written. -/
def unwritten (config : Config) (item : Item) :
    Reported (Except GenerationFailure GenerationResult) :=
  match declare config item with
  | .ok d => do
    return ((← sourceOf config d).map (resultOf config d)).mapError .unwritable
  | .error e =>
    if e.escapes then return .error (.read e) else do return .ok (← unreadable item e)

/-- The model of an item that can be read and keeps a column. -/
def model? (config : Config) (item : Item) : Option ClassModel :=
  (declare config item).toOption.bind fun d => (ClassModel.build config d).result.toOption.join

/-- The source of an item that has one, with the declaration that it was made from. -/
def source? (config : Config) (item : Item) : Option (TypeDeclaration × String) :=
  (declare config item).toOption.bind fun d =>
    (sourceOf config d).result.toOption.join.map fun source => (d, source)

/-- The call by which a source is written. -/
def callOf (config : Config) (d : TypeDeclaration) (source : String) : Write.Call :=
  ⟨d.package, (resultOf config d none).moduleName, source⟩

/-- The call that an item calls for. -/
def call? (config : Config) (item : Item) : Option Write.Call :=
  (source? config item).map fun (d, source) => callOf config d source

/-! ### Sources -/

/-- A source is made in one of three ways. -/
theorem sourceOf_cases (config : Config) (d : TypeDeclaration) :
    (d.Renders config ∧ ∃ model, (ClassModel.build config d).result = .ok model
        ∧ (sourceOf config d).result = .ok (model.map (·.text)))
      ∨ (¬ d.Renders config ∧ (sourceOf config d).result = .error {}) := by
  have hsource : (sourceOf config d).result = (Reported.proceed (ClassModel.build config d).result
      fun model => return model.mapM ClassModel.render).result := rfl
  rw [hsource]
  -- The versions of the columns are written into names when the model is built, and the latest one
  -- only into the source.
  rcases ClassModel.result_build_cases config d with
    ⟨hkept, hbuild⟩ | ⟨hkept, hwritable, hbuild⟩ | ⟨hkept, hnot, hbuild⟩
  · exact .inl ⟨⟨by simp [keptSpecs, hkept], fun h => absurd hkept h⟩, none, hbuild, by
      rw [hbuild]
      rfl⟩
  · by_cases hlatest :
        (Value.int (d.latestVersion.positive?.getD config.defaultVersion)).isWritable = true
    · refine .inl ⟨⟨hwritable, fun _ => hlatest⟩, _, hbuild, ?_⟩
      rw [hbuild, Reported.proceed_ok, Reported.result_pure, Option.mapM_some,
        (ClassModel.render_eq_ok_iff_of_build hbuild).mpr ⟨hlatest, rfl⟩]
      rfl
    · refine .inr ⟨fun h => hlatest (h.latest hkept), ?_⟩
      rw [hbuild, Reported.proceed_ok, Reported.result_pure, Option.mapM_some]
      cases hrender : ClassModel.render _ with
      | error e => rfl
      | ok text =>
        exact absurd ((ClassModel.render_eq_ok_iff_of_build hbuild).mp hrender).1 hlatest
  · refine .inr ⟨fun h => hnot h.kept, ?_⟩
    rw [hbuild]
    rfl

/-- Making a source reports no error. -/
theorem errors_sourceOf (config : Config) (d : TypeDeclaration) :
    (sourceOf config d).errors = [] := by
  have hrender : ∀ model : Option ClassModel,
      (return model.mapM ClassModel.render :
        Reported (Except Unwritable (Option String))).errors = [] := fun _ => rfl
  simp only [sourceOf, Reported.errors_bind, Reported.errors_note, ClassModel.errors_build,
    List.nil_append]
  cases (ClassModel.build config d).result with
  | error e => rfl
  | ok model => exact hrender model

/-- The declaration and the source of an item with one. -/
theorem source?_eq_some_iff :
    source? config item = some (d, source)
      ↔ declare config item = .ok d ∧ (sourceOf config d).result = .ok (some source) := by
  simp only [source?, Option.bind_eq_some_iff, Option.map_eq_some_iff, toOption_eq_some_iff,
    Option.join_eq_some_iff, Prod.mk.injEq]
  constructor
  · rintro ⟨_, hread, _, hsource, rfl, rfl⟩
    exact ⟨hread, hsource⟩
  · rintro ⟨hread, hsource⟩
    exact ⟨d, hread, source, hsource, rfl, rfl⟩

/-- The source of an item that can be read is that of its declaration. -/
theorem source?_of_read (hread : declare config item = .ok d) {text : Option String}
    (hsource : (sourceOf config d).result = .ok text) :
    source? config item = text.map fun source => (d, source) := by
  rw [source?, hread]
  show ((sourceOf config d).result.toOption.join).map _ = _
  rw [hsource]
  rfl

/-- The model of an item that can be read is that of its declaration. -/
theorem model?_of_read (hread : declare config item = .ok d) {model : Option ClassModel}
    (hbuild : (ClassModel.build config d).result = .ok model) : model? config item = model := by
  rw [model?, hread]
  show (ClassModel.build config d).result.toOption.join = _
  rw [hbuild]
  rfl

/-! ### Before the source is written -/

/-- How the part before writing ends. -/
inductive UnwrittenEnd (config : Config) (item : Item) : Prop where
  /-- Reading the item fails in a way that is not expected of a class. -/
  | escaped (e : ReadError) (hread : declare config item = .error e) (he : e.escapes = true)
      (hresult : (unwritten config item).result = .error (.read e))
      (herrors : (unwritten config item).errors = [])
  /-- The item cannot be read, which is reported. -/
  | unread (e : ReadError) (hread : declare config item = .error e) (he : e.escapes = false)
      (hresult : (unwritten config item).result
        = .ok { typeName := itemName item, error := some e.message })
      (herrors : (unwritten config item).errors.length = 1)
  /-- A version in the source has no text. -/
  | unrendered (d : TypeDeclaration) (hread : declare config item = .ok d)
      (hrenders : ¬ d.Renders config)
      (hresult : (unwritten config item).result = .error (.unwritable {}))
      (herrors : (unwritten config item).errors = [])
  /-- The source is made, if the declaration has a model. -/
  | made (d : TypeDeclaration) (model : Option ClassModel) (hread : declare config item = .ok d)
      (hrenders : d.Renders config) (hbuild : (ClassModel.build config d).result = .ok model)
      (hsource : (sourceOf config d).result = .ok (model.map (·.text)))
      (hresult : (unwritten config item).result
        = .ok (resultOf config d (model.map (·.text))))
      (herrors : (unwritten config item).errors = [])

theorem unwritten_ends (config : Config) (item : Item) : UnwrittenEnd config item := by
  cases hread : declare config item with
  | error e =>
    cases he : e.escapes with
    | true => exact .escaped e hread he (by simp [unwritten, hread, he]) (by
        simp [unwritten, hread, he])
    | false => exact .unread e hread he (by simp [unwritten, hread, he, unreadable]) (by
        simp [unwritten, hread, he, unreadable, Reported.errors, Diagnostic.ofSeverity])
  | ok d =>
    have herrors : (unwritten config item).errors = [] := by
      simp [unwritten, hread, errors_sourceOf]
    rcases sourceOf_cases config d with ⟨hrenders, model, hbuild, hsource⟩ | ⟨hnot, hsource⟩
    · exact .made d model hread hrenders hbuild hsource (by
        simp [unwritten, hread, hsource, Except.map, Except.mapError]) herrors
    · exact .unrendered d hread hnot (by
        simp [unwritten, hread, hsource, Except.map, Except.mapError]) herrors

/-! ### What is written -/

/-- Before it is written, an item with a source has the result that goes with the source. -/
theorem result_unwritten_of_source? (h : source? config item = some (d, source)) :
    (unwritten config item).result = .ok (resultOf config d (some source)) := by
  obtain ⟨hread, hsource⟩ := source?_eq_some_iff.mp h
  rw [unwritten, hread]
  show (((sourceOf config d).result.map (resultOf config d)).mapError _) = _
  rw [hsource]
  rfl

/-- An item that cannot be read is not written. -/
theorem ofItem_of_unread {e : ReadError} (hread : declare config item = .error e) :
    ofItem config writer s item = do return (← unwritten config item, s) := by
  rw [ofItem, unwritten, hread, ofRead]
  -- Either way the state of the writer is handed back.
  cases he : e.escapes with
  | true => ext1 <;> simp [he]
  | false => ext1 <;> simp [he]

/-- An item is not written if there is no writer or no source. -/
theorem ofItem_of_unwritten (h : writer = none ∨ source? config item = none) :
    ofItem config writer s item = do return (← unwritten config item, s) := by
  cases hread : declare config item with
  | error e => exact ofItem_of_unread hread
  | ok d =>
    rw [ofItem, unwritten, hread, ofRead, ofDeclaration]
    cases hsource : (sourceOf config d).result with
    | error e => ext1 <;> simp [hsource, Except.map]
    | ok text =>
      rw [source?_of_read hread hsource, Option.map_eq_none_iff] at h
      rcases h with rfl | rfl
      · ext1 <;> simp [hsource, Except.map]
      · ext1 <;> cases writer <;> simp [hsource, Except.map]

/-- A writer is given the source of an item that has one. -/
theorem ofItem_of_source?_eq_some (h : source? config item = some (d, source)) :
    ofItem config (some w) s item = (do
      let _ ← unwritten config item
      let (made, s) ← writeSource w s d (resultOf config d (some source)) source
      return (made.mapError .unwritable, s)) := by
  obtain ⟨hread, hsource⟩ := source?_eq_some_iff.mp h
  rw [ofItem, unwritten, hread]
  ext1 <;> simp [ofRead, ofDeclaration, hsource]

/-! ### What a result says -/

/-- What holds of the result of an item and of the errors reported for it: the source is that of the
model, the call that writes it has its module and its source, there is one error for a result with
an error and none otherwise, and an error leaves no path. -/
structure Fair (config : Config) (item : Item) (r : GenerationResult) (errors : List Diagnostic) :
    Prop where
  source : r.source = (model? config item).map (·.text)
  call : (call? config item).map (fun c => (c.module, c.source))
    = r.source.map fun source => (r.moduleName, source)
  errors : errors.length = if r.error.isSome then 1 else 0
  path : r.error.isSome = true → r.path = none

/-- A fair result has as many errors as it adds to the results with an error. -/
theorem Fair.length_errors_cons {errors : List Diagnostic} (h : Fair config item r errors)
    (rest : List GenerationResult) :
    ((r :: rest).filter (·.error.isSome)).length
      = errors.length + (rest.filter (·.error.isSome)).length := by
  rw [List.filter_cons, h.errors]
  split
  next => rw [List.length_cons, Nat.add_comm]
  next => rw [Nat.zero_add]

theorem fair_unwritten (h : (unwritten config item).result = .ok r) :
    Fair config item r (unwritten config item).errors := by
  cases unwritten_ends config item with
  | escaped e hread he hresult herrors => exact absurd (hresult.symm.trans h) (by simp)
  | unrendered d hread hrenders hresult herrors => exact absurd (hresult.symm.trans h) (by simp)
  | unread e hread he hresult herrors =>
    obtain rfl := Except.ok.inj (hresult.symm.trans h)
    refine ⟨?_, ?_, herrors, fun _ => rfl⟩
    · simp [model?, hread, Except.toOption]
    · simp [call?, source?, hread, Except.toOption]
  | made d model hread hrenders hbuild hsource hresult herrors =>
    obtain rfl := Except.ok.inj (hresult.symm.trans h)
    refine ⟨?_, ?_, by simp [herrors, resultOf], by simp [resultOf]⟩
    · rw [model?_of_read hread hbuild]
      rfl
    · rw [call?, source?_of_read hread hsource]
      simp [resultOf, callOf, Function.comp_def]

/-- An item that ends before its source is written reports no error. -/
theorem errors_unwritten_of_error {e : GenerationFailure}
    (h : (unwritten config item).result = .error e) : (unwritten config item).errors = [] := by
  cases unwritten_ends config item with
  | escaped e' hread he hresult herrors => exact herrors
  | unrendered d hread hrenders hresult herrors => exact herrors
  | unread e' hread he hresult herrors => exact absurd (hresult.symm.trans h) (by simp)
  | made d model hread hrenders hbuild hsource hresult herrors => exact herrors

/-- The answer of a writer keeps a result fair: a refusal is its one error, and a written source
leaves it without any. -/
theorem fair_reportWritten {errors : List Diagnostic} (h : Fair config item r errors)
    (hr : r.error = none) (hpath : r.path = none) {written : Except WriteError (Option Path)}
    {r' : GenerationResult} (hr' : (reportWritten d r written).result = .ok r') :
    Fair config item r' (errors ++ (reportWritten d r written).errors) := by
  -- Nothing went wrong before, so that a refusal is the first error.
  have hnone : errors = [] := by
    rw [← List.length_eq_zero_iff, h.errors, hr]
    rfl
  rw [hnone, List.nil_append]
  cases written with
  | error e =>
    obtain ⟨message, -, rfl⟩ := map_eq_ok_iff.mp hr'
    exact ⟨h.source, h.call, rfl, fun _ => hpath⟩
  | ok path =>
    obtain rfl := Except.ok.inj hr'
    have herror : ({ r with path } : GenerationResult).error = none := hr
    refine ⟨h.source, h.call, ?_, ?_⟩
    · rw [herror]
      rfl
    · rw [herror]
      exact fun hsome => absurd hsome (by simp)

/-- **Every result of an item is fair**, whatever is written and to whom. -/
theorem fair_ofItem (h : (ofItem config writer s item).result.1 = .ok r) :
    Fair config item r (ofItem config writer s item).errors := by
  by_cases hunwritten : writer = none ∨ source? config item = none
  · rw [ofItem_of_unwritten hunwritten] at h ⊢
    simpa using fair_unwritten h
  · rw [not_or] at hunwritten
    obtain ⟨w, rfl⟩ := Option.ne_none_iff_exists'.mp hunwritten.1
    obtain ⟨⟨d, source⟩, hsource⟩ := Option.ne_none_iff_exists'.mp hunwritten.2
    rw [ofItem_of_source?_eq_some hsource] at h ⊢
    have hwritten := mapError_eq_ok_iff.mp h
    simpa [writeSource] using
      fair_reportWritten (fair_unwritten (result_unwritten_of_source? hsource)) rfl rfl hwritten

/-! ### When there is a result -/

/-- An item that is expected to have a result: it can be read, or fails to be in a way that is
expected of a class, and the versions in its source have a text. -/
structure Expected (config : Config) (item : Item) : Prop where
  read : ∀ e, declare config item = .error e → e.escapes = false
  renders : ∀ d, declare config item = .ok d → d.Renders config

/-- An item that has a result: one is expected, and if the writer refuses the source, it does so for
a reason that has a text. -/
structure Finishes (config : Config) (writer : Option (Write σ)) (s : σ) (item : Item) : Prop
    extends Expected config item where
  refusal : ∀ w ∈ writer, ∀ call ∈ call? config item, ∀ e,
    (w s call.package call.module call.source).2 = .error e → e.content.isWritable = true

theorem unwritten_finishes_iff :
    (∃ r, (unwritten config item).result = .ok r) ↔ Expected config item := by
  cases unwritten_ends config item with
  | escaped e hread he hresult herrors =>
    rw [hresult]
    exact ⟨fun ⟨_, h⟩ => (nomatch h), fun h => absurd (h.read e hread) (by simp [he])⟩
  | unrendered d hread hrenders hresult herrors =>
    rw [hresult]
    exact ⟨fun ⟨_, h⟩ => (nomatch h), fun h => absurd (h.renders d hread) hrenders⟩
  | unread e hread he hresult herrors =>
    refine iff_of_true ⟨_, hresult⟩ ⟨fun e' he' => ?_, fun d hd => ?_⟩
    · obtain rfl := Except.error.inj (hread.symm.trans he')
      exact he
    · exact nomatch hread.symm.trans hd
  | made d model hread hrenders hbuild hsource hresult herrors =>
    refine iff_of_true ⟨_, hresult⟩ ⟨fun e he => ?_, fun d' hd' => ?_⟩
    · exact nomatch hread.symm.trans he
    · obtain rfl := Except.ok.inj (hread.symm.trans hd')
      exact hrenders

theorem reportWritten_finishes_iff {written : Except WriteError (Option Path)} :
    (∃ r', (reportWritten d r written).result = .ok r')
      ↔ ∀ e, written = .error e → e.content.isWritable = true := by
  cases written with
  | ok path => exact iff_of_true ⟨_, rfl⟩ fun e he => nomatch he
  | error e =>
    have hwrite : (reportWritten d r (.error e)).result
        = (fun message => { r with error := some message }) <$> e.content.write := rfl
    simp only [hwrite, map_eq_ok_iff, Value.write_eq_ok_iff, Except.error.injEq, forall_eq']
    exact ⟨fun ⟨_, _, ⟨h, _⟩, _⟩ => h, fun h => ⟨_, _, ⟨h, rfl⟩, rfl⟩⟩

/-- **When an item has a result.** -/
theorem ofItem_finishes_iff :
    (∃ r, (ofItem config writer s item).result.1 = .ok r) ↔ Finishes config writer s item := by
  by_cases hunwritten : writer = none ∨ source? config item = none
  · rw [ofItem_of_unwritten hunwritten]
    refine unwritten_finishes_iff.trans ⟨fun h => ⟨h, ?_⟩, fun h => h.toExpected⟩
    rcases hunwritten with rfl | hnone
    · exact fun w hw => (nomatch hw)
    · simp [call?, hnone]
  · rw [not_or] at hunwritten
    obtain ⟨w, rfl⟩ := Option.ne_none_iff_exists'.mp hunwritten.1
    obtain ⟨⟨d, source⟩, hsource⟩ := Option.ne_none_iff_exists'.mp hunwritten.2
    -- Nothing went wrong up to the source, so that the answer of the writer decides.
    have hexpected : Expected config item :=
      unwritten_finishes_iff.mp ⟨_, result_unwritten_of_source? hsource⟩
    have hwritten : (∃ r, (ofItem config (some w) s item).result.1 = .ok r)
        ↔ ∃ r, (reportWritten d (resultOf config d (some source))
          (w s d.package (resultOf config d (some source)).moduleName source).2).result = .ok r := by
      rw [ofItem_of_source?_eq_some hsource]
      exact exists_congr fun r => mapError_eq_ok_iff
    rw [hwritten, reportWritten_finishes_iff]
    constructor
    · intro h
      refine ⟨hexpected, ?_⟩
      simp only [Option.mem_some_iff, forall_eq', call?, hsource, Option.map_some]
      exact h
    · exact fun h => h.refusal w rfl _ (by rw [call?, hsource]; rfl)

/-- With reasons that have a text, all that matters is what comes before writing. -/
theorem finishes_iff_of_printable (hprint : ∀ w ∈ writer, w.Printable) :
    Finishes config writer s item ↔ Expected config item :=
  ⟨fun h => h.toExpected, fun h => ⟨h, fun w hw _ _ e he => hprint w hw _ _ _ _ e he⟩⟩

/-- With reasons that have a text, an item without a result has no source. -/
theorem source?_eq_none_of_error (hprint : ∀ w ∈ writer, w.Printable) {e : GenerationFailure}
    (h : (ofItem config writer s item).result.1 = .error e) : source? config item = none := by
  by_contra hsome
  obtain ⟨⟨d, source⟩, hsource⟩ := Option.ne_none_iff_exists'.mp hsome
  have hexpected : Expected config item :=
    unwritten_finishes_iff.mp ⟨_, result_unwritten_of_source? hsource⟩
  obtain ⟨r, hr⟩ := ofItem_finishes_iff.mpr ((finishes_iff_of_printable hprint).mpr hexpected)
  exact nomatch h.symm.trans hr

/-- With a steady writer, it does not matter what was written before. -/
theorem Finishes.of_steady (h : Finishes config writer s item) (hsteady : ∀ w ∈ writer, w.Steady)
    (s' : σ) : Finishes config writer s' item := by
  refine ⟨h.toExpected, fun w hw call hcall e he => ?_⟩
  rw [hsteady w hw s' s] at he
  exact h.refusal w hw call hcall e he

/-! ### What a result depends on -/

/-- With a steady writer, what was written before makes no difference. -/
theorem ofItem_steady (config : Config) (hsteady : ∀ w ∈ writer, w.Steady) (s s' : σ)
    (item : Item) :
    (ofItem config writer s item).result.1 = (ofItem config writer s' item).result.1
      ∧ (ofItem config writer s item).events = (ofItem config writer s' item).events := by
  by_cases hunwritten : writer = none ∨ source? config item = none
  · simp [ofItem_of_unwritten hunwritten]
  · rw [not_or] at hunwritten
    obtain ⟨w, rfl⟩ := Option.ne_none_iff_exists'.mp hunwritten.1
    obtain ⟨⟨d, source⟩, hsource⟩ := Option.ne_none_iff_exists'.mp hunwritten.2
    have hsame := hsteady w rfl s s' d.package (resultOf config d (some source)).moduleName source
    simp [ofItem_of_source?_eq_some hsource, writeSource, hsame]

/-- Keeping a record of the calls changes nothing else, and an item adds the call that it calls
for. -/
theorem ofItem_recorded (config : Config) (w : Write σ) (s : σ) (calls : List Write.Call)
    (item : Item) :
    ofItem config (some w.recorded) (s, calls) item = do
      let (made, s) ← ofItem config (some w) s item
      return (made, s, calls ++ (call? config item).toList) := by
  cases hsource : source? config item with
  | none =>
    ext1
    · simp [ofItem_of_unwritten (Or.inr hsource), call?, hsource]
    · simp [ofItem_of_unwritten (Or.inr hsource)]
  | some target =>
    obtain ⟨d, source⟩ := target
    ext1
    · simp [ofItem_of_source?_eq_some hsource, writeSource, Write.recorded, call?, hsource, callOf,
        resultOf]
    · simp [ofItem_of_source?_eq_some hsource, writeSource, Write.recorded]

/-! ### Kinds of items -/

/-- A value is no class, and a value without a text is not even reported. -/
theorem declare_value (config : Config) (v : Value) :
    declare config (.value v)
      = .error (if v.isWritable then .notClass v.shown else .unwritable {}) := by
  have hdeclare : declare config (.value v) = (do
      let shown ← (if v.isWritable && true then .ok v.shown else .error {} :
        Except Unwritable String).mapError ReadError.unwritable
      throw (.notClass shown)) := rfl
  rw [hdeclare, Bool.and_true]
  cases v.isWritable <;> rfl

/-- A value has a result, which is an error, if it has a text. -/
theorem finishes_value_iff {v : Value} :
    Finishes config writer s (.value v) ↔ v.isWritable = true := by
  have hdeclare := declare_value config v
  constructor
  · intro h
    by_contra hv
    rw [if_neg hv] at hdeclare
    exact absurd (h.read _ hdeclare) (by decide)
  · intro hv
    rw [if_pos hv] at hdeclare
    refine ⟨⟨fun e he => ?_, fun d hd => nomatch hdeclare.symm.trans hd⟩, ?_⟩
    · obtain rfl := Except.error.inj (hdeclare.symm.trans he)
      rfl
    · simp [call?, source?, hdeclare, Except.toOption]

/-- A declaration stands for itself, so that a result is expected if the versions in its source have
a text. -/
theorem expected_declaration_iff : Expected config (.declaration d) ↔ d.Renders config :=
  ⟨fun h => h.renders d rfl,
    fun h => ⟨fun _ he => (nomatch he), fun _ hd => Except.ok.inj hd ▸ h⟩⟩

end Generation

end RecordForge

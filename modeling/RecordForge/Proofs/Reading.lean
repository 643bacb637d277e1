import RecordForge.Proofs.Batches

/-!
# Batches in which reading fails

A hint may be the text of any expression, so reading a class may end in an error of any kind. Here
the loop over the items is taken over an arbitrary reading. A batch is complete, with a result for
every item and an error for every one that cannot be read, exactly if all failures of reading are of
an expected kind and nothing without a text is to be written; the first failure of another kind ends
it, and the items that follow are not generated (`complete_iff`).
-/

namespace RecordForge

namespace Generation

variable {σ : Type} {read : Item → Except ReadError TypeDeclaration} {config : Config}
  {writer : Option (Write σ)} {s : σ} {item : Item} {items : List Item} {d : TypeDeclaration}
  {r : GenerationResult}

/-- What reading gives stays with the item: it is a declaration, or a failure of an expected
kind. -/
def Contained (outcome : Except ReadError TypeDeclaration) : Prop :=
  ∀ e, outcome = .error e → e.escapes = false

/-! ## One item -/

/-- The format of the error about an item that cannot be read. -/
abbrev unreadableFormat : String := "cannot read %s: %s"

/-- The error about an item that cannot be read. -/
def readFailure (item : Item) (e : ReadError) : Diagnostic :=
  ⟨.error, unreadableFormat, [itemValue item, .text e.message]⟩

/-- The error that is due for an item. -/
def readFailure? (item : Item) : Except ReadError TypeDeclaration → Option Diagnostic
  | .ok _ => none
  | .error e => some (readFailure item e)

/-- The errors about items that cannot be read. -/
def readFailures {α : Type} (x : Reported α) : List Diagnostic :=
  x.errors.filter (·.format = unreadableFormat)

@[simp] theorem readFailures_pure {α : Type} (a : α) :
    readFailures (pure a : Reported α) = [] := rfl

@[simp] theorem readFailures_bind {α β : Type} (x : Reported α) (f : α → Reported β) :
    readFailures (x >>= f) = readFailures x ++ readFailures (f x.result) := by
  simp [readFailures]

/-- The result that is due for an item: that of an item that cannot be read has the error and
nothing else, and a declared type has its result in one state of the writer, with the source of its
model. -/
def Answers (config : Config) (writer : Option (Write σ)) (item : Item) (r : GenerationResult) :
    Except ReadError TypeDeclaration → Prop
  | .ok d => (∃ model, (ClassModel.build config d).result = .ok model
        ∧ r.source = model.map (·.text))
      ∧ ∃ s, (ofDeclaration config writer s d).result.1 = .ok r
  | .error e => r = { typeName := itemName item, error := some e.message }

/-- A failure to read an item stops the batch if it is not of an expected kind. -/
theorem ofRead_error {e : ReadError} :
    (ofRead config writer s item (.error e)).result
      = (if e.escapes then .error (.read e)
        else .ok { typeName := itemName item, error := some e.message }, s) := by
  rw [ofRead]
  split
  next => simp
  next => simp [unreadable]

/-- Every result is the one that is due, and reading has not failed in another way. -/
theorem answers_of_ofRead {outcome : Except ReadError TypeDeclaration}
    (h : (ofRead config writer s item outcome).result.1 = .ok r) :
    Contained outcome ∧ Answers config writer item r outcome := by
  cases outcome with
  | error e =>
    rw [ofRead_error] at h
    cases he : e.escapes with
    | true => simp [he] at h
    | false =>
      have hr : r = { typeName := itemName item, error := some e.message } := by
        simpa [he, eq_comm] using h
      exact ⟨fun e' he' => Except.error.inj he' ▸ he, hr⟩
  | ok d =>
    have hitem : (ofItem config writer s (.declaration d)).result.1 = .ok r := h
    have hrenders : d.Renders config :=
      expected_declaration_iff.mp (ofItem_finishes_iff.mp ⟨r, hitem⟩).toExpected
    obtain ⟨-, model, hbuild, -⟩ | ⟨hnot, -⟩ := sourceOf_cases config d
    · refine ⟨fun e he => (nomatch he), ⟨model, hbuild, ?_⟩, s, mapError_eq_ok_iff.mp h⟩
      rw [(fair_ofItem hitem).source, model?_of_read rfl hbuild]
    · exact absurd hrenders hnot

/-- A failure of an unexpected kind stops the batch by itself. -/
theorem read_of_ofRead {outcome : Except ReadError TypeDeclaration} {e : ReadError}
    (h : (ofRead config writer s item outcome).result.1 = .error (.read e)) :
    outcome = .error e ∧ e.escapes = true := by
  cases outcome with
  | error e' =>
    rw [ofRead_error] at h
    cases he : e'.escapes with
    | true =>
      simp only [he, if_true, Except.error.injEq, GenerationFailure.read.injEq] at h
      exact ⟨congrArg _ h, h ▸ he⟩
    | false => simp [he] at h
  | ok d =>
    have hmade : ((ofDeclaration config writer s d).result.1).mapError GenerationFailure.unwritable
        = .error (.read e) := h
    cases hresult : (ofDeclaration config writer s d).result.1 with
    | error e' => simp [hresult, Except.mapError] at hmade
    | ok r => simp [hresult, Except.mapError] at hmade

/-- A writer's answer is no error about reading. -/
theorem readFailures_reportWritten (d : TypeDeclaration) (r : GenerationResult)
    (written : Except WriteError (Option Path)) :
    readFailures (reportWritten d r written) = [] := by
  cases written <;> rfl

/-- A declared type has no error about reading. -/
theorem readFailures_ofDeclaration (config : Config) (writer : Option (Write σ)) (s : σ)
    (d : TypeDeclaration) : readFailures (ofDeclaration config writer s d) = [] := by
  have hsource : readFailures (sourceOf config d) = [] := by
    rw [readFailures, errors_sourceOf, List.filter_nil]
  rw [ofDeclaration, readFailures_bind, hsource, List.nil_append]
  cases (sourceOf config d).result with
  | error e => rfl
  | ok source =>
    cases writer with
    | none => rfl
    | some w => cases source with
      | none => rfl
      | some source => simp [writeSource, readFailures_reportWritten]

/-- Every item gets the error that is due. -/
theorem readFailures_ofRead {outcome : Except ReadError TypeDeclaration} (h : Contained outcome)
    (config : Config) (writer : Option (Write σ)) (s : σ) (item : Item) :
    readFailures (ofRead config writer s item outcome) = (readFailure? item outcome).toList := by
  cases outcome with
  | error e =>
    rw [ofRead, h e rfl]
    rfl
  | ok d =>
    rw [ofRead, readFailures_bind, readFailures_ofDeclaration]
    rfl

/-! ## Complete batches -/

/-- A batch is complete: nothing stopped it, every item has the result that is due, in order, and
there is one error for each item that cannot be read and no other about reading. -/
structure Complete (read : Item → Except ReadError TypeDeclaration) (config : Config)
    (writer : Option (Write σ)) (items : List Item) (done : Reported (Batch σ)) : Prop where
  finished : done.result.stoppedBy = none
  results : List.Forall₂ (fun item r => Answers config writer item r (read item)) items
    done.result.results
  errors : readFailures done = items.filterMap fun item => readFailure? item (read item)

/-- A batch that nothing stopped is complete, and had failures of an expected kind only. -/
theorem complete_of_finished :
    ∀ s : σ, (runReading read config writer s items).result.stoppedBy = none →
      Complete read config writer items (runReading read config writer s items)
        ∧ ∀ item ∈ items, Contained (read item) := by
  -- Over every state, since each item may leave another one to the rest.
  induction items with
  | nil => exact fun _ _ => ⟨⟨rfl, .nil, rfl⟩, List.forall_mem_nil _⟩
  | cons item rest ih =>
    intro s h
    obtain ⟨⟨r, hr⟩, hrest⟩ := finished_cons_iff.mp h
    obtain ⟨hcontained, hitem⟩ := answers_of_ofRead hr
    obtain ⟨⟨hfinished, hresults, herrors⟩, hothers⟩ := ih _ hrest
    rw [runReading_cons_of_ok hr, List.forall_mem_cons]
    refine ⟨⟨hfinished, .cons hitem hresults, ?_⟩, hcontained, hothers⟩
    simp only [readFailures_bind, readFailures_pure, List.append_nil, herrors,
      readFailures_ofRead hcontained]
    rw [List.filterMap_cons]
    cases readFailure? item (read item) <;> rfl

/-- A failure of reading that stopped a batch is that of one of its items. -/
theorem exists_unread_of_stopped {e : ReadError} :
    ∀ s : σ, (runReading read config writer s items).result.stoppedBy = some (.read e) →
      ∃ item ∈ items, read item = .error e ∧ e.escapes = true := by
  induction items with
  | nil => exact fun s h => (nomatch h)
  | cons item rest ih =>
    intro s h
    cases hmade : (ofRead config writer s item (read item)).result.1 with
    | error failure =>
      rw [runReading_cons_of_error hmade] at h
      obtain rfl : failure = .read e := Option.some.inj h
      exact ⟨item, List.mem_cons_self .., read_of_ofRead hmade⟩
    | ok r =>
      rw [runReading_cons_of_ok hmade] at h
      obtain ⟨other, hin, hother⟩ := ih _ h
      exact ⟨other, List.mem_cons_of_mem _ hin, hother⟩

/-- With reasons that have a text, a batch is not stopped exactly if reading fails in expected ways
only and the versions in the sources have a text. -/
theorem finished_iff_of_printable (hprint : ∀ w ∈ writer, w.Printable) :
    ∀ s : σ, (runReading read config writer s items).result.stoppedBy = none
      ↔ ∀ item ∈ items, Contained (read item) ∧ ∀ d, read item = .ok d → d.Renders config := by
  have hitem : ∀ (s : σ) (item : Item),
      (∃ r, (ofRead config writer s item (read item)).result.1 = .ok r)
        ↔ Contained (read item) ∧ ∀ d, read item = .ok d → d.Renders config := by
    intro s item
    cases read item with
    | error e => cases he : e.escapes <;> simp [ofRead_error, Contained, he]
    | ok d =>
      have hdeclared : (∃ r, (ofItem config writer s (.declaration d)).result.1 = .ok r)
          ↔ Finishes config writer s (.declaration d) := ofItem_finishes_iff
      rw [finishes_iff_of_printable hprint, expected_declaration_iff] at hdeclared
      exact hdeclared.trans (by simp [Contained])
  induction items with
  | nil => exact fun s => iff_of_true rfl (List.forall_mem_nil _)
  | cons item rest ih =>
    intro s
    rw [List.forall_mem_cons, finished_cons_iff]
    exact and_congr (hitem s item) (ih _)

/-- **A batch is complete exactly if reading fails in expected ways only.** Whatever reading the
items ends in, the batch has a result for each item, with an error reported for each one that
cannot be read, exactly if no failure is of another kind, and nothing is to be written that has no
text: with a writer that gives reasons with a text, these are the versions in the sources. A failure
of another kind stops the batch, if it is not stopped before: it has the results, the reports and
the outputs of the items before, and no later item is generated. A run is the batch in which items
are declared. -/
theorem complete_iff (read : Item → Except ReadError TypeDeclaration) (config : Config)
    (writer : Option (Write σ)) (s : σ) (items : List Item) :
    (Complete read config writer items (runReading read config writer s items)
        ↔ (∀ item ∈ items, Contained (read item))
          ∧ ∀ e, (runReading read config writer s items).result.stoppedBy ≠ some (.unwritable e))
      ∧ ((∀ w ∈ writer, w.Printable) →
          (Complete read config writer items (runReading read config writer s items)
            ↔ ∀ item ∈ items, Contained (read item) ∧ ∀ d, read item = .ok d → d.Renders config))
      ∧ (∀ before item after e, items = before ++ item :: after →
          read item = .error e → e.escapes = true →
          runReading read config writer s items = do
            let b ← runReading read config writer s before
            return { b with stoppedBy := b.stoppedBy.or (some (.read e)) })
      ∧ run config writer s items = runReading (declare config) config writer s items := by
  refine ⟨⟨fun h => ?_, fun ⟨hcontained, hwritable⟩ => ?_⟩, fun hprint => ?_, ?_, rfl⟩
  · refine ⟨(complete_of_finished s h.finished).2, fun e he => ?_⟩
    exact nomatch h.finished.symm.trans he
  · cases hstop : (runReading read config writer s items).result.stoppedBy with
    | none => exact (complete_of_finished s hstop).1
    | some failure =>
      cases failure with
      | unwritable e => exact absurd hstop (hwritable e)
      | read e =>
        obtain ⟨item, hitem, hread, he⟩ := exists_unread_of_stopped s hstop
        exact absurd (hcontained item hitem e hread) (by simp [he])
  · rw [← finished_iff_of_printable hprint s]
    exact ⟨fun h => h.finished, fun h => (complete_of_finished s h).1⟩
  · -- The items before are done, and the failure stops the batch where they have left it.
    rintro before item after e rfl hread he
    cases hstop : (runReading read config writer s before).result.stoppedBy with
    | some failure =>
      rw [runReading_append_of_stopped _ s hstop]
      generalize runReading read config writer s before = done at hstop ⊢
      obtain ⟨⟨results, outputs, stopped⟩, events⟩ := done
      obtain rfl : stopped = some failure := hstop
      ext1 <;> simp
    | none =>
      have hitem : ∀ out : σ, ofRead config writer out item (read item)
          = pure (.error (.read e), out) := by
        intro out
        rw [hread, ofRead, if_pos he]
      rw [runReading_append_of_error after hstop (by rw [hitem]; rfl)]
      ext1 <;> simp [hitem, hstop]

/-- A sheet of cells that nothing defines, and a note. -/
def cells : List Item := [.schema (hinted "Sheet" "Cell"), .declaration note]

/-- A name that nothing defines is the business of its class alone; the note is generated. -/
theorem complete_cells :
    Complete (declare {}) {} (some Writer.memory.write) cells
        (run {} (some Writer.memory.write) {} cells)
      ∧ runReading (declare {}) {} (some Writer.memory.write) {}
          (cells ++ [.schema (hinted "Sheet" "1/0"), .declaration note])
        = do
          let b ← runReading (declare {}) {} (some Writer.memory.write) {} cells
          return { b with stoppedBy := b.stoppedBy.or (some (.read (.unresolved "Sheet"
            (.other "ZeroDivisionError" "division by zero")))) } := by
  have hcells : ∀ item ∈ cells,
      Contained (declare {} item) ∧ ∀ d, declare {} item = .ok d → d.Renders {} := by
    refine List.forall_mem_cons.mpr ⟨⟨fun e he => ?_, fun d hd => (nomatch hd)⟩,
      List.forall_mem_singleton.mpr ⟨fun e he => (nomatch he), fun d hd => ?_⟩⟩
    · obtain rfl : ReadError.unresolved "Sheet" (.unknownName "Cell") = e := Except.error.inj he
      rfl
    · exact Except.ok.inj hd ▸ renders_note
  have hprint : ∀ w ∈ some Writer.memory.write, w.Printable := by
    rintro _ ⟨⟩
    exact Write.printable_memory
  obtain ⟨-, hcomplete, -, hrun⟩ :=
    complete_iff (declare {}) {} (some Writer.memory.write) {} cells
  obtain ⟨-, -, hstopped, -⟩ := complete_iff (declare {}) {} (some Writer.memory.write) {}
    (cells ++ [.schema (hinted "Sheet" "1/0"), .declaration note])
  refine ⟨?_, hstopped cells _ [.declaration note] _ rfl rfl rfl⟩
  rw [hrun]
  exact (hcomplete hprint).mpr hcells

/-- A quotient by zero in a hint is not: the note that follows, from which a class can be
generated, has no result, and neither has the class with the hint. -/
theorem run_quotient :
    let items : List Item := [.schema (hinted "Broken" "1/0"), .declaration note]
    let done := run {} (some Writer.memory.write) {} items
    ¬ Complete (declare {}) {} (some Writer.memory.write) items done
      ∧ done.result.results = [] ∧ done.diagnostics = [] ∧ done.result.outputs.memory = []
      ∧ (model? {} (.declaration note)).isSome = true :=
  ⟨fun h => absurd h.finished (Option.some_ne_none _), rfl, rfl, rfl, by decide +kernel⟩

end Generation

end RecordForge

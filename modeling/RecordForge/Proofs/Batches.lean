import Mathlib.Data.List.Forall2
import RecordForge.Proofs.Items

/-!
# Batches

A batch generates its items one after the other, and nothing of one item reaches another except
through what the writer has written. So for a writer whose answers do not depend on that, a batch
gives for each item what the item gives alone, as long as every item has a result; the first item
without one ends the batch (`isolated_iff`).
-/

namespace RecordForge

namespace Generation

variable {σ : Type} {config : Config} {writer : Option (Write σ)} {s : σ} {item : Item}
  {r : GenerationResult}

/-! ## The loop -/

section

variable {read : Item → Except ReadError TypeDeclaration} {items : List Item}
  {e : GenerationFailure}

/-- One item with a result, then the rest. -/
theorem runReading_cons_of_ok (h : (ofRead config writer s item (read item)).result.1 = .ok r) :
    runReading read config writer s (item :: items) = do
      let made ← ofRead config writer s item (read item)
      let b ← runReading read config writer made.2 items
      return { b with results := r :: b.results } := by
  rw [runReading]
  generalize ofRead config writer s item (read item) = made at h ⊢
  obtain ⟨⟨result, out⟩, events⟩ := made
  obtain rfl : result = .ok r := h
  rfl

/-- An item without a result ends the batch. -/
theorem runReading_cons_of_error
    (h : (ofRead config writer s item (read item)).result.1 = .error e) :
    runReading read config writer s (item :: items) = do
      let made ← ofRead config writer s item (read item)
      return { outputs := made.2, stoppedBy := some e } := by
  rw [runReading]
  generalize ofRead config writer s item (read item) = made at h ⊢
  obtain ⟨⟨result, out⟩, events⟩ := made
  obtain rfl : result = .error e := h
  rfl

/-- A batch is not stopped if its first item has a result and the rest is not stopped. -/
theorem finished_cons_iff :
    (runReading read config writer s (item :: items)).result.stoppedBy = none
      ↔ (∃ r, (ofRead config writer s item (read item)).result.1 = .ok r)
        ∧ (runReading read config writer (ofRead config writer s item (read item)).result.2
          items).result.stoppedBy = none := by
  cases hmade : (ofRead config writer s item (read item)).result.1 with
  | error e =>
    rw [runReading_cons_of_error hmade]
    simp
  | ok r =>
    rw [runReading_cons_of_ok hmade]
    simp

/-- A batch whose first items do not stop it is theirs, and that of the others on what they have
written. -/
theorem runReading_append {before : List Item} (after : List Item) :
    ∀ s : σ, (runReading read config writer s before).result.stoppedBy = none →
      runReading read config writer s (before ++ after) = do
        let first ← runReading read config writer s before
        let second ← runReading read config writer first.outputs after
        return { second with results := first.results ++ second.results } := by
  induction before with
  | nil =>
    intro s _
    ext1 <;> simp [runReading]
  | cons item rest ih =>
    intro s h
    obtain ⟨⟨r, hmade⟩, hrest⟩ := finished_cons_iff.mp h
    rw [List.cons_append, runReading_cons_of_ok hmade, runReading_cons_of_ok hmade]
    ext1 <;> simp [ih _ hrest]

/-- An item with a result has it between the results of the items before it and after it. -/
theorem runReading_append_of_ok {before : List Item} (after : List Item)
    (hbefore : (runReading read config writer s before).result.stoppedBy = none)
    (h : (ofRead config writer (runReading read config writer s before).result.outputs item
      (read item)).result.1 = .ok r) :
    runReading read config writer s (before ++ item :: after) = do
      let first ← runReading read config writer s before
      let made ← ofRead config writer first.outputs item (read item)
      let b ← runReading read config writer made.2 after
      return { b with results := first.results ++ r :: b.results } := by
  rw [runReading_append (item :: after) s hbefore]
  ext1 <;> simp [runReading_cons_of_ok h]

/-- An item without a result ends a batch that the items before it do not stop. -/
theorem runReading_append_of_error {before : List Item} (after : List Item)
    (hbefore : (runReading read config writer s before).result.stoppedBy = none)
    (h : (ofRead config writer (runReading read config writer s before).result.outputs item
      (read item)).result.1 = .error e) :
    runReading read config writer s (before ++ item :: after) = do
      let b ← runReading read config writer s before
      let made ← ofRead config writer b.outputs item (read item)
      return { b with outputs := made.2, stoppedBy := some e } := by
  rw [runReading_append (item :: after) s hbefore]
  ext1 <;> simp [runReading_cons_of_error h]

/-- A batch that its first items stop is theirs. -/
theorem runReading_append_of_stopped {before : List Item} (after : List Item) :
    ∀ s : σ, (runReading read config writer s before).result.stoppedBy = some e →
      runReading read config writer s (before ++ after)
        = runReading read config writer s before := by
  induction before with
  | nil => exact fun s h => (nomatch h)
  | cons item rest ih =>
    intro s h
    cases hmade : (ofRead config writer s item (read item)).result.1 with
    | error e =>
      rw [List.cons_append, runReading_cons_of_error hmade, runReading_cons_of_error hmade]
    | ok r =>
      rw [runReading_cons_of_ok hmade] at h
      rw [List.cons_append, runReading_cons_of_ok hmade, runReading_cons_of_ok hmade]
      ext1 <;> simp [ih _ h]

end

/-! ## A batch -/

variable {items : List Item}

theorem run_nil : run config writer s [] = pure { outputs := s } := rfl

/-- One item, and then the rest if it has a result. -/
theorem run_cons :
    run config writer s (item :: items) = do
      match ← ofItem config writer s item with
      | (.error e, s) => return { outputs := s, stoppedBy := some e }
      | (.ok r, s) =>
        let b ← run config writer s items
        return { b with results := r :: b.results } := rfl

theorem run_cons_of_ok (h : (ofItem config writer s item).result.1 = .ok r) :
    run config writer s (item :: items) = do
      let made ← ofItem config writer s item
      let b ← run config writer made.2 items
      return { b with results := r :: b.results } :=
  runReading_cons_of_ok h

theorem run_cons_of_error {e : GenerationFailure}
    (h : (ofItem config writer s item).result.1 = .error e) :
    run config writer s (item :: items) = do
      let made ← ofItem config writer s item
      return { outputs := made.2, stoppedBy := some e } :=
  runReading_cons_of_error h

/-- With reasons that have a text, nothing stops a run exactly if a result is expected of all of its
items. -/
theorem stoppedBy_run_eq_none_iff (hprint : ∀ w ∈ writer, w.Printable) :
    ∀ s : σ, (run config writer s items).result.stoppedBy = none
      ↔ ∀ item ∈ items, Expected config item := by
  induction items with
  | nil => exact fun s => iff_of_true rfl (List.forall_mem_nil _)
  | cons item items ih =>
    intro s
    rw [List.forall_mem_cons, run, finished_cons_iff]
    exact and_congr (ofItem_finishes_iff.trans (finishes_iff_of_printable hprint)) (ih _)

/-- With a steady writer, all items of a run that nothing stops have a result, in any state of the
writer. -/
theorem finishes_of_finished (hsteady : ∀ w ∈ writer, w.Steady) (fresh : σ) :
    ∀ s : σ, (run config writer s items).result.stoppedBy = none →
      ∀ item ∈ items, Finishes config writer fresh item := by
  induction items with
  | nil => exact fun s _ => List.forall_mem_nil _
  | cons item items ih =>
    intro s h
    obtain ⟨hitem, hrest⟩ := finished_cons_iff.mp h
    rw [List.forall_mem_cons]
    exact ⟨(ofItem_finishes_iff.mp hitem).of_steady hsteady fresh, ih _ hrest⟩

/-- With reasons that have a text, an item without a result reports no error. -/
theorem errors_ofItem_of_error (hprint : ∀ w ∈ writer, w.Printable) {e : GenerationFailure}
    (h : (ofItem config writer s item).result.1 = .error e) :
    (ofItem config writer s item).errors = [] := by
  have hsource := source?_eq_none_of_error hprint h
  rw [ofItem_of_unwritten (Or.inr hsource)] at h ⊢
  simpa using errors_unwritten_of_error h

/-- With reasons that have a text, as many errors are reported as there are results with an error,
whatever is written to whom. -/
theorem length_errors_run (config : Config) (hprint : ∀ w ∈ writer, w.Printable)
    (items : List Item) :
    ∀ s : σ, (run config writer s items).errors.length
      = ((run config writer s items).result.results.filter (·.error.isSome)).length := by
  induction items with
  | nil => exact fun _ => rfl
  | cons item items ih =>
    intro s
    cases hmade : (ofItem config writer s item).result.1 with
    | error e =>
      rw [run_cons_of_error hmade]
      simpa using errors_ofItem_of_error hprint hmade
    | ok r =>
      have hitem := (fair_ofItem hmade).length_errors_cons
      rw [run_cons_of_ok hmade]
      simp only [Reported.errors_bind, Reported.result_bind, Reported.errors_pure,
        Reported.result_pure, List.append_nil, List.length_append, ih, hitem]

/-- With a steady writer, a batch gives what its items give one by one. -/
theorem run_steady (hsteady : ∀ w ∈ writer, w.Steady) (fresh : σ)
    (hitems : ∀ item ∈ items, Finishes config writer fresh item) :
    ∀ s : σ, (run config writer s items).result.stoppedBy = none
      ∧ List.Forall₂ (fun item r => (ofItem config writer fresh item).result.1 = .ok r) items
        (run config writer s items).result.results
      ∧ (run config writer s items).events
        = items.flatMap (fun item => (ofItem config writer fresh item).events) := by
  -- Over every state, since each item may leave another one to the rest.
  induction items with
  | nil => exact fun s => ⟨rfl, .nil, rfl⟩
  | cons item items ih =>
    intro s
    rw [List.forall_mem_cons] at hitems
    obtain ⟨r, hr⟩ := ofItem_finishes_iff.mpr hitems.1
    obtain ⟨hresult, hevents⟩ := ofItem_steady config hsteady s fresh item
    obtain ⟨hstopped, hresults, hrest⟩ := ih hitems.2 (ofItem config writer s item).result.2
    rw [run_cons_of_ok (hresult.trans hr)]
    refine ⟨hstopped, .cons hr hresults, ?_⟩
    simp only [Reported.events_bind, Reported.events_pure, List.append_nil, List.flatMap_cons,
      hrest, hevents]

/-- A writer that keeps a record of its calls makes no difference to a batch that is not stopped; in
the end the record holds the calls that the items call for, in order. -/
theorem run_recorded (w : Write σ) :
    ∀ (s : σ) (calls : List Write.Call),
      (run config (some w) s items).result.stoppedBy = none →
      let recorded := run config (some w.recorded) (s, calls) items
      let done := run config (some w) s items
      recorded.result.results = done.result.results ∧ recorded.events = done.events
        ∧ recorded.result.outputs
          = (done.result.outputs, calls ++ items.filterMap (call? config)) := by
  -- Over every state and every record, since both move on with each item.
  induction items with
  | nil => exact fun s calls _ => ⟨rfl, rfl, by simp [run_nil]⟩
  | cons item items ih =>
    intro s calls h
    obtain ⟨⟨r, hr⟩, hrest⟩ := finished_cons_iff.mp h
    obtain ⟨hresults, hevents, houtputs⟩ := ih (ofItem config (some w) s item).result.2
      (calls ++ (call? config item).toList) hrest
    have hrecorded := ofItem_recorded config w s calls item
    have hsame : (ofItem config (some w.recorded) (s, calls) item).result.1 = .ok r := by
      rw [hrecorded]
      exact hr
    rw [run_cons_of_ok hr, run_cons_of_ok hsame]
    simp only [hrecorded, Reported.result_bind, Reported.result_pure, Reported.events_bind,
      Reported.events_pure, List.append_nil]
    refine ⟨by rw [hresults], by rw [hevents], ?_⟩
    rw [houtputs, List.append_assoc, List.filterMap_cons]
    cases call? config item <;> rfl

/-- A batch of one item with a result gives what the item gives. -/
theorem run_singleton (h : (ofItem config writer s item).result.1 = .ok r) :
    (run config writer s [item]).result.results = [r]
      ∧ (run config writer s [item]).events = (ofItem config writer s item).events := by
  rw [run_cons_of_ok h]
  exact ⟨rfl, by simp [run_nil]⟩

/-- The calls that items call for are those with the modules and sources of their results. -/
theorem calls_of_results {results : List GenerationResult}
    (h : List.Forall₂ (fun item r => (ofItem config writer s item).result.1 = .ok r) items
      results) :
    (items.filterMap (call? config)).map (fun c => (c.module, c.source))
      = results.filterMap fun r => r.source.map fun source => (r.moduleName, source) := by
  induction h with
  | nil => rfl
  | @cons item r items results hr _ ih =>
    have hcall := (fair_ofItem hr).call
    rw [List.filterMap_cons, List.filterMap_cons, ← hcall]
    cases hitem : call? config item with
    | none => exact ih
    | some c => exact congrArg _ ih

/-- Errors are counted item by item. -/
theorem length_errors_of_results {results : List GenerationResult}
    (h : List.Forall₂ (fun item r => (ofItem config writer s item).result.1 = .ok r) items
      results) :
    (items.flatMap fun item => (ofItem config writer s item).errors).length
      = (results.filter (·.error.isSome)).length := by
  induction h with
  | nil => rfl
  | cons hr _ ih =>
    rw [List.flatMap_cons, List.length_append, ih, (fair_ofItem hr).length_errors_cons]

/-! ### Isolation -/

/-- A batch is complete, in order, and isolated. Nothing stops it. Each item gives one result, in
order, which is the one that the item gives alone, with the source of its model, whatever the writer
does, and without a path if it has an error. Each item reports what it reports alone, and there are
as many errors reported as results with an error. A writer is called once for every result with a
source, with that source, and not otherwise. -/
structure Isolated (config : Config) (writer : Option (Write σ)) (s : σ) (items : List Item)
    (done : Reported (Batch σ)) : Prop where
  finished : done.result.stoppedBy = none
  results : List.Forall₂
    (fun item r => (∀ fresh, (run config writer fresh [item]).result.results = [r])
      ∧ r.source = (model? config item).map (·.text) ∧ (r.error.isSome = true → r.path = none))
    items done.result.results
  reports : ∀ fresh, done.events = items.flatMap fun item => (run config writer fresh [item]).events
  errors : (Diagnostic.ofSeverity done.diagnostics .error).length
    = (done.result.results.filter (·.error.isSome)).length
  calls : ∀ w, writer = some w →
    let recorded := run config (some w.recorded) (s, []) items
    recorded.result.results = done.result.results ∧ recorded.events = done.events
      ∧ recorded.result.outputs = (done.result.outputs, items.filterMap (call? config))
      ∧ recorded.result.outputs.2.map (fun c => (c.module, c.source))
        = done.result.results.filterMap fun r =>
            r.source.map fun source => (r.moduleName, source)

/-- Items that have results are isolated in a batch. -/
theorem isolated_of_finishes (hsteady : ∀ w ∈ writer, w.Steady)
    (hitems : ∀ item ∈ items, Finishes config writer s item) :
    Isolated config writer s items (run config writer s items) := by
  obtain ⟨hstopped, hresults, hevents⟩ := run_steady hsteady s hitems s
  refine ⟨hstopped, ?_, ?_, ?_, ?_⟩
  · refine hresults.imp fun item r hr => ⟨fun fresh => ?_, (fair_ofItem hr).source,
      (fair_ofItem hr).path⟩
    exact (run_singleton ((ofItem_steady config hsteady fresh s item).1.trans hr)).1
  · intro fresh
    rw [hevents]
    apply List.flatMap_congr
    intro item hitem
    obtain ⟨r, hr⟩ := ofItem_finishes_iff.mpr (hitems item hitem)
    obtain ⟨hsame, hreports⟩ := ofItem_steady config hsteady fresh s item
    rw [(run_singleton (hsame.trans hr)).2, hreports]
  · have herrors : Diagnostic.ofSeverity (run config writer s items).diagnostics .error
        = items.flatMap fun item => (ofItem config writer s item).errors := by
      rw [Reported.diagnostics, hevents, List.filterMap_flatMap, Diagnostic.ofSeverity,
        List.filter_flatMap]
      rfl
    rw [herrors]
    exact length_errors_of_results hresults
  · rintro w rfl
    obtain ⟨hsame, hreports, houtputs⟩ := run_recorded w s [] hstopped
    refine ⟨hsame, hreports, houtputs, ?_⟩
    rw [houtputs]
    exact calls_of_results hresults

/-- **A batch is complete, in order and isolated exactly if all of its items have results.** The
writer is absent or steady. An item has none if reading it fails in a way that is not expected of a
class, or if something that is to be written has no text: the name of a type, an item that is no
class, a version in the source, or the reason for which the writer refuses it. The first such item
ends the batch: there are the results of the items before it, and after their reports those that the
item itself makes. -/
theorem isolated_iff (config : Config) (hsteady : ∀ w ∈ writer, w.Steady) (s : σ)
    (items : List Item) :
    (Isolated config writer s items (run config writer s items)
        ↔ ∀ item ∈ items, Finishes config writer s item)
      ∧ ∀ before item after, items = before ++ item :: after →
          (∀ earlier ∈ before, Finishes config writer s earlier) →
          ¬ Finishes config writer s item →
          let done := run config writer s items
          let earlier := run config writer s before
          done.result.stoppedBy.isSome = true
            ∧ Isolated config writer s before earlier
            ∧ done.result.results = earlier.result.results
            ∧ done.events = earlier.events ++ (run config writer s [item]).events := by
  refine ⟨⟨fun h => finishes_of_finished hsteady s s h.finished, isolated_of_finishes hsteady⟩, ?_⟩
  rintro before item after rfl hbefore hitem done earlier
  have hearlier : Isolated config writer s before earlier := isolated_of_finishes hsteady hbefore
  -- Without a result in one state of the writer the item has none in any other.
  have hfailed : ∀ s', ∃ e, (ofItem config writer s' item).result.1 = .error e := by
    intro s'
    cases hmade : (ofItem config writer s' item).result.1 with
    | error e => exact ⟨e, rfl⟩
    | ok r => exact absurd ((ofItem_finishes_iff.mp ⟨r, hmade⟩).of_steady hsteady s) hitem
  obtain ⟨e, he⟩ := hfailed earlier.result.outputs
  obtain ⟨e', he'⟩ := hfailed s
  have hdone : done = (do
      let b ← earlier
      let made ← ofItem config writer b.outputs item
      return { b with outputs := made.2, stoppedBy := some e }) :=
    runReading_append_of_error after hearlier.finished he
  have hsame := (ofItem_steady config hsteady earlier.result.outputs s item).2
  rw [hdone, run_cons_of_error he']
  exact ⟨rfl, hearlier, rfl, by simp [hsame]⟩

/-- A type with one column. -/
def note : TypeDeclaration where
  package := "app"
  name := "Note"
  fields := [⟨some "m_text", some "str", {}⟩]

theorem renders_note : note.Renders {} :=
  ⟨by decide, fun _ => by decide⟩

/-- A writer that refuses notes and keeps all else in memory. -/
def withoutNotes : Writer :=
  .refusing (fun module => if module = "note_db_object" then
    some (.refused "OSError" (.text "disk full")) else none) .memory

/-- A note, although it is refused, has its source, and something that is no class has none; the
writer is called once. -/
theorem isolated_withoutNotes :
    let items := [.declaration note, .value (.int 3)]
    let done := run {} (some withoutNotes.write) {} items
    (∀ w ∈ some withoutNotes.write, w.Steady)
      ∧ Isolated {} (some withoutNotes.write) {} items done
      ∧ done.result.results.map (·.source.isSome) = [true, false]
      ∧ done.result.results.map (·.error) = [some "disk full", some "3 is not a class"] := by
  intro items done
  have hsteady : ∀ w ∈ some withoutNotes.write, w.Steady := by
    rintro _ ⟨⟩
    exact Write.steady_refusing Write.steady_memory
  have hprint : ∀ w ∈ some withoutNotes.write, w.Printable := by
    rintro _ ⟨⟩
    refine Write.printable_refusing Write.printable_memory fun module e he => ?_
    split at he
    next => exact Option.some.inj he ▸ rfl
    next => exact nomatch he
  have hitems : ∀ item ∈ items, Finishes {} (some withoutNotes.write) {} item := by
    refine List.forall_mem_cons.mpr ⟨?_, List.forall_mem_singleton.mpr ?_⟩
    · exact (finishes_iff_of_printable hprint).mpr (expected_declaration_iff.mpr renders_note)
    · exact finishes_value_iff.mpr (by decide)
  exact ⟨hsteady, (isolated_iff {} hsteady {} items).1.mpr hitems, by decide +kernel,
    by decide +kernel⟩

/-- A class with one column, the hint of which is a text. -/
def hinted (name text : String) : SchemaClass where
  own := {
    serial := 2, name, module := "app"
    hints := [("mX", .annotated (.text text) [.column {}])] }

/-- The hint of a list of a number, in a class. -/
theorem resolvedHints_hinted {name text : String} {n : Int}
    (htext : Hint.ofText text = .ok (.generic "list" [.value (.int n)])) :
    (hinted name text).resolvedHints
      = .ok [("mX", .annotated (.generic "list" [.value (.int n)]) [.column {}])] := by
  have hresolve : (Hint.annotated (.text text) [.column {}]).resolve
      = .ok (.annotated (.generic "list" [.value (.int n)]) [.column {}]) := by
    rw [Hint.resolve, Hint.resolve, htext]
    rfl
  have hall : SchemaClass.allHints (hinted name text).layers
      = [("mX", .annotated (.text text) [.column {}])] := rfl
  rw [SchemaClass.resolvedHints, hall, List.mapM_cons, List.mapM_nil]
  simp only [hresolve]
  rfl

/-- A class with a list of a number that has no text is not read. -/
theorem declare_hinted {name text : String} {n : Int}
    (htext : Hint.ofText text = .ok (.generic "list" [.value (.int n)]))
    (hn : (Value.int n).isWritable = false) :
    declare config (.schema (hinted name text)) = .error (.unwritable {}) := by
  have hname : (Hint.annotated (.generic "list" [.value (.int n)]) [.column {}]).writeName
      = .error {} := by
    show (if (Value.int n).isWritable && true then _ else _) = _
    rw [hn]
    rfl
  have hmodel : (hinted name text).modelTable? = none := rfl
  have hrecord : (hinted name text).recordTable? = none := rfl
  simp only [declare, Item.describe, SchemaClass.describe, SchemaClass.fieldDeclarations, hmodel,
    SchemaClass.hintedFields, hrecord, resolvedHints_hinted htext]
  show (SchemaClass.declarations [("mX", _, [.column {}])] >>= _) = _
  rw [SchemaClass.declarations, List.mapM_cons, List.mapM_nil]
  simp only [SchemaClass.declare?, hname]
  rfl

/-- The hints of a class resolve, but the name of one of them, a list of a number of too many
digits, has no text. Neither the class has a result, nor has the note that follows, from which a
class can be generated. -/
theorem not_isolated_numbers :
    let numbers := hinted "Numbers" "list[10**4300]"
    let items := [.schema numbers, .declaration note]
    let done := run {} (some Writer.memory.write) {} items
    (∃ hints, numbers.resolvedHints = .ok hints)
      ∧ ¬ Isolated {} (some Writer.memory.write) {} items done
      ∧ done.result.stoppedBy = some (.read (.unwritable {}))
      ∧ done.result.results = [] ∧ done.diagnostics = [] ∧ done.result.outputs.memory = []
      ∧ (model? {} (.declaration note)).isSome = true := by
  intro numbers items done
  have htext : Hint.ofText "list[10**4300]"
      = .ok (.generic "list" [.value (.int (Numeral.firstBeyond Numeral.maxIntegerDigits))]) := by
    have hpath : Hint.path? "list[10**4300]".toList = none := by decide +kernel
    have hquotient : Hint.dividesByZero "list[10**4300]".toList = false := by decide +kernel
    have hlist : Hint.listOfPower? "list[10**4300]".toList
        = some (Numeral.firstBeyond Numeral.maxIntegerDigits) := by decide +kernel
    simp only [Hint.ofText, hpath, hquotient, hlist, Bool.false_eq_true, if_false]
  have hdigits : (Value.int (Numeral.firstBeyond Numeral.maxIntegerDigits)).isWritable = false := by
    rw [Bool.eq_false_iff, ne_eq, Value.isWritable_int_iff, Int.natAbs_natCast]
    exact Nat.lt_irrefl _
  have hdone : done = pure { outputs := {}, stoppedBy := some (.read (.unwritable {})) } := by
    show runReading _ _ _ _ (.schema numbers :: _) = _
    rw [runReading, declare_hinted htext hdigits]
    rfl
  refine ⟨⟨_, resolvedHints_hinted htext⟩, fun h => ?_, ?_⟩
  · rw [hdone] at h
    exact absurd h.finished (by simp)
  · rw [hdone]
    exact ⟨rfl, rfl, rfl, rfl, by decide +kernel⟩

end Generation

end RecordForge

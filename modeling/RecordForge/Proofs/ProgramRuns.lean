import RecordForge.CommandLine.Program
import RecordForge.Proofs.Reading

/-!
# What a run of the program says

A run generates the modules of its names one after the other, up to the first name that has none.
As long as nothing stops it, it has done what one batch over the classes of the modules so far does
(`Progress.ofBatch`): a module more is a longer batch (`generateModules_cons`), so a run comes to
the first name without a module with the batch over all modules before it
(`generateModules_of_imported`). Then the exit code, the listing and the summary tell what happened
(`Faithful`). They do so exactly if a result is expected of every class, since a failure of another
kind leaves the run without a summary and hides a missing module (`run_faithful_iff`).
-/

namespace RecordForge.CommandLine

open Generation

variable {o : Options} {files : FileTree} {modules ms : List SchemaModule} {m : SchemaModule}
  {args names before rest : List String} {e : GenerationFailure}

/-! ## What there is to do -/

/-- Names split before the first one that has no module, with the modules of the names before. -/
structure Found (modules : List SchemaModule) (names before : List String)
    (ms : List SchemaModule) (rest : List String) : Prop where
  names : names = before ++ rest
  imported : List.Forall₂ (fun name m => SchemaModule.import? modules name = .ok m) before ms
  missing : ∀ name ∈ rest.head?, ∃ e, SchemaModule.import? modules name = .error e

/-- Names can be split so. -/
theorem exists_found (modules : List SchemaModule) (names : List String) :
    ∃ before ms rest, Found modules names before ms rest := by
  induction names with
  | nil => exact ⟨[], [], [], rfl, .nil, by simp⟩
  | cons name names ih =>
    cases himport : SchemaModule.import? modules name with
    | error e => exact ⟨[], [], name :: names, rfl, .nil, by simp [himport]⟩
    | ok m =>
      obtain ⟨before, ms, rest, rfl, himported, hmissing⟩ := ih
      exact ⟨name :: before, m :: ms, rest, rfl, .cons himport himported, hmissing⟩

/-- The marked classes of modules, in order. -/
def markedItems (ms : List SchemaModule) : List Item :=
  ms.flatMap fun m => m.discover.map Item.schema

/-- The batch that the marked classes of modules make up. -/
def batchOf (o : Options) (files : FileTree) (ms : List SchemaModule) : Reported (Batch Outputs) :=
  Generation.run o.config (some (Writer.directory (Path.ofString o.output)).write) { files }
    (markedItems ms)

/-- Writing below the directory of the options ends in errors with a text. -/
theorem printable_output (o : Options) :
    ∀ w ∈ some (Writer.directory (Path.ofString o.output)).write, w.Printable := by
  rintro _ ⟨⟩
  exact Write.printable_directory _

theorem stoppedBy_batchOf_eq_none_iff (files : FileTree) :
    (batchOf o files ms).result.stoppedBy = none
      ↔ ∀ m ∈ ms, ∀ c ∈ m.discover, Expected o.config (.schema c) := by
  rw [batchOf, stoppedBy_run_eq_none_iff (printable_output o)]
  simp only [markedItems, List.forall_mem_flatMap, List.forall_mem_map]

/-! ## What a run has done -/

/-- The progress of a run that has done what a batch does. -/
def Progress.ofBatch (o : Options) (b : Reported (Batch Outputs)) : Progress where
  results := b.result.results
  shown := b.result.results.filterMap fileLine?
  logged := b.events.filterMap fun e => logLine? o e.record
  diagnostics := b.diagnostics
  outputs := b.result.outputs

/-- A module more makes a batch longer by what it gives on what the batch has written. -/
theorem batchOf_append (h : (batchOf o files ms).result.stoppedBy = none) (m : SchemaModule) :
    let first := batchOf o files ms
    let second := runModule o.config (some (Writer.directory (Path.ofString o.output)).write)
      first.result.outputs m
    batchOf o files (ms ++ [m])
      = ⟨{ second.result with results := first.result.results ++ second.result.results },
        first.events ++ second.events⟩ := by
  have hitems : markedItems (ms ++ [m]) = markedItems ms ++ m.discover.map Item.schema := by
    simp [markedItems]
  intro first second
  have happend : batchOf o files (ms ++ [m]) = do
      let b ← first
      let b' ← runModule o.config (some (Writer.directory (Path.ofString o.output)).write)
        b.outputs m
      return { b' with results := b.results ++ b'.results } := by
    rw [batchOf, hitems]
    exact runReading_append _ _ h
  rw [happend]
  ext1 <;> simp [second]

/-- What stops the classes of some modules stops them before the classes of others. -/
theorem batchOf_append_of_stopped (h : (batchOf o files ms).result.stoppedBy = some e)
    (after : List SchemaModule) : batchOf o files (ms ++ after) = batchOf o files ms := by
  rw [batchOf, markedItems, List.flatMap_append]
  exact runReading_append_of_stopped _ _ h

/-- The progress of a run that a failure has stopped within a module: what was written is what the
batch has written, but the files of the module are not listed. -/
structure Progress.Halted (p : Progress) (b : Reported (Batch Outputs)) : Prop where
  outputs : p.outputs = b.result.outputs
  shown : p.shown <+: b.result.results.filterMap fileLine?

/-- **A module more is a longer batch**, and a failure in the module stops the batch as it does the
run. -/
theorem generateModules_cons {name : String}
    (himport : SchemaModule.import? modules name = .ok m)
    (h : (batchOf o files ms).result.stoppedBy = none) (rest : List String) :
    let longer := batchOf o files (ms ++ [m])
    let made := generateModules o modules (.ofBatch o (batchOf o files ms)) (name :: rest)
    (longer.result.stoppedBy = none →
        made = generateModules o modules (.ofBatch o longer) rest)
      ∧ ∀ e, longer.result.stoppedBy = some e →
          made.2 = Ending.failed e.kind e.message ∧ made.1.Halted longer := by
  intro longer made
  have hlonger : longer = _ := batchOf_append h m
  have hmade : made = generateModules o modules _ (name :: rest) := rfl
  rw [generateModules, himport] at hmade
  dsimp only [Progress.ofBatch] at hmade hlonger
  -- The longer batch is stopped by what stops the module, for nothing stopped it before.
  refine ⟨?_, ?_⟩
  · intro hnone
    have hsecond := hnone
    rw [hlonger] at hsecond
    rw [hmade, hlonger, hsecond]
    simp [Progress.ofBatch, Progress.addEvents, Progress.addResults, Reported.diagnostics]
  · intro e hstop
    have hsecond := hstop
    rw [hlonger] at hsecond
    rw [hmade, hlonger, hsecond]
    exact ⟨rfl, rfl, by simp [Progress.addEvents]⟩

/-- **A run of modules that are there is a batch**: it goes on with the names that follow if nothing
stops the batch, and ends in the failure that stops it. -/
theorem generateModules_of_imported
    (himported : List.Forall₂ (fun name m => SchemaModule.import? modules name = .ok m) before ms)
    (rest : List String) :
    ∀ first, (batchOf o files first).result.stoppedBy = none →
      let done := batchOf o files (first ++ ms)
      let made := generateModules o modules (.ofBatch o (batchOf o files first)) (before ++ rest)
      (done.result.stoppedBy = none → made = generateModules o modules (.ofBatch o done) rest)
        ∧ ∀ e, done.result.stoppedBy = some e →
          made.2 = Ending.failed e.kind e.message ∧ made.1.Halted done := by
  -- Over every batch that the run starts from: each module makes it longer.
  induction himported with
  | nil =>
    intro first hfirst
    rw [List.append_nil, List.nil_append]
    exact ⟨fun _ => rfl, fun e he => absurd (hfirst.symm.trans he) (Option.some_ne_none e).symm⟩
  | @cons name m before ms himport _ ih =>
    intro first hfirst
    obtain ⟨hon, hhalted⟩ := generateModules_cons himport hfirst (before ++ rest)
    rw [List.append_cons first m ms, List.cons_append]
    cases hstop : (batchOf o files (first ++ [m])).result.stoppedBy with
    | none =>
      rw [hon hstop]
      exact ih _ hstop
    | some e =>
      -- Run and batch both end here, whatever the names are that follow.
      rw [batchOf_append_of_stopped hstop]
      exact ⟨fun hnone => absurd (hstop.symm.trans hnone) (Option.some_ne_none e), hhalted⟩

/-! ## What a run says -/

/-- The line that ends a run, from what it counts. -/
def summaryText (written warnings errors : Nat) : String :=
  toString written ++ " class(es) generated, " ++ toString warnings ++ " warning(s), "
    ++ toString errors ++ " error(s)"

/-- What an outcome has to tell of a batch, where `rest` is what remains of the names because the
first of them has no module. The outputs are those of the batch. If names remain, the exit code is 2
and the files are listed; otherwise it is 1 or 0, as there is a result with an error or none, and
after the files a summary counts the results with a path and those with an error. -/
structure Faithful (rest : List String) (done : Reported (Batch Outputs)) (outcome : Outcome) :
    Prop where
  outputs : outcome.outputs = done.result.outputs
  missing : rest ≠ [] → outcome.exitCode = 2
    ∧ outcome.shown = done.result.results.filterMap fileLine?
  failed : rest = [] →
    (outcome.exitCode = 1 ↔ ∃ r ∈ done.result.results, r.error.isSome = true)
  succeeded : rest = [] →
    (outcome.exitCode = 0 ↔ ∀ r ∈ done.result.results, r.error = none)
  summary : rest = [] → outcome.shown = done.result.results.filterMap fileLine?
    ++ [summaryText (done.result.results.filter (·.path.isSome)).length
      (Diagnostic.ofSeverity done.diagnostics .warning).length
      (done.result.results.filter (·.error.isSome)).length]

/-- As many errors are counted as there are results with an error. -/
theorem count_error_ofBatch (o : Options) (files : FileTree) (ms : List SchemaModule) :
    (Progress.ofBatch o (batchOf o files ms)).count .error
      = ((batchOf o files ms).result.results.filter (·.error.isSome)).length := by
  unfold batchOf
  exact length_errors_run o.config (printable_output o) (markedItems ms) _

theorem run_eq (hargs : Request.ofArguments args = .generate o) :
    let made := generateModules o modules (.ofBatch o (batchOf o files [])) o.modules
    run modules files args = outcomeOf made.1 made.2 := by
  rw [run, hargs]
  rfl

/-- A run that generates all modules before the first missing one says so. -/
theorem run_faithful (hargs : Request.ofArguments args = .generate o)
    (himport : ∀ name ∈ o.modules, ∀ e, SchemaModule.import? modules name = .error e →
      e.isMissing = true)
    (hfound : Found modules o.modules before ms rest)
    (hnone : (batchOf o files ms).result.stoppedBy = none) :
    Faithful rest (batchOf o files ms) (run modules files args) := by
  have hmade := (generateModules_of_imported hfound.imported rest [] rfl).1 hnone
  rw [run_eq hargs, hfound.names, hmade, List.nil_append]
  cases rest with
  | nil =>
    have hcount := count_error_ofBatch o files ms
    rw [generateModules]
    refine ⟨rfl, fun h => absurd rfl h, fun _ => ?_, fun _ => ?_, fun _ => ?_⟩
    · simp [outcomeOf, hcount, List.filter_eq_nil_iff, Option.isSome_iff_ne_none]
    · simp [outcomeOf, hcount, List.filter_eq_nil_iff]
    · rw [← hcount]
      rfl
  | cons name rest =>
    obtain ⟨e, he⟩ := hfound.missing name rfl
    have hmissing := himport name (by simp [hfound.names]) e he
    rw [generateModules, he]
    simp only [hmissing, if_true]
    exact ⟨rfl, fun _ => ⟨rfl, rfl⟩, nofun, nofun, nofun⟩

/-- A run that a failure stops ends in that failure, without summary. -/
theorem run_halted (hargs : Request.ofArguments args = .generate o)
    (hfound : Found modules o.modules before ms rest)
    (hstop : (batchOf o files ms).result.stoppedBy = some e) :
    let done := batchOf o files ms
    let outcome := run modules files args
    outcome.exitCode = 1 ∧ outcome.failure.isSome = true
      ∧ outcome.outputs = done.result.outputs
      ∧ outcome.shown <+: done.result.results.filterMap fileLine? := by
  intro done outcome
  obtain ⟨hending, houtputs, hshown⟩ :=
    (generateModules_of_imported hfound.imported rest [] rfl).2 e hstop
  have houtcome : outcome = outcomeOf _ _ := run_eq hargs
  rw [← hfound.names] at hending
  rw [hending] at houtcome
  rw [← hfound.names] at houtputs hshown
  rw [houtcome]
  exact ⟨rfl, rfl, houtputs, hshown⟩

/-- **What a run says is what happened, unless a class fails in an unexpected way.** Whatever the
arguments ask to be generated, and whatever files there are, where every module is there or missing:
the modules before the first missing one are generated, and the exit code, the listing and the
summary tell what came of them exactly if every failure to read one of their classes is of an
expected kind, and the versions in the sources have a text. Otherwise the first failure of another
kind ends the run with exit code 1, without summary, whether a module is missing or not. -/
theorem run_faithful_iff (hargs : Request.ofArguments args = .generate o)
    (himport : ∀ name ∈ o.modules, ∀ e, SchemaModule.import? modules name = .error e →
      e.isMissing = true) (files : FileTree) :
    (∃ before ms rest, Found modules o.modules before ms rest)
      ∧ ∀ before ms rest, Found modules o.modules before ms rest →
          let done := batchOf o files ms
          let outcome := run modules files args
          (Faithful rest done outcome ↔ ∀ m ∈ ms, ∀ c ∈ m.discover, Expected o.config (.schema c))
            ∧ ∀ e, done.result.stoppedBy = some e →
                outcome.exitCode = 1 ∧ outcome.failure.isSome = true
                  ∧ outcome.outputs = done.result.outputs
                  ∧ outcome.shown <+: done.result.results.filterMap fileLine? := by
  refine ⟨exists_found modules o.modules, ?_⟩
  intro before ms rest hfound done outcome
  refine ⟨?_, fun e hstop => run_halted hargs hfound hstop⟩
  rw [← stoppedBy_batchOf_eq_none_iff files]
  refine ⟨fun hfaithful => ?_, run_faithful hargs himport hfound⟩
  by_contra hstopped
  obtain ⟨e, hstop⟩ := Option.ne_none_iff_exists'.mp hstopped
  obtain ⟨hexit, -, -, hshown⟩ := run_halted hargs hfound hstop
  by_cases hrest : rest = []
  · -- The summary is missing: the listing has a line more than there are files.
    have hlength := hshown.length_le
    rw [hfaithful.summary hrest, List.length_append, List.length_singleton] at hlength
    exact absurd hlength (Nat.not_succ_le_self _)
  · exact absurd (hexit.symm.trans (hfaithful.missing hrest).1) (by decide)

/-- A module with one marked class, whose field has the text of an expression for a hint. -/
def notebook (hint : String) : SchemaModule :=
  ⟨"app", [("Note", .schema { own := { (hinted "Note" hint).own with mark := .version (.int 1) } })]⟩

/-- A module that is there is generated before another one turns out to be missing. -/
theorem run_notebook :
    let outcome := run [notebook "str"] {} ["generate", "app", "nowhere"]
    outcome.exitCode = 2
      ∧ outcome.shown = ["NoteDBObject -> generated/app/note_db_object.py"] := by
  intro outcome
  let o : Options := { modules := ["app", "nowhere"] }
  have hargs : Request.ofArguments ["generate", "app", "nowhere"] = .generate o := by rfl
  have happ : SchemaModule.import? [notebook "str"] "app" = .ok (notebook "str") := by rfl
  have hnowhere : SchemaModule.import? [notebook "str"] "nowhere"
      = .error (.missing "nowhere") := by rfl
  have himport : ∀ name ∈ o.modules, ∀ e,
      SchemaModule.import? [notebook "str"] name = .error e → e.isMissing = true := by
    intro name hname e he
    rcases List.mem_pair.mp hname with rfl | rfl
    · exact nomatch happ.symm.trans he
    · obtain rfl := Except.error.inj (hnowhere.symm.trans he)
      rfl
  have hfound : Found [notebook "str"] o.modules ["app"] [notebook "str"] ["nowhere"] :=
    ⟨rfl, .cons happ .nil, by simp [hnowhere]⟩
  have hexpected : ∀ m ∈ [notebook "str"], ∀ c ∈ m.discover, Expected o.config (.schema c) := by
    rw [List.forall_mem_singleton]
    refine List.forall_mem_singleton.mpr ⟨fun e he => (nomatch he), fun d hd => ?_⟩
    obtain rfl := Except.ok.inj hd
    exact ⟨by decide +kernel, fun _ => by decide +kernel⟩
  obtain ⟨hiff, -⟩ := (run_faithful_iff hargs himport {}).2 _ _ _ hfound
  obtain ⟨hexit, hshown⟩ := (hiff.mpr hexpected).missing (List.cons_ne_nil _ _)
  exact ⟨hexit, hshown.trans (by decide +kernel)⟩

/-- A quotient by zero in a hint hides the missing module, and nothing is said of the one before. -/
theorem not_faithful_quotient :
    let modules := [notebook "1/0"]
    let o : Options := { modules := ["app", "nowhere"] }
    let outcome := run modules {} ["generate", "app", "nowhere"]
    Request.ofArguments ["generate", "app", "nowhere"] = .generate o
      ∧ Found modules o.modules ["app"] modules ["nowhere"]
      ∧ ¬ Faithful ["nowhere"] (batchOf o {} modules) outcome
      ∧ outcome.exitCode = 1 ∧ outcome.shown = [] := by
  intro modules o outcome
  have hexit : outcome.exitCode = 1 := by rfl
  refine ⟨rfl, ⟨rfl, .cons rfl .nil, ?_⟩, ?_, hexit, rfl⟩
  · simp only [List.head?_cons, Option.mem_some_iff]
    rintro _ rfl
    exact ⟨_, rfl⟩
  · intro hfaithful
    exact absurd (hexit.symm.trans (hfaithful.missing (List.cons_ne_nil _ _)).1) (by decide)

end RecordForge.CommandLine

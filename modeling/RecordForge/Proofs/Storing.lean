import RecordForge.Proofs.Batches
import RecordForge.Proofs.Entries
import RecordForge.Proofs.ModuleNames

/-!
# Sources in memory

What a writer has written after a batch is what the calls of the batch make it write, one after the
other (`outputs_run`). Memory keeps the last source under each name of a module, so every generated
type has its source there exactly if their modules have different names (`storedEach_iff`). The
names of types decide about that: conventional ones give different modules, and others may not.
-/

namespace RecordForge

variable {σ : Type}

/-! ## What calls write -/

namespace Write

/-- What a writer has written after some calls. -/
def replay (w : Write σ) (s : σ) (calls : List Call) : σ :=
  calls.foldl (fun s c => (w s c.package c.module c.source).1) s

theorem replay_append (w : Write σ) (s : σ) (calls more : List Call) :
    w.replay s (calls ++ more) = w.replay (w.replay s calls) more :=
  List.foldl_append

/-- The name under which memory keeps the source of a call. -/
def Call.key (c : Call) : String :=
  Writer.qualifiedModule c.package c.module

/-- Memory takes the sources in under their names, one after the other. -/
theorem memory_replay (calls : List Call) :
    ∀ s : Outputs, (Writer.memory.write.replay s calls).memory
      = putEntries s.memory (calls.map fun c => (c.key, c.source)) := by
  induction calls with
  | nil => exact fun _ => rfl
  | cons c calls ih => exact fun s => ih _

end Write

namespace Generation

variable {config : Config} {w : Write σ} {s : σ} {item : Item} {items : List Item}

/-- An item leaves what its call writes. -/
theorem outputs_ofItem (config : Config) (w : Write σ) (s : σ) (item : Item) :
    (ofItem config (some w) s item).result.2 = w.replay s (call? config item).toList := by
  cases hsource : source? config item with
  | none => simp [ofItem_of_unwritten (Or.inr hsource), call?, hsource, Write.replay]
  | some target =>
    obtain ⟨d, source⟩ := target
    simp [ofItem_of_source?_eq_some hsource, writeSource, call?, hsource, Write.replay, callOf,
      resultOf]

/-- **A batch leaves what the calls of its items write**, one after the other: of all of them, or of
those with a result if one of them stops it. -/
theorem outputs_run (config : Config) (hprint : w.Printable) (items : List Item) :
    ∀ s : σ, (run config (some w) s items).result.outputs = w.replay s
      ((items.take (run config (some w) s items).result.results.length).filterMap
        (call? config)) := by
  have hwriter : ∀ w' ∈ some w, w'.Printable := by
    rintro _ ⟨⟩
    exact hprint
  induction items with
  | nil => exact fun _ => rfl
  | cons item items ih =>
    intro s
    have hitem := outputs_ofItem config w s item
    cases hmade : (ofItem config (some w) s item).result.1 with
    | error e =>
      have hnone : call? config item = none := by
        rw [call?, source?_eq_none_of_error hwriter hmade, Option.map_none]
      rw [run_cons_of_error hmade]
      simp [hitem, hnone, Write.replay]
    | ok r =>
      rw [run_cons_of_ok hmade]
      simp only [Reported.result_bind, Reported.result_pure, ih, hitem, List.length_cons,
        List.take_succ_cons]
      rw [← Write.replay_append, List.filterMap_cons]
      cases call? config item <;> rfl

/-! ## Declared types in memory -/

variable {d : TypeDeclaration} {ds : List TypeDeclaration}

/-- The calls that declared types call for. -/
def declaredCalls (config : Config) (ds : List TypeDeclaration) : List Write.Call :=
  (ds.map Item.declaration).filterMap (call? config)

/-- Each declared type has its source in memory: there are as many sources as results with one, and
the source of such a result is the one that stands under its package and its module. -/
structure StoredEach (ds : List TypeDeclaration) (done : Batch Outputs) : Prop where
  count : done.outputs.memory.length = (done.results.filter (·.source.isSome)).length
  own : ∀ (i : Nat) d r source, ds[i]? = some d → done.results[i]? = some r →
    r.source = some source →
    contentAt? done.outputs.memory (Writer.qualifiedModule d.package r.moduleName) = some source

/-- The result that a declared type has if nothing goes wrong in writing it. -/
def declaredResult (config : Config) (d : TypeDeclaration) : GenerationResult :=
  resultOf config d (sourceOf config d).result.toOption.join

theorem call?_declaration (config : Config) (d : TypeDeclaration) :
    call? config (.declaration d) = (declaredResult config d).source.map (callOf config d) := by
  have hsource : source? config (.declaration d)
      = (sourceOf config d).result.toOption.join.map fun source => (d, source) := rfl
  rw [call?, hsource, declaredResult, resultOf, Option.map_map]
  rfl

/-- Memory refuses nothing. -/
theorem result_ofItem_declaration {s : Outputs} {r : GenerationResult}
    (h : (ofItem config (some Writer.memory.write) s (.declaration d)).result.1 = .ok r) :
    r = declaredResult config d := by
  have hmade : (ofDeclaration config (some Writer.memory.write) s d).result.1 = .ok r :=
    mapError_eq_ok_iff.mp h
  rw [ofDeclaration, Reported.result_bind] at hmade
  rw [declaredResult]
  cases hsource : (sourceOf config d).result with
  | error e =>
    rw [hsource] at hmade
    cases show Except.error e = Except.ok r from hmade
  | ok source =>
    rw [hsource] at hmade
    cases source with
    | none => exact (Except.ok.inj hmade).symm
    | some source => exact (Except.ok.inj hmade).symm

/-- The results of declared types in memory are those of each of them, up to the one that stops the
batch if one does. -/
theorem results_run_declarations (config : Config) (ds : List TypeDeclaration) :
    ∀ s : Outputs,
      let done := run config (some Writer.memory.write) s (ds.map Item.declaration)
      done.result.results = (ds.take done.result.results.length).map (declaredResult config) := by
  -- What memory holds does not matter for results, so the state is free.
  induction ds with
  | nil => exact fun _ => rfl
  | cons d ds ih =>
    intro s
    rw [List.map_cons]
    cases hmade : (ofItem config (some Writer.memory.write) s (.declaration d)).result.1 with
    | error e =>
      rw [run_cons_of_error hmade]
      rfl
    | ok r =>
      rw [run_cons_of_ok hmade]
      simp only [Reported.result_bind, Reported.result_pure, List.length_cons, List.take_succ_cons,
        List.map_cons]
      rw [← ih, result_ofItem_declaration hmade]

/-- Memory that was empty has the sources that the calls of the types with a result write. -/
theorem memory_run_declarations (config : Config) (ds : List TypeDeclaration) :
    let done := run config (some Writer.memory.write) {} (ds.map Item.declaration)
    done.result.outputs.memory
      = putEntries [] ((declaredCalls config (ds.take done.result.results.length)).map
          fun c => (c.key, c.source)) := by
  intro done
  have houtputs := outputs_run config Write.printable_memory (ds.map Item.declaration) {}
  rw [← List.map_take] at houtputs
  rw [houtputs, Write.memory_replay]
  rfl

/-- With nothing to stop it, a batch of declared types has a result for each of them. -/
theorem length_results_of_finished {s : Outputs}
    (h : (run config (some Writer.memory.write) s items).result.stoppedBy = none) :
    (run config (some Writer.memory.write) s items).result.results.length = items.length := by
  have hsteady : ∀ w ∈ some Writer.memory.write, w.Steady := by
    rintro _ ⟨⟩
    exact Write.steady_memory
  obtain ⟨-, hresults, -⟩ := run_steady hsteady s (finishes_of_finished hsteady s s h) s
  exact hresults.length_eq.symm

theorem declaredCalls_eq (config : Config) (ds : List TypeDeclaration) :
    declaredCalls config ds
      = ds.filterMap fun d => (declaredResult config d).source.map (callOf config d) := by
  rw [declaredCalls, List.filterMap_map]
  exact List.filterMap_congr fun d _ => call?_declaration config d

/-- There are as many calls as results with a source. -/
theorem length_declaredCalls (config : Config) (ds : List TypeDeclaration) :
    (declaredCalls config ds).length
      = ((ds.map (declaredResult config)).filter (·.source.isSome)).length := by
  rw [declaredCalls_eq, List.length_filterMap_eq_countP, ← List.countP_eq_length_filter,
    List.countP_map]
  simp [Function.comp_def]

/-- Each declared type has its source in memory exactly if their modules have different names. -/
theorem storedEach_iff_nodup (config : Config) (ds : List TypeDeclaration) :
    let done := (run config (some Writer.memory.write) {} (ds.map Item.declaration)).result
    StoredEach ds done
      ↔ ((declaredCalls config (ds.take done.results.length)).map (·.key)).Nodup := by
  intro done
  have hresults : done.results = (ds.take done.results.length).map (declaredResult config) :=
    results_run_declarations config ds {}
  have hmemory : done.outputs.memory = _ := memory_run_declarations config ds
  generalize hmade : ds.take done.results.length = made at hresults hmemory ⊢
  have hkeys : ((declaredCalls config made).map fun c => (c.key, c.source)).map Prod.fst
      = (declaredCalls config made).map (·.key) := by
    rw [List.map_map]
    rfl
  have hlength : ((declaredCalls config made).map fun c => (c.key, c.source)).length
      = (done.results.filter (·.source.isSome)).length := by
    rw [List.length_map, length_declaredCalls, ← hresults]
  constructor
  · -- The number of sources alone shows it: a name that was given twice has one source.
    intro h
    have hcount := h.count
    rw [hmemory, ← hlength, length_putEntries_nil_iff, hkeys] at hcount
    exact hcount
  · -- With different names memory holds what the calls gave it, and nothing was replaced.
    intro hnodup
    rw [← hkeys] at hnodup
    have hall := putEntries_nil_eq hnodup
    refine ⟨by rw [hmemory, hall, hlength], ?_⟩
    intro i d r source hd hr hsource
    -- A result at the place of a type is that of the type, which is among those with a result.
    rw [hresults, List.getElem?_map, Option.map_eq_some_iff] at hr
    obtain ⟨d', hd', rfl⟩ := hr
    obtain rfl : d' = d := by
      rw [← hmade, List.getElem?_take] at hd'
      split at hd'
      next => exact Option.some.inj (hd'.symm.trans hd)
      next => exact nomatch hd'
    rw [hmemory, hall]
    apply contentAt?_of_mem hnodup
    refine List.mem_map.mpr ⟨callOf config d' source, ?_, rfl⟩
    rw [declaredCalls_eq, List.mem_filterMap]
    exact ⟨d', List.mem_of_getElem? hd', by rw [hsource]; rfl⟩

/-- Types with different conventional names, or in different packages, have different modules. -/
theorem nodup_keys_of_conventional
    (hdistinct : (ds.map fun d => (d.package, d.name)).Nodup)
    (hnames : ∀ d ∈ ds, Naming.IsConventional d.name) :
    ((declaredCalls config ds).map (·.key)).Nodup := by
  rw [declaredCalls_eq, List.Nodup, List.pairwise_map, List.pairwise_filterMap]
  rw [List.Nodup, List.pairwise_map] at hdistinct
  refine hdistinct.imp_of_mem ?_
  intro d d' hd hd' hne c hc c' hc' hkey
  obtain ⟨source, -, rfl⟩ := Option.map_eq_some_iff.mp hc
  obtain ⟨source', -, rfl⟩ := Option.map_eq_some_iff.mp hc'
  obtain ⟨hpackage, hname⟩ :=
    Naming.qualifiedModule_injective (hnames d hd) (hnames d' hd') hkey
  exact hne (Prod.ext hpackage hname)

/-- **Every generated type has its source in memory exactly if the modules have different names.**
After a batch of declared types, memory that was empty has under each name the source of the last
call for it. There are as many sources as results with one, and each such result has its own source
under its package and module, exactly if no two of the calls are for the same name; so it is for
types with conventional names that differ in their packages or names, whatever the suffix. The calls
are those of all types, as long as the versions in their sources have a text, and otherwise those of
the types before the first one without a result. -/
theorem storedEach_iff (config : Config) (ds : List TypeDeclaration) :
    let done := (run config (some Writer.memory.write) {} (ds.map Item.declaration)).result
    let made := ds.take done.results.length
    (done.stoppedBy = none ↔ ∀ d ∈ ds, d.Renders config)
      ∧ (done.stoppedBy = none → made = ds)
      ∧ (∀ key, contentAt? done.outputs.memory key
        = ((declaredCalls config made).filter (·.key = key)).getLast?.map (·.source))
      ∧ (StoredEach ds done ↔ ((declaredCalls config made).map (·.key)).Nodup)
      ∧ ((ds.map fun d => (d.package, d.name)).Nodup →
          (∀ d ∈ ds, Naming.IsConventional d.name) → StoredEach ds done) := by
  intro done made
  have hmemory : done.outputs.memory = _ := memory_run_declarations config ds
  have hprint : ∀ w ∈ some Writer.memory.write, w.Printable := by
    rintro _ ⟨⟩
    exact Write.printable_memory
  refine ⟨?_, ?_, ?_, storedEach_iff_nodup config ds, ?_⟩
  · refine (stoppedBy_run_eq_none_iff hprint {}).trans ?_
    simp only [List.forall_mem_map, expected_declaration_iff]
  · intro hfinished
    have hlength : done.results.length = (ds.map Item.declaration).length :=
      length_results_of_finished hfinished
    rw [List.length_map] at hlength
    exact List.take_of_length_le (Nat.le_of_eq hlength.symm)
  · intro key
    rw [hmemory, contentAt?_putEntries, List.filter_map, List.getLast?_map, Option.map_map]
    simp [contentAt?, Function.comp_def, made, done]
  · intro hdistinct hnames
    have hmade : made.Sublist ds := List.take_sublist _ _
    exact (storedEach_iff_nodup config ds).mpr (nodup_keys_of_conventional
      (hdistinct.sublist (hmade.map _)) fun d hd => hnames d (hmade.subset hd))

/-- A type with a column for a port. -/
def server (name : String) : TypeDeclaration where
  package := "app"
  name
  fields := [⟨some "mPort", some "int", {}⟩]

/-- A server for the web and one for files are two modules. -/
theorem storedEach_servers :
    ([server "WebServer", server "FileServer"].map fun d => (d.package, d.name)).Nodup
      ∧ (∀ d ∈ [server "WebServer", server "FileServer"], Naming.IsConventional d.name)
      ∧ StoredEach [server "WebServer", server "FileServer"]
        (run {} (some Writer.memory.write) {}
          ([server "WebServer", server "FileServer"].map Item.declaration)).result := by
  have hdistinct :
      ([server "WebServer", server "FileServer"].map fun d => (d.package, d.name)).Nodup := by
    decide
  have hnames : ∀ d ∈ [server "WebServer", server "FileServer"],
      Naming.IsConventional d.name := by
    intro d hd
    rcases List.mem_pair.mp hd with rfl | rfl
    · exact ⟨["Web".toList, "Server".toList], by decide, by decide, by decide⟩
    · exact ⟨["File".toList, "Server".toList], by decide, by decide, by decide⟩
  obtain ⟨-, -, -, -, hconventional⟩ := storedEach_iff {} [server "WebServer", server "FileServer"]
  exact ⟨hdistinct, hnames, hconventional hdistinct hnames⟩

/-- Two types whose names differ in letter case alone have one module, and the second one takes the
place of the first. -/
theorem stored_httpServers :
    ([server "HTTPServer", server "HttpServer"].map fun d => (d.package, d.name)).Nodup
      ∧ ¬ StoredEach [server "HTTPServer", server "HttpServer"]
        (run {} (some Writer.memory.write) {}
          ([server "HTTPServer", server "HttpServer"].map Item.declaration)).result := by
  refine ⟨by decide, fun hstored => ?_⟩
  have hnodup := (storedEach_iff_nodup {} [server "HTTPServer", server "HttpServer"]).mp hstored
  have hkeys : (declaredCalls {} ([server "HTTPServer", server "HttpServer"].take
      (run {} (some Writer.memory.write) {} ([server "HTTPServer", server "HttpServer"].map
        Item.declaration)).result.results.length)).map (·.key)
      = ["app.http_server_db_object", "app.http_server_db_object"] := by
    decide +kernel
  rw [hkeys] at hnodup
  exact absurd hnodup (by decide)

end Generation

end RecordForge

import RecordForge.Proofs.FileTrees
import RecordForge.Proofs.Reading

/-!
# Sources in files

A batch that writes to files changes the tree that its later items find. Each item either has no
path and changes no file, or has its source in the file that its path leads to, and no other file
changed (`Filed`, `filed_ofItem`). So after a batch a file has the source of the last result whose
path leads to it, or what it had before if there is none (`run_directory`): this is an induction over
the batch, in which a failed write may leave directories but never a changed file.
-/

namespace RecordForge

open FileTree

/-- The place of the file that a result went to. -/
def GenerationResult.place? (r : GenerationResult) : Option Place :=
  r.path.map target

theorem GenerationResult.place?_eq_none {r : GenerationResult} (h : r.path = none) :
    r.place? = none := by
  rw [place?, h, Option.map_none]

theorem GenerationResult.place?_eq_some {r : GenerationResult} {path : Path}
    (h : r.path = some path) : r.place? = some (target path) := by
  rw [place?, h, Option.map_some]

/-- What results leave of a tree: a file has the source of the last result that went to it or what
it had before, no directory is lost, and the path of every result leads to the file of a source. -/
structure Filed (t : FileTree) (results : List GenerationResult) (t' : FileTree) : Prop where
  text : ∀ q, t'.text? q
    = (results.filter (·.place? = some q)).getLast?.elim (t.text? q) (·.source)
  grows : Grows t t'
  reachable : ∀ r ∈ results, ∀ path, r.path = some path → t'.place path = .ok (target path)
  sources : ∀ r ∈ results, r.path.isSome = true → r.source.isSome = true

namespace Filed

variable {t t' t'' : FileTree} {r : GenerationResult} {results : List GenerationResult}

/-- No result belongs to a tree whose files are kept. -/
theorem nil_of_kept (h : Kept t t') : Filed t [] t' :=
  ⟨fun q => h.text q, h.grows, List.forall_mem_nil _, List.forall_mem_nil _⟩

/-- A result without a path belongs to a tree whose files are kept. -/
theorem of_kept (hpath : r.path = none) (h : Kept t t') : Filed t [r] t' := by
  refine ⟨fun q => ?_, h.grows, ?_, ?_⟩
  · simp [GenerationResult.place?_eq_none hpath, h.text]
  · simp [hpath]
  · simp [hpath]

/-- A result with a path belongs to a tree in which that file has the source. -/
theorem of_file {path : Path} {source : String} (hpath : r.path = some path)
    (hsource : r.source = some source) (hgrows : Grows t t')
    (hplace : t'.place path = .ok (target path))
    (htext : ∀ q, t'.text? q = if q = target path then some source else t.text? q) :
    Filed t [r] t' := by
  have hat := GenerationResult.place?_eq_some hpath
  refine ⟨fun q => ?_, hgrows, ?_, ?_⟩
  · rw [htext q]
    by_cases hq : q = target path
    · simp [hat, hq, hsource]
    · simp [hat, hq, Ne.symm hq]
  · rw [List.forall_mem_singleton]
    intro other hother
    obtain rfl := Option.some.inj (hpath.symm.trans hother)
    exact hplace
  · simp [hsource]

/-- One result and then others. -/
theorem cons (h : Filed t [r] t') (hrest : Filed t' results t'') : Filed t (r :: results) t'' := by
  refine ⟨?_, h.grows.trans hrest.grows, ?_, ?_⟩
  · -- The last result for a file is among the others, or else it is the first one.
    intro q
    have hsplit : r :: results = [r] ++ results := rfl
    rw [hrest.text q, h.text q, hsplit, List.filter_append, List.getLast?_append]
    cases (results.filter (·.place? = some q)).getLast? <;> rfl
  · rw [List.forall_mem_cons]
    refine ⟨fun path hpath => ?_, hrest.reachable⟩
    exact hrest.grows.place (h.reachable r (List.mem_singleton_self r) path hpath)
  · rw [List.forall_mem_cons]
    exact ⟨h.sources r (List.mem_singleton_self r), hrest.sources⟩

/-- The path of every result leads to a file. -/
theorem exists_text (h : Filed t results t') (hr : r ∈ results) {path : Path}
    (hpath : r.path = some path) : ∃ text, t'.read? path = some text := by
  have hin : r ∈ results.filter (·.place? = some (target path)) :=
    List.mem_filter.mpr ⟨hr, by simpa using GenerationResult.place?_eq_some hpath⟩
  -- The last result that went there has a source.
  obtain ⟨last, hlast⟩ := Option.ne_none_iff_exists'.mp
    (fun hnone => List.ne_nil_of_mem hin (List.getLast?_eq_none_iff.mp hnone))
  obtain ⟨hlastIn, hlastPlace⟩ := List.mem_filter.mp (List.mem_of_getLast? hlast)
  have hsome : last.path.isSome = true := by
    have hmap : last.path.map target = some (target path) := of_decide_eq_true hlastPlace
    rw [← Option.isSome_map, hmap]
    rfl
  obtain ⟨source, hsource⟩ := Option.isSome_iff_exists.mp (h.sources last hlastIn hsome)
  refine ⟨source, ?_⟩
  rw [read?, h.reachable r hr path hpath]
  show t'.text? (target path) = _
  rw [h.text, hlast]
  exact hsource

end Filed

namespace Generation

variable {config : Config} {directory : Path} {out : Outputs} {item : Item} {items : List Item}
  {d : TypeDeclaration} {source : String}

/-- Before anything is written there is no path. -/
theorem path_unwritten {r : GenerationResult} (h : (unwritten config item).result = .ok r) :
    r.path = none := by
  cases unwritten_ends config item with
  | escaped e hread he hresult herrors => exact nomatch hresult.symm.trans h
  | unrendered d hread hrenders hresult herrors => exact nomatch hresult.symm.trans h
  | unread e hread he hresult herrors => exact Except.ok.inj (hresult.symm.trans h) ▸ rfl
  | made d model hread hrenders hbuild hsource hresult herrors =>
    exact Except.ok.inj (hresult.symm.trans h) ▸ rfl

/-- **An item leaves its source in its file, or every file as it was.** -/
theorem filed_ofItem (config : Config) (directory : Path) (out : Outputs) (item : Item) :
    let done := ofItem config (some (Writer.directory directory).write) out item
    Filed out.files done.result.1.toOption.toList done.result.2.files := by
  intro done
  cases hsource : source? config item with
  | none =>
    have hdone : done = do return (← unwritten config item, out) :=
      ofItem_of_unwritten (Or.inr hsource)
    rw [hdone]
    cases hmade : (unwritten config item).result with
    | error e => simpa [hmade, Except.toOption] using Filed.nil_of_kept (Kept.refl out.files)
    | ok r =>
      simpa [hmade, Except.toOption] using
        Filed.of_kept (path_unwritten hmade) (Kept.refl out.files)
  | some found =>
    -- Before the write the result has its source and no path; only the write can add one.
    obtain ⟨d, source⟩ := found
    let r := resultOf config d (some source)
    have hdone : done.result = (((reportWritten d r ((Writer.writeBelow directory out.files d.package
          r.moduleName source).2.map some)).result).mapError .unwritable,
        { out with files := (Writer.writeBelow directory out.files d.package r.moduleName
            source).1 }) := by
      simp [done, ofItem_of_source?_eq_some hsource, writeSource, Writer.write_directory, r]
    rw [hdone]
    have hwritten := written_writeBelow directory out.files d.package r.moduleName source
    generalize Writer.writeBelow directory out.files d.package r.moduleName source = written at *
    cases hwritten with
    | done _ grows place text => exact .of_file rfl rfl grows place text
    | failed e kept =>
      have hfailed : (reportWritten d r (Except.map some (.error e))).result
          = e.content.write.map fun message => { r with error := some message } := rfl
      rw [hfailed]
      cases e.content.write with
      | error _ => exact .nil_of_kept kept
      | ok message => exact .of_kept rfl kept

/-- **A batch leaves in each file the source of the last result that went there**, whether it is
stopped or not. -/
theorem filed_run (config : Config) (directory : Path) (items : List Item) :
    ∀ out : Outputs,
      let done := run config (some (Writer.directory directory).write) out items
      Filed out.files done.result.results done.result.outputs.files := by
  -- Over all outputs, since each item leaves other files to the rest.
  induction items with
  | nil => exact fun out => .nil_of_kept (Kept.refl out.files)
  | cons item items ih =>
    intro out
    have hitem := filed_ofItem config directory out item
    dsimp only at hitem
    cases hmade : (ofItem config (some (Writer.directory directory).write) out item).result.1 with
    | error e =>
      rw [run_cons_of_error hmade]
      rw [hmade] at hitem
      exact hitem
    | ok r =>
      rw [run_cons_of_ok hmade]
      rw [hmade] at hitem
      exact hitem.cons (ih _)

/-- A write that fails is the one error of its item: the result has it in place of a path, and no
file has changed. -/
theorem ofItem_of_failed {call : Write.Call} {e : WriteError} (hcall : call? config item = some call)
    (hfailed : ((Writer.directory directory).write out call.package call.module call.source).2
      = .error e) :
    let done := ofItem config (some (Writer.directory directory).write) out item
    ∃ r, done.result.1 = .ok r ∧ r.error = some e.message ∧ r.path = none
      ∧ done.errors.length = 1 ∧ ∀ q, done.result.2.files.text? q = out.files.text? q := by
  intro done
  obtain ⟨⟨d, source⟩, hsource, rfl⟩ := Option.map_eq_some_iff.mp hcall
  let r : GenerationResult := { resultOf config d (some source) with error := some e.message }
  have hmade : done.result.1 = .ok r := by
    have hwrite : e.content.write = .ok e.message :=
      Value.write_eq_ok_iff.mpr ⟨Write.printable_directory directory _ _ _ _ e hfailed, rfl⟩
    have hanswer : ((Writer.directory directory).write out d.package
        (resultOf config d (some source)).moduleName source).2 = .error e := hfailed
    have hrefused : (reportWritten d (resultOf config d (some source)) (.error e)).result
        = e.content.write.map fun message =>
          { resultOf config d (some source) with error := some message } := rfl
    rw [hwrite] at hrefused
    simp only [done, ofItem_of_source?_eq_some hsource, writeSource, Reported.result_bind,
      Reported.result_pure, hanswer, hrefused]
    rfl
  have hfair : Fair config item r done.errors := fair_ofItem hmade
  refine ⟨r, hmade, rfl, rfl, hfair.errors, ?_⟩
  intro q
  have hfiled : Filed out.files done.result.1.toOption.toList done.result.2.files :=
    filed_ofItem config directory out item
  rw [hfiled.text q, hmade]
  simp [Except.toOption, GenerationResult.place?, r, resultOf]

/-- **Output to files is last-write-wins and touches nothing else.** Whatever files and directories
there are, and whatever items a batch writes below a directory: afterwards a file has the source of
the last result whose path leads to it, or what it had before if there is none; no directory is
lost; and the path of every result leads to a file. If something is in the way of the file that an
item is written to, or its write fails for another reason, the item's result has the error in place
of a path, one error is reported, and no file is changed. -/
theorem run_directory (config : Config) (directory : Path) (out : Outputs) (items : List Item) :
    let writer := Writer.directory directory
    let done := run config (some writer.write) out items
    let after := done.result.outputs.files
    (∀ q, after.text? q = (done.result.results.filter (·.place? = some q)).getLast?.elim
        (out.files.text? q) (·.source))
      ∧ (∀ q, out.files.node? q = some .directory → after.node? q = some .directory)
      ∧ (∀ r ∈ done.result.results, ∀ path, r.path = some path →
          ∃ text, after.read? path = some text)
      ∧ ∀ first item rest call, items = first ++ item :: rest → call? config item = some call →
          let earlier := run config (some writer.write) out first
          let now := run config (some writer.write) out (first ++ [item])
          let path := Path.ofModule directory call.package call.module
          let written := writer.write earlier.result.outputs call.package call.module call.source
          earlier.result.stoppedBy = none →
          (Blocked earlier.result.outputs.files path → ∃ e, written.2 = .error e)
            ∧ ∀ e, written.2 = .error e → ∃ r later d,
                done.result.results = earlier.result.results ++ r :: later
                  ∧ r.error = some e.message ∧ r.path = none
                  ∧ now.errors = earlier.errors ++ [d]
                  ∧ ∀ q, now.result.outputs.files.text? q
                      = earlier.result.outputs.files.text? q := by
  intro writer done after
  have hfiled := filed_run config directory items out
  refine ⟨hfiled.text, hfiled.grows, fun r hr path hpath => hfiled.exists_text hr hpath, ?_⟩
  rintro first item rest call rfl hcall earlier now path written hearlier
  refine ⟨?_, ?_⟩
  · intro hblocked
    obtain ⟨e, he⟩ := writeBelow_of_blocked hblocked call.source
    refine ⟨e, ?_⟩
    simp only [written, writer, Writer.write_directory, he]
    rfl
  · intro e hfailed
    -- The item finds what the earlier ones have left, and leaves what the later ones find.
    let step := ofItem config (some writer.write) earlier.result.outputs item
    obtain ⟨r, hmade, herror, hpath, herrors, htext⟩ := ofItem_of_failed hcall hfailed
    obtain ⟨d, hd⟩ := List.length_eq_one_iff.mp herrors
    have hdone : ∀ after, run config (some writer.write) out (first ++ item :: after) = do
        let before ← earlier
        let made ← ofItem config (some writer.write) before.outputs item
        let b ← run config (some writer.write) made.2 after
        return { b with results := before.results ++ r :: b.results } :=
      fun after => runReading_append_of_ok after hearlier hmade
    refine ⟨r, (run config (some writer.write) step.result.2 rest).result.results, d, ?_, herror,
      hpath, ?_, ?_⟩
    · simp [done, hdone, step]
    · have hnow : now.errors = earlier.errors ++ step.errors := by
        simp [now, hdone, run_nil, step]
      rw [hnow]
      exact congrArg _ hd
    · have hnow : now.result.outputs = step.result.2 := by
        simp [now, hdone, run_nil, step]
      rw [hnow]
      exact htext

/-- A note of another package. -/
def elsewhere : TypeDeclaration := { note with package := "lib" }

/-- A tree with a file where the directory of the package of notes should be. -/
def taken : FileTree := ⟨[({ down := ["app"] }, .file "taken")]⟩

/-- The file is in the way of a note; the note of another package has its file. -/
theorem run_taken :
    let done := run {} (some (Writer.directory {}).write) { files := taken }
      [.declaration note, .declaration elsewhere]
    let after := done.result.outputs.files
    (∃ r later, done.result.results = r :: later ∧ r.error.isSome = true ∧ r.path = none)
      ∧ after.text? { down := ["app"] } = some "taken"
      ∧ ∃ text, after.read? ⟨.none, ["lib", "note_db_object.py"]⟩ = some text := by
  intro done after
  have hcall : ∃ call, call? {} (.declaration note) = some call
      ∧ Path.ofModule {} call.package call.module = ⟨.none, ["app", "note_db_object.py"]⟩ :=
    Option.map_eq_some_iff.mp (by decide +kernel)
  have hsecond : ∃ second, done.result.results[1]? = some second
      ∧ second.path = some ⟨.none, ["lib", "note_db_object.py"]⟩ :=
    Option.bind_eq_some_iff.mp (by decide +kernel)
  obtain ⟨call, hcall, hplace⟩ := hcall
  obtain ⟨second, hsecond, hpathSecond⟩ := hsecond
  obtain ⟨htext, -, hread, hitems⟩ := run_directory {} {} { files := taken }
    [.declaration note, .declaration elsewhere]
  obtain ⟨hblocked, hfailed⟩ :=
    hitems [] (.declaration note) [.declaration elsewhere] call rfl hcall rfl
  have hway : Blocked taken ⟨.none, ["app", "note_db_object.py"]⟩ :=
    .inl ⟨["app"], "note_db_object.py", [], rfl, Option.some_ne_none "taken"⟩
  obtain ⟨e, he⟩ := hblocked (hplace ▸ hway)
  obtain ⟨r, later, d, hresults, herror, hpath, -, -⟩ := hfailed e he
  refine ⟨⟨r, later, hresults, by rw [herror]; rfl, hpath⟩, ?_, ?_⟩
  · rw [htext]
    decide +kernel
  · exact hread second (List.mem_of_getElem? hsecond) _ hpathSecond

end Generation

end RecordForge

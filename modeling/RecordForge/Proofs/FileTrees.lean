import RecordForge.Proofs.Entries
import RecordForge.Files.Writer

/-!
# What operations do to a file tree

Where a path leads depends on its components alone (`place_eq`); the tree only decides whether it
can be followed, and it can as long as the directories on the way are there (`directory_of_place`).
No operation removes a directory (`Grows`), making directories changes no file (`Kept`), and writing
a file changes that one (`writeFile_ok`). Writing the source of a module puts these together: it
either fails and changes no file, or the file of the module has the source and no other file changed
(`written_writeBelow`). It fails if there is a file where a directory is needed, or a directory where
the file should be (`writeBelow_of_blocked`).
-/

namespace RecordForge

namespace FileTree

variable {t t' : FileTree} {p q r : Place} {path : Path} {name text : String} {names : List String}
  {n : Node}

/-! ## Where paths lead -/

/-- Where names lead from a place, whatever there is. -/
def descend (p : Place) (names : List String) : Place :=
  names.foldl (fun p name => if name = ".." then above p else below p name) p

/-- Where a path leads, whatever there is. -/
def target (path : Path) : Place :=
  descend (start path) path.components

/-- A name can be looked for only in a directory. -/
theorem directory_of_enter (h : t.enter p name = .ok ()) : t.node? p = some .directory := by
  unfold enter at h
  cases hnode : t.node? p with
  | none => simp [hnode] at h
  | some node =>
    cases node with
    | directory => rfl
    | file text => simp [hnode] at h

/-- Whether a component can be followed depends on the tree; where it leads does not. -/
theorem step_eq_ok_iff :
    t.step p name = .ok q ↔ t.enter p name = .ok () ∧ q = descend p [name] := by
  have hstep : t.step p name = (t.enter p name).bind fun _ => .ok (descend p [name]) := by
    show (t.enter p name).bind _ = _
    congr 1
    funext _
    by_cases hup : name = ".." <;> simp [descend, hup] <;> rfl
  rw [hstep]
  cases t.enter p name with
  | error e => simp [Except.bind]
  | ok _ => simp [Except.bind, eq_comm]

theorem follow_cons_eq_ok_iff :
    t.follow p (name :: names) = .ok q
      ↔ t.enter p name = .ok () ∧ t.follow (descend p [name]) names = .ok q := by
  show (t.step p name).bind (t.follow · names) = .ok q ↔ _
  cases hstep : t.step p name with
  | error e =>
    have hnone : ¬ t.enter p name = .ok () := fun henter => by
      rw [step_eq_ok_iff.mpr ⟨henter, rfl⟩] at hstep
      exact nomatch hstep
    simp [Except.bind, hnone]
  | ok p' =>
    obtain ⟨henter, rfl⟩ := step_eq_ok_iff.mp hstep
    simp [Except.bind, henter]

theorem follow_eq (h : t.follow p names = .ok q) : q = descend p names := by
  induction names generalizing p with
  | nil => exact (Except.ok.inj h).symm
  | cons name names ih => exact ih (follow_cons_eq_ok_iff.mp h).2

/-- A path that can be followed leads to its target. -/
theorem place_eq (h : t.place path = .ok q) : q = target path := by
  unfold place at h
  split at h
  next => exact nomatch h
  next => exact follow_eq h

/-- On the way of a path that can be followed there are directories. -/
theorem directory_of_follow (h : t.follow p names = .ok q) {before after : List String}
    (hnames : names = before ++ name :: after) : t.node? (descend p before) = some .directory := by
  induction before generalizing p names with
  | nil =>
    subst hnames
    exact directory_of_enter (follow_cons_eq_ok_iff.mp h).1
  | cons first before ih =>
    subst hnames
    exact ih (follow_cons_eq_ok_iff.mp h).2 rfl

theorem directory_of_place (h : t.place path = .ok q) {before after : List String}
    (hnames : path.components = before ++ name :: after) :
    t.node? (descend (start path) before) = some .directory := by
  unfold place at h
  split at h
  next => exact nomatch h
  next => exact directory_of_follow h hnames

/-! ## Trees that grow -/

/-- Every directory of a tree is one of another tree. -/
def Grows (t t' : FileTree) : Prop :=
  ∀ q, t.node? q = some .directory → t'.node? q = some .directory

/-- A tree grows, and no file of it changes or is added. -/
structure Kept (t t' : FileTree) : Prop where
  grows : Grows t t'
  text : ∀ q, t'.text? q = t.text? q

theorem Grows.trans {t'' : FileTree} (h : Grows t t') (h' : Grows t' t'') : Grows t t'' :=
  fun q hq => h' q (h q hq)

theorem Kept.refl (t : FileTree) : Kept t t := ⟨fun _ h => h, fun _ => rfl⟩

theorem Kept.trans {t'' : FileTree} (h : Kept t t') (h' : Kept t' t'') : Kept t t'' :=
  ⟨h.grows.trans h'.grows, fun q => (h'.text q).trans (h.text q)⟩

/-- What can be looked for in a tree can be in a grown one. -/
theorem Grows.enter (h : Grows t t') (henter : t.enter p name = .ok ()) :
    t'.enter p name = .ok () := by
  have hdirectory := directory_of_enter henter
  unfold FileTree.enter at henter ⊢
  rw [hdirectory] at henter
  rw [h p hdirectory]
  exact henter

theorem Grows.follow (h : Grows t t') (hfollow : t.follow p names = .ok q) :
    t'.follow p names = .ok q := by
  induction names generalizing p with
  | nil => exact hfollow
  | cons name names ih =>
    -- Each component leads to the same place as before, as that does not depend on the tree.
    obtain ⟨henter, hrest⟩ := follow_cons_eq_ok_iff.mp hfollow
    exact follow_cons_eq_ok_iff.mpr ⟨h.enter henter, ih hrest⟩

/-- A path that can be followed in a tree can be in a grown one. -/
theorem Grows.place (h : Grows t t') (hplace : t.place path = .ok q) : t'.place path = .ok q := by
  unfold FileTree.place at hplace ⊢
  split at hplace
  next => exact nomatch hplace
  next hlong =>
    rw [if_neg hlong]
    exact h.follow hplace

/-! ## Operations -/

/-- What places hold after a change of one place. -/
theorem node?_put (t : FileTree) (hq : q.down ≠ []) (n : Node) (r : Place) :
    (t.put q n).node? r = if r = q then some n else t.node? r := by
  unfold node? put
  dsimp only
  rw [contentAt?_putEntry]
  by_cases hr : r = q
  · rw [if_pos hr, if_neg (hr ▸ hq), if_pos hr]
  · rw [if_neg hr, if_neg hr]

/-- There is always a directory where no name leads down. -/
theorem down_ne_nil (h : t.node? q ≠ some .directory) : q.down ≠ [] :=
  fun hdown => h (if_pos hdown)

theorem kept_put_directory (h : t.node? q = none) : Kept t (t.put q .directory) := by
  have hdown : q.down ≠ [] := down_ne_nil (t := t) (by simp [h])
  refine ⟨?_, ?_⟩
  · intro r hr
    rw [node?_put t hdown]
    split
    next => rfl
    next => exact hr
  · intro r
    rw [text?, text?, node?_put t hdown]
    by_cases hr : r = q
    · rw [if_pos hr, hr, h]
    · rw [if_neg hr]

/-- Making a directory fills a place that held nothing. -/
theorem kept_makeDirectory (h : t.makeDirectory path = .ok t') : Kept t t' := by
  unfold makeDirectory at h
  cases hplace : t.place path with
  | error e => rw [hplace] at h; exact nomatch h
  | ok q =>
    rw [hplace] at h
    cases hnode : t.node? q with
    | some node => simp [bind, Except.bind, hnode] at h
    | none =>
      obtain rfl : t.put q .directory = t' := by
        simpa [bind, Except.bind, pure, Except.pure, hnode] using h
      exact kept_put_directory hnode

theorem kept_ensureDirectory (t : FileTree) (path : Path) :
    Kept t (t.ensureDirectory path).1 := by
  unfold ensureDirectory
  cases hmake : t.makeDirectory path with
  | ok t' => exact kept_makeDirectory hmake
  | error e =>
    dsimp only
    split <;> exact Kept.refl t

/-- Making directories changes no file, whether it succeeds or stops halfway. -/
theorem kept_makeAll (root : PathRoot) (reversed : List String) (t : FileTree) :
    Kept t (t.makeAll root reversed).1 := by
  induction reversed generalizing t with
  | nil => exact kept_ensureDirectory t _
  | cons name rest ih =>
    have hfirst := kept_ensureDirectory t ⟨root, (name :: rest).reverse⟩
    unfold makeAll
    dsimp only
    split
    next t₁ hensure =>
      rw [hensure] at hfirst
      exact hfirst
    next t₁ hensure =>
      -- The directory above is missing: it is made first, and then this one is tried again.
      rw [hensure] at hfirst
      have hparent := ih t₁
      split
      next t₂ e hmake =>
        rw [hmake] at hparent
        exact hfirst.trans hparent
      next t₂ hmake =>
        rw [hmake] at hparent
        exact (hfirst.trans hparent).trans (kept_ensureDirectory t₂ _)
    next t₁ e _ hensure =>
      rw [hensure] at hfirst
      exact hfirst

theorem kept_makeDirectories (t : FileTree) (path : Path) : Kept t (t.makeDirectories path).1 :=
  kept_makeAll path.root path.components.reverse t

/-- Writing a file changes what its path leads to, which is no directory, and nothing else. -/
theorem writeFile_ok (h : t.writeFile path text = .ok t') :
    t.place path = .ok (target path) ∧ t.node? (target path) ≠ some .directory
      ∧ t' = t.put (target path) (.file text) := by
  unfold writeFile at h
  cases hplace : t.place path with
  | error e =>
    rw [hplace] at h
    exact nomatch h
  | ok q =>
    obtain rfl := place_eq hplace
    rw [hplace] at h
    by_cases hnode : t.node? (target path) = some .directory
    · simp [bind, Except.bind, hnode] at h
    · refine ⟨rfl, hnode, ?_⟩
      cases hfound : t.node? (target path) with
      | none => simpa [bind, Except.bind, pure, Except.pure, hfound, eq_comm] using h
      | some node =>
        cases node with
        | directory => exact absurd hfound hnode
        | file old => simpa [bind, Except.bind, pure, Except.pure, hfound, eq_comm] using h

theorem text?_put_file (h : t.node? q ≠ some .directory) (r : Place) :
    (t.put q (.file text)).text? r = if r = q then some text else t.text? r := by
  rw [text?, node?_put t (down_ne_nil h)]
  by_cases hr : r = q
  · rw [if_pos hr, if_pos hr]
  · rw [if_neg hr, if_neg hr, text?]

theorem grows_put_file (h : t.node? q ≠ some .directory) : Grows t (t.put q (.file text)) := by
  intro r hr
  rw [node?_put t (down_ne_nil h), if_neg]
  · exact hr
  · rintro rfl
    exact h hr

/-! ## Writing a source -/

/-- The content of the file that a path leads to. -/
def read? (t : FileTree) (path : Path) : Option String :=
  match t.place path with
  | .ok q => t.text? q
  | .error _ => none

/-- Something is in the way of a file: a file where the path needs a directory, or a directory where
it leads to. -/
def Blocked (t : FileTree) (path : Path) : Prop :=
  (∃ before name after, path.components = before ++ name :: after
      ∧ t.text? (descend (start path) before) ≠ none)
    ∨ t.node? (target path) = some .directory

/-- A file that is blocked cannot be written, whatever directories are made first. -/
theorem Blocked.writeFile (h : Blocked t path) (hkept : Kept t t') (text : String) :
    ∀ t'', t'.writeFile path text ≠ .ok t'' := by
  intro t'' hwrite
  obtain ⟨hplace, hnode, -⟩ := writeFile_ok hwrite
  rcases h with ⟨before, name, after, hcomponents, htext⟩ | hdirectory
  · -- The file on the way is still there, and no directory is.
    have hway := directory_of_place hplace hcomponents
    rw [← hkept.text, text?, hway] at htext
    exact htext rfl
  · exact hnode (hkept.grows _ hdirectory)

/-- What writing a source to a path leaves: if it fails no file is changed, and if it succeeds, for
which nothing may be in the way, only the one that the path leads to, which has the source then. -/
inductive Written (t : FileTree) (path : Path) (source : String) :
    FileTree × Except WriteError Path → Prop where
  | failed {t' : FileTree} (e : WriteError) (kept : Kept t t') :
    Written t path source (t', .error e)
  | done {t' : FileTree} (free : ¬ Blocked t path) (grows : Grows t t')
    (place : t'.place path = .ok (target path))
    (text : ∀ q, t'.text? q = if q = target path then some source else t.text? q) :
    Written t path source (t', .ok path)

/-- Writing a source does just that. -/
theorem written_writeBelow (directory : Path) (t : FileTree) (package module source : String) :
    Written t (Path.ofModule directory package module) source
      (Writer.writeBelow directory t package module source) := by
  unfold Writer.writeBelow
  dsimp only
  split
  next => exact .failed _ (Kept.refl t)
  next =>
    have hkept := kept_makeDirectories t (Path.ofModule directory package module).parent
    split
    next t₁ e failed hmake =>
      rw [hmake] at hkept
      exact .failed _ hkept
    next t₁ hmake =>
      rw [hmake] at hkept
      split
      next => exact .failed _ hkept
      next =>
        split
        next t₂ hwrite =>
          -- The file is the only change; all that was made before are directories.
          obtain ⟨hplace, hnode, rfl⟩ := writeFile_ok hwrite
          have hgrows : Grows t₁ (t₁.put _ (.file source)) := grows_put_file hnode
          have hfree : ¬ Blocked t (Path.ofModule directory package module) :=
            fun hblocked => hblocked.writeFile hkept source _ hwrite
          refine .done hfree (hkept.grows.trans hgrows) (hgrows.place hplace) ?_
          intro q
          rw [text?_put_file hnode, hkept.text q]
        next e hwrite => exact .failed _ hkept

/-- Writing the source of a module fails if its file is blocked. -/
theorem writeBelow_of_blocked {directory : Path} {package module : String}
    (h : Blocked t (Path.ofModule directory package module)) (source : String) :
    ∃ e, (Writer.writeBelow directory t package module source).2 = .error e := by
  have hwritten := written_writeBelow directory t package module source
  generalize Writer.writeBelow directory t package module source = written at *
  cases hwritten with
  | failed e _ => exact ⟨e, rfl⟩
  | done free => exact absurd h free

end FileTree

end RecordForge

import RecordForge.Files.Path

/-!
# Paths of modules

The file of a module lies below the directory that sources go to: its path is that of the directory,
then the parts of the package, then the name of the module with its ending. As long as no name holds
a slash, none of these can lead anywhere else (`IsName`), so the path and its text tell package and
module apart from all others up to empty parts of the package (`ofModule_identifies`).
-/

namespace RecordForge.Path

/-! ## Names -/

/-- A text that stands for one step down and for nothing else. -/
structure IsName (part : String) : Prop where
  component : isComponent part = true
  notUp : part ≠ ".."
  noSlash : '/' ∉ part.toList

/-- A text without a slash has no root. -/
theorem rootOf_eq_none {cs : List Char} (h : cs.head? ≠ some '/') : rootOf cs = .none := by
  unfold rootOf
  split
  · exact absurd rfl h
  · exact absurd rfl h
  · exact absurd rfl h
  · rfl

theorem head?_ne_of_not_mem {cs : List Char} (h : '/' ∉ cs) : cs.head? ≠ some '/' :=
  fun hhead => h (List.mem_of_head? hhead)

/-- A component without a slash is a path of one step. -/
theorem ofString_component {part : String} (hpart : isComponent part = true)
    (hslash : '/' ∉ part.toList) : ofString part = ⟨.none, [part]⟩ := by
  have hparts : Text.parts '/' part = [part] := by
    rw [Text.parts, Text.cutAt_of_not_mem hslash, List.map_singleton, String.ofList_toList]
  rw [ofString, hparts, rootOf_eq_none (head?_ne_of_not_mem hslash), List.filter_cons_of_pos hpart,
    List.filter_nil]

/-- Names are appended one after the other. -/
theorem appendAll_names {names : List String} (h : ∀ name ∈ names, IsName name) :
    ∀ p : Path, p.appendAll names = ⟨p.root, p.components ++ names⟩ := by
  induction names with
  | nil =>
    intro p
    rw [List.append_nil]
    rfl
  | cons name names ih =>
    intro p
    rw [List.forall_mem_cons] at h
    have hstep : p.appendAll (name :: names) = (p.append (ofString name)).appendAll names := rfl
    rw [hstep, ih h.2, ofString_component h.1.component h.1.noSlash, append]
    simp

/-! ## Packages and modules -/

/-- What is a part of a package is a name, if the package holds no slash: it is not empty and holds
no point. -/
theorem isName_of_mem_packageParts {package part : String} (hpackage : '/' ∉ package.toList)
    (h : part ∈ packageParts package) : IsName part := by
  obtain ⟨hin, hne⟩ := List.mem_filter.mp h
  obtain ⟨cs, hcs, rfl⟩ := List.mem_map.mp hin
  obtain ⟨hpoint, hsub⟩ := Text.of_mem_cutAt hcs
  have hne : String.ofList cs ≠ "" := by simpa using hne
  have hsingle : String.ofList cs ≠ "." := by
    intro heq
    rw [← String.toList_inj, String.toList_ofList] at heq
    exact hpoint (heq ▸ List.mem_singleton_self '.')
  refine ⟨?_, ?_, ?_⟩
  · simp [isComponent, hne, hsingle]
  · intro heq
    rw [← String.toList_inj, String.toList_ofList] at heq
    exact hpoint (heq ▸ List.mem_cons_self ..)
  · rw [String.toList_ofList]
    exact fun hslash => hpackage (hsub _ hslash)

/-- The file of a module is a name, if the module's name holds no slash: it is longer than its
ending, and so than one or two points. -/
theorem isName_file {module : String} (hmodule : '/' ∉ module.toList) :
    IsName (module ++ ".py") := by
  have hlength : 3 ≤ (module ++ ".py").toList.length := by
    rw [String.toList_append, List.length_append]
    exact Nat.le_add_left _ _
  have hne : ∀ short : String, short.toList.length < 3 → module ++ ".py" ≠ short := by
    rintro short hshort rfl
    exact absurd hshort (Nat.not_lt.mpr hlength)
  refine ⟨?_, hne ".." (by decide), ?_⟩
  · simp [isComponent, hne "" (by decide), hne "." (by decide)]
  · rw [String.toList_append, List.mem_append, not_or]
    exact ⟨hmodule, by decide⟩

/-- Below a directory there are the parts of the package and the file of the module. -/
theorem isName_of_mem_below {package module : String} (hpackage : '/' ∉ package.toList)
    (hmodule : '/' ∉ module.toList) :
    ∀ name ∈ packageParts package ++ [module ++ ".py"], IsName name := by
  intro name hname
  rcases List.mem_append.mp hname with hpart | hfile
  · exact isName_of_mem_packageParts hpackage hpart
  · obtain rfl := List.mem_singleton.mp hfile
    exact isName_file hmodule

theorem ofModule_eq {directory : Path} {package module : String} (hpackage : '/' ∉ package.toList)
    (hmodule : '/' ∉ module.toList) :
    ofModule directory package module
      = ⟨directory.root, directory.components ++ (packageParts package ++ [module ++ ".py"])⟩ :=
  appendAll_names (isName_of_mem_below hpackage hmodule) directory

/-! ## Texts of paths -/

/-- A path that a text denotes: its components are components without a slash. -/
def IsRead (p : Path) : Prop :=
  ∀ part ∈ p.components, isComponent part = true ∧ '/' ∉ part.toList

theorem isRead_ofString (s : String) : (ofString s).IsRead := by
  intro part hpart
  obtain ⟨hin, hcomponent⟩ := List.mem_filter.mp hpart
  obtain ⟨cs, hcs, rfl⟩ := List.mem_map.mp hin
  refine ⟨hcomponent, ?_⟩
  rw [String.toList_ofList]
  exact (Text.of_mem_cutAt hcs).1

/-- The components in a text are those that were joined in it. -/
theorem parts_joined {parts : List String}
    (h : ∀ part ∈ parts, isComponent part = true ∧ '/' ∉ part.toList) :
    (Text.parts '/' (Text.joined '/' parts)).filter isComponent = parts := by
  cases parts with
  | nil => rfl
  | cons part parts =>
    have hslash : ∀ cs ∈ (part :: parts).map String.toList, '/' ∉ cs :=
      List.forall_mem_map.mpr fun p hp => (h p hp).2
    rw [Text.parts, Text.joined, String.toList_ofList,
      Text.cutAt_joinWith (by simp) hslash, List.map_map, List.filter_eq_self.mpr]
    · exact List.map_id'' (fun _ => String.ofList_toList) _
    · intro p hp
      obtain ⟨q, hq, rfl⟩ := List.mem_map.mp hp
      rw [Function.comp_apply, String.ofList_toList]
      exact (h q hq).1

/-- Joined components do not begin with a slash. -/
theorem head?_joined {parts : List String}
    (h : ∀ part ∈ parts, isComponent part = true ∧ '/' ∉ part.toList) :
    (Text.joined '/' parts).toList.head? ≠ some '/' := by
  rw [Text.joined, String.toList_ofList]
  cases parts with
  | nil => exact fun h => nomatch h
  | cons part parts =>
    obtain ⟨hcomponent, hslash⟩ := h part (List.mem_cons_self ..)
    obtain ⟨c, cs, hcs⟩ : ∃ c cs, part.toList = c :: cs := by
      cases hcs : part.toList with
      | nil =>
        obtain rfl : part = "" := String.toList_inj.mp hcs
        exact absurd hcomponent (by decide)
      | cons c cs => exact ⟨c, cs, rfl⟩
    have hc : c ≠ '/' := fun heq => hslash (hcs ▸ heq ▸ List.mem_cons_self ..)
    cases parts with
    | nil => simpa [Text.joinWith, hcs] using hc
    | cons next parts => simpa [Text.joinWith, hcs] using hc

/-- Slashes in front of a text are its root. -/
theorem rootOf_rootText (root : PathRoot) {cs : List Char} (h : cs.head? ≠ some '/') :
    rootOf ((rootText root).toList ++ cs) = root := by
  cases root with
  | none => exact rootOf_eq_none h
  | single =>
    cases cs with
    | nil => rfl
    | cons c cs =>
      have hc : c ≠ '/' := by simpa using h
      simp [rootText, rootOf, hc]
  | double =>
    cases cs with
    | nil => rfl
    | cons c cs =>
      have hc : c ≠ '/' := by simpa using h
      simp [rootText, rootOf, hc]

/-- Slashes in front of a text add no components. -/
theorem components_rootText (root : PathRoot) (s : String) :
    (Text.parts '/' (rootText root ++ s)).filter isComponent
      = (Text.parts '/' s).filter isComponent := by
  cases root with
  | none => rw [rootText, String.empty_append]
  | single => simp [rootText, Text.parts, Text.cutAt, isComponent]
  | double => simp [rootText, Text.parts, Text.cutAt, isComponent]

/-- **The text of a path denotes the path.** -/
theorem ofString_toString {p : Path} (h : p.IsRead) : ofString p.toString = p := by
  rw [toString]
  split
  next hempty =>
    obtain ⟨root, components⟩ := p
    obtain ⟨rfl, rfl⟩ := hempty
    rfl
  next =>
    rw [ofString, components_rootText, parts_joined h, String.toList_append,
      rootOf_rootText p.root (head?_joined h)]

/-- The path of a module below a directory that a text denotes is the one that its text denotes. -/
theorem isRead_ofModule {directory : Path} {package module : String} (h : directory.IsRead)
    (hpackage : '/' ∉ package.toList) (hmodule : '/' ∉ module.toList) :
    (ofModule directory package module).IsRead := by
  rw [ofModule_eq hpackage hmodule]
  intro name hname
  rcases List.mem_append.mp hname with hdirectory | hbelow
  · exact h name hdirectory
  · have hname := isName_of_mem_below hpackage hmodule name hbelow
    exact ⟨hname.component, hname.noSlash⟩

/-! ## What tells modules apart -/

/-- Two modules have one path exactly if their packages have the same parts and their names are
equal. -/
theorem ofModule_eq_iff {directory : Path} {package module package' module' : String}
    (hpackage : '/' ∉ package.toList) (hmodule : '/' ∉ module.toList)
    (hpackage' : '/' ∉ package'.toList) (hmodule' : '/' ∉ module'.toList) :
    ofModule directory package module = ofModule directory package' module'
      ↔ packageParts package = packageParts package' ∧ module = module' := by
  rw [ofModule_eq hpackage hmodule, ofModule_eq hpackage' hmodule', Path.mk.injEq,
    List.append_cancel_left_eq, List.append_singleton_inj, String.append_left_inj]
  exact and_iff_right rfl

/-- **The path of a module identifies it.** Below any directory, if package and module hold no
slash, the path of a module has the root of the directory and the components of the directory, then
the parts of the package between its points that are not empty, and then the module with its ending;
none of the components that are added is one or two points, empty or holds a slash. So for one
directory two modules have the same path exactly if their packages have the same such parts and
their names are equal; and if the directory is given as a text, exactly then the texts of their
paths are the same. -/
theorem ofModule_identifies (directory : Path) (package module : String)
    (hpackage : '/' ∉ package.toList) (hmodule : '/' ∉ module.toList) :
    let path := ofModule directory package module
    let added := (Text.parts '.' package).filter (· ≠ "") ++ [module ++ ".py"]
    path = ⟨directory.root, directory.components ++ added⟩
      ∧ (∀ name ∈ added, name ≠ "." ∧ name ≠ ".." ∧ name ≠ "" ∧ '/' ∉ name.toList)
      ∧ ∀ package' module' : String, '/' ∉ package'.toList → '/' ∉ module'.toList →
        let path' := ofModule directory package' module'
        (path = path' ↔ (Text.parts '.' package).filter (· ≠ "")
            = (Text.parts '.' package').filter (· ≠ "") ∧ module = module')
          ∧ ∀ text, directory = ofString text →
            (path.toString = path'.toString ↔ path = path') := by
  intro path added
  refine ⟨ofModule_eq hpackage hmodule, ?_, ?_⟩
  · intro name hname
    obtain ⟨hcomponent, hup, hslash⟩ := isName_of_mem_below hpackage hmodule name hname
    rw [isComponent, Bool.and_eq_true, decide_eq_true_eq, decide_eq_true_eq] at hcomponent
    exact ⟨hcomponent.2, hup, hcomponent.1, hslash⟩
  · intro package' module' hpackage' hmodule' path'
    refine ⟨ofModule_eq_iff hpackage hmodule hpackage' hmodule', ?_⟩
    rintro text rfl
    refine ⟨fun htexts => ?_, fun hpaths => by rw [hpaths]⟩
    -- Each path can be read off its text.
    have hread := ofString_toString (isRead_ofModule (isRead_ofString text) hpackage hmodule)
    have hread' := ofString_toString (isRead_ofModule (isRead_ofString text) hpackage' hmodule')
    exact hread.symm.trans ((congrArg ofString htexts).trans hread')

/-- Points at the ends of a package and beside each other make no components, and neither do those
of a module's name, even if there is nothing else in it. -/
theorem ofModule_identifies_points :
    let directory := ofString "//srv/.//out/../"
    '/' ∉ ".app..models.".toList ∧ '/' ∉ "..".toList
      ∧ ofModule directory ".app..models." ".."
        = ⟨.double, ["srv", "out", "..", "app", "models", "...py"]⟩
      ∧ ofModule directory ".app..models." ".." = ofModule directory "app.models" ".."
      ∧ (ofModule directory ".app..models." "..").toString
        ≠ (ofModule directory "app" "models").toString := by
  intro directory
  have hpackage : '/' ∉ ".app..models.".toList := by decide
  have hmodule : '/' ∉ "..".toList := by decide
  obtain ⟨hpath, -, hothers⟩ := ofModule_identifies directory ".app..models." ".." hpackage hmodule
  obtain ⟨hsame, -⟩ := hothers "app.models" ".." (by decide) hmodule
  obtain ⟨hother, htext⟩ := hothers "app" "models" (by decide) (by decide)
  refine ⟨hpackage, hmodule, ?_, hsame.mpr ?_, ?_⟩
  · rw [hpath]
    decide
  · decide
  · rw [Ne, htext _ rfl, hother]
    decide

end RecordForge.Path

import Mathlib.Data.Option.Basic
import RecordForge.Proofs.CollectedFields
import RecordForge.Proofs.Steps
import RecordForge.Schema.Describe

/-!
# Columns of a class

An attribute of a class declares a column if the hint that the most derived layer gives it carries
one. A class whose chain has no record class is read by its attributes, every other class by the
names that the nearest record class of the chain collected. That class may be an inherited one, and
then it knows nothing of what was declared afterwards: a class is read with all of its columns
exactly if they are among the collected fields, in the order of the attributes
(`describe_listsColumns`). A plain class that derives from a record class loses its own columns
(`not_listsColumns_plainBook`).

`declaration?` is what one attribute declares. There is just one list of columns for given names
(`listsColumns_iff`), so it is enough to compare names.
-/

namespace RecordForge

/-- The first column that is attached to the hint. -/
def Hint.Carries (h : Hint) (column : ColumnAnnotation) : Prop :=
  ∃ inner before after, h = .annotated inner (before ++ .column column :: after)
    ∧ ∀ other, HintNote.column other ∉ before

theorem columnOf?_eq_some_iff {notes : List HintNote} {column : ColumnAnnotation} :
    Hint.columnOf? notes = some column
      ↔ ∃ before after, notes = before ++ .column column :: after
        ∧ ∀ other, HintNote.column other ∉ before := by
  induction notes with
  | nil => simp [Hint.columnOf?]
  | cons note rest ih =>
    cases note with
    | column first =>
      constructor
      · intro h
        cases h
        exact ⟨[], rest, rfl, by simp⟩
      · rintro ⟨before, after, heq, hbefore⟩
        cases before with
        | nil =>
          cases heq
          rfl
        | cons x before =>
          cases heq
          exact absurd (List.mem_cons_self ..) (hbefore first)
    | value v =>
      rw [Hint.columnOf?, ih]
      constructor
      · rintro ⟨before, after, rfl, hbefore⟩
        exact ⟨.value v :: before, after, rfl, by simpa using hbefore⟩
      · rintro ⟨before, after, heq, hbefore⟩
        cases before with
        | nil => cases heq
        | cons x before =>
          cases heq
          exact ⟨before, after, rfl, fun other hin => hbefore other (List.mem_cons_of_mem _ hin)⟩

theorem Hint.carries_iff {h : Hint} {column : ColumnAnnotation} :
    h.Carries column ↔ Hint.columnOf? h.split.2 = some column := by
  constructor
  · rintro ⟨inner, before, after, rfl, hbefore⟩
    exact columnOf?_eq_some_iff.mpr ⟨before, after, rfl, hbefore⟩
  · intro hcolumn
    cases h with
    | annotated inner notes =>
      obtain ⟨before, after, hnotes, hbefore⟩ := columnOf?_eq_some_iff.mp hcolumn
      exact ⟨inner, before, after, congrArg _ hnotes, hbefore⟩
    | _ => cases hcolumn

namespace SchemaClass

variable {classes : List SchemaClass} {b c : SchemaClass} {names : List String}
  {fields : List FieldDeclaration} {f : FieldDeclaration} {name : String} {table : RecordTable}

/-! ## What a class declares -/

/-- The attributes of a class, base classes first, each in the place where it was first declared. -/
def attributes (c : SchemaClass) : List String :=
  (declaredNames c.layers).eraseDups

/-- The hint of an attribute as the most derived layer writes it. -/
def writtenHint? (c : SchemaClass) (name : String) : Option Hint :=
  c.layers.findSome? fun l => contentAt? l.hints name

/-- The hint of an attribute. -/
def hint? (c : SchemaClass) (name : String) : Option Hint :=
  (c.writtenHint? name).bind fun h => h.resolve.toOption.map Hint.typed

/-- All hints of the chain resolve. -/
def Resolves (c : SchemaClass) : Prop :=
  ∀ l ∈ c.layers, ∀ e ∈ l.hints, ∃ h, e.2.resolve = .ok h

/-- The attribute declares this field: its hint carries the column. -/
def DeclaresColumn (c : SchemaClass) (name : String) (f : FieldDeclaration) : Prop :=
  ∃ h, c.hint? name = some h ∧ h.Carries f.column ∧ f.identifier = some name
    ∧ f.typeName = some h.typeName

/-- These are the fields that attributes of these names declare, each once and in their order. -/
structure ListsColumns (c : SchemaClass) (names : List String) (fields : List FieldDeclaration) :
    Prop where
  mem_iff : ∀ f, f ∈ fields ↔ ∃ name ∈ names, c.DeclaresColumn name f
  once : (fields.map (·.identifier)).Nodup
  inOrder : (fields.map (·.identifier)).Sublist (names.map some)

/-- The field of a name and a hint whose notes hold a column. -/
def fieldOf? (name : String) (h : Hint) (notes : List HintNote) : Option FieldDeclaration :=
  (Hint.columnOf? notes).map fun column => ⟨some name, some h.typeName, column⟩

/-- The field that an attribute declares. -/
def declaration? (c : SchemaClass) (name : String) : Option FieldDeclaration :=
  (c.hint? name).bind fun h => fieldOf? name h h.split.2

/-- Whether an attribute declares a column. -/
def isColumn (c : SchemaClass) (name : String) : Bool :=
  (c.declaration? name).isSome

/-- The names that a record class collected as fields. -/
def fieldNames (table : RecordTable) : List String :=
  (table.filter (·.2 = .field)).map Prod.fst

/-- The nearest record class of the chain, if there is one, collected all columns as fields, in the
order of the attributes. -/
def CollectsColumns (c : SchemaClass) : Prop :=
  ∀ table, c.recordTable? = some table → (c.attributes.filter c.isColumn).Sublist (fieldNames table)

/-- Every declaration of a column is one of a record class in the chain of the other class. -/
def DeclaresWithin (c b : SchemaClass) : Prop :=
  ∀ l ∈ c.layers, ∀ e ∈ l.hints, c.isColumn e.1 = true →
    l ∈ b.layers ∧ l.isRecord = true ∧ ClassDefinition.recordRole e.2 = .field

/-- The names that a class is read by. -/
def readNames (c : SchemaClass) : List String :=
  match c.recordTable? with
  | some table => fieldNames table
  | none => c.attributes

/-- Each column that the class is read with has a type name that can be written. -/
def NamesTypes (c : SchemaClass) : Prop :=
  ∀ name ∈ c.readNames, ∀ h column, c.hint? name = some h → h.Carries column →
    ∃ typeName, h.writeName = .ok typeName

/-- The class is read by a table of fields, as model classes are. -/
def ShowsModelTable (c : SchemaClass) : Prop :=
  (∃ entries, c.modelTable? = some (.fields entries)) ∧ c.validates = true

/-! ## Lists of columns -/

theorem declaration?_eq_some_iff : c.declaration? name = some f ↔ c.DeclaresColumn name f := by
  simp only [declaration?, fieldOf?, Option.bind_eq_some_iff, Option.map_eq_some_iff,
    DeclaresColumn, Hint.carries_iff]
  constructor
  · rintro ⟨h, hh, column, hcolumn, rfl⟩
    exact ⟨h, hh, hcolumn, rfl, rfl⟩
  · rintro ⟨h, hh, hcolumn, hname, htype⟩
    refine ⟨h, hh, f.column, hcolumn, ?_⟩
    cases f
    simp_all

theorem identifier_of_declaration? (h : c.declaration? name = some f) :
    f.identifier = some name := by
  obtain ⟨-, -, -, hname, -⟩ := declaration?_eq_some_iff.mp h
  exact hname

theorem identifiers_filterMap (c : SchemaClass) (names : List String) :
    (names.filterMap c.declaration?).map (·.identifier) = (names.filter c.isColumn).map some := by
  induction names with
  | nil => rfl
  | cons name names ih =>
    cases hname : c.declaration? name with
    | none => simp [hname, isColumn, ih]
    | some f => simp [hname, isColumn, ih, identifier_of_declaration? hname]

theorem listsColumns_filterMap (c : SchemaClass) (hnames : names.Nodup) :
    c.ListsColumns names (names.filterMap c.declaration?) where
  mem_iff f := by simp only [List.mem_filterMap, declaration?_eq_some_iff]
  once := by
    rw [identifiers_filterMap]
    exact (hnames.filter _).map (Option.some_injective _)
  inOrder := by
    rw [identifiers_filterMap]
    exact List.filter_sublist.map _

/-- There is just one such list. -/
theorem listsColumns_iff (hnames : names.Nodup) :
    c.ListsColumns names fields ↔ fields = names.filterMap c.declaration? := by
  constructor
  · intro h
    have hlisted := listsColumns_filterMap c hnames
    have hmem : ∀ f, f ∈ fields ↔ f ∈ names.filterMap c.declaration? :=
      fun f => (h.mem_iff f).trans (hlisted.mem_iff f).symm
    have hids : fields.map (·.identifier) = (names.filterMap c.declaration?).map (·.identifier) :=
      eq_of_sublist_of_mem_iff (hnames.map (Option.some_injective _)) h.inOrder hlisted.inOrder
        fun id => by simp only [List.mem_map, hmem]
    -- A field of either list is what its name declares.
    have hfields : ∀ fs : List FieldDeclaration, (∀ f ∈ fs, f ∈ names.filterMap c.declaration?) →
        fs.map some = (fs.map (·.identifier)).map fun id => id.bind c.declaration? := by
      intro fs hfs
      rw [List.map_map]
      refine List.map_congr_left fun f hf => ?_
      obtain ⟨name, -, hname⟩ := List.mem_filterMap.mp (hfs f hf)
      simp [identifier_of_declaration? hname, hname]
    apply (List.map_injective_iff.mpr (Option.some_injective FieldDeclaration))
    rw [hfields _ fun f => (hmem f).mp, hfields _ fun _ hf => hf, hids]
  · rintro rfl
    exact listsColumns_filterMap c hnames

/-- Names declare the same fields if those of columns are the same. -/
theorem filterMap_declaration?_eq_iff {more : List String} :
    names.filterMap c.declaration? = more.filterMap c.declaration?
      ↔ names.filter c.isColumn = more.filter c.isColumn := by
  have hfilter : ∀ names : List String,
      names.filterMap c.declaration? = (names.filter c.isColumn).filterMap c.declaration? := by
    intro names
    rw [List.filterMap_filter]
    refine List.filterMap_congr fun name _ => ?_
    cases hname : c.declaration? name <;> simp [isColumn, hname]
  constructor
  · intro h
    apply (List.map_injective_iff.mpr (Option.some_injective String))
    rw [← identifiers_filterMap, ← identifiers_filterMap, h]
  · intro h
    rw [hfilter names, hfilter more, h]

/-! ## Resolved hints -/

/-- The hint that a written one resolves to, if it does. -/
def resolved (h : Hint) : Hint :=
  (h.resolve.toOption.getD h).typed

/-- The hints of a chain, each one resolved, where those of derived classes take the places of those
that they replace. -/
def mergedResolved (layers : List Layer) : List (String × Hint) :=
  putEntries [] ((allHints layers).map fun e => (e.1, resolved e.2))

theorem resolvedHints_eq (hres : c.Resolves) : c.resolvedHints = .ok (mergedResolved c.layers) := by
  rw [resolvedHints, mapM_eq_ok_map (g := fun e => (e.1, resolved e.2))]
  · rfl
  · intro e he
    obtain ⟨l, hl, he⟩ := List.mem_flatMap.mp he
    obtain ⟨h, hh⟩ := hres l (List.mem_reverse.mp hl) e he
    simp [hh, resolved, Except.toOption]

/-- The merged hints have the attributes as their names. -/
theorem keys_mergedResolved (c : SchemaClass) :
    (mergedResolved c.layers).map Prod.fst = c.attributes := by
  rw [mergedResolved, keys_putEntries_nil, List.map_map, allHints, List.map_flatMap]
  rfl

/-- The merged hint of a name is the one that the most derived layer gives it. -/
theorem contentAt?_mergedResolved {layers : List Layer}
    (hkeys : ∀ l ∈ layers, (l.hints.map Prod.fst).Nodup) (name : String) :
    contentAt? (mergedResolved layers) name
      = (layers.findSome? fun l => contentAt? l.hints name).map resolved := by
  induction layers with
  | nil => rfl
  | cons l layers ih =>
    have hl : ((l.hints.map fun e => (e.1, resolved e.2)).map Prod.fst).Nodup := by
      rw [List.map_map]
      exact hkeys l (List.mem_cons_self ..)
    have hsplit : mergedResolved (l :: layers)
        = putEntries (mergedResolved layers) (l.hints.map fun e => (e.1, resolved e.2)) := by
      simp [mergedResolved, allHints, putEntries_append]
    rw [hsplit, contentAt?_putEntries_of_nodup hl, contentAt?_map_content,
      ih fun l hl => hkeys l (List.mem_cons_of_mem _ hl), List.findSome?_cons]
    cases contentAt? l.hints name <;> rfl

theorem hint?_eq (hres : c.Resolves) (hkeys : ∀ l ∈ c.layers, (l.hints.map Prod.fst).Nodup)
    (name : String) : c.hint? name = contentAt? (mergedResolved c.layers) name := by
  rw [contentAt?_mergedResolved hkeys, hint?, writtenHint?]
  cases hwritten : c.layers.findSome? fun l => contentAt? l.hints name with
  | none => rfl
  | some h =>
    obtain ⟨l, hl, hcontent⟩ := List.exists_of_findSome?_eq_some hwritten
    obtain ⟨r, hr⟩ := hres l hl _ (mem_of_contentAt? hcontent)
    simp [resolved, hr, Except.toOption]

/-! ## Reading -/

/-- A field with a column is declared if its type name can be written. -/
theorem declare?_eq_ok_iff {h : Hint} {notes : List HintNote} {found : Option FieldDeclaration} :
    declare? name h notes = .ok found
      ↔ (∀ column, Hint.columnOf? notes = some column → ∃ typeName, h.writeName = .ok typeName)
        ∧ found = fieldOf? name h notes := by
  rw [declare?, fieldOf?]
  cases Hint.columnOf? notes with
  | none => simp [eq_comm]
  | some column =>
    simp only [bind_eq_ok_iff, mapError_eq_ok_iff, Option.map_some, Option.some.injEq, forall_eq']
    constructor
    · rintro ⟨typeName, hwritten, hfound⟩
      obtain ⟨-, rfl⟩ := Value.writing_eq_ok_iff.mp hwritten
      exact ⟨⟨_, hwritten⟩, (Except.ok.inj hfound).symm⟩
    · rintro ⟨⟨typeName, hwritten⟩, rfl⟩
      obtain ⟨-, rfl⟩ := Value.writing_eq_ok_iff.mp hwritten
      exact ⟨_, hwritten, rfl⟩

theorem declarations_eq_ok_iff {hinted : List (String × Hint × List HintNote)} :
    declarations hinted = .ok fields
      ↔ (∀ f ∈ hinted, ∀ column, Hint.columnOf? f.2.2 = some column →
          ∃ typeName, f.2.1.writeName = .ok typeName)
        ∧ fields = hinted.filterMap fun f => fieldOf? f.1 f.2.1 f.2.2 := by
  simp only [declarations, bind_eq_ok_iff, mapM_eq_ok_iff fun _ _ => declare?_eq_ok_iff]
  constructor
  · rintro ⟨found, ⟨hwritten, rfl⟩, hfields⟩
    refine ⟨hwritten, ?_⟩
    rw [← Except.ok.inj hfields, List.filterMap_map]
    rfl
  · rintro ⟨hwritten, rfl⟩
    refine ⟨_, ⟨hwritten, rfl⟩, ?_⟩
    rw [List.filterMap_map]
    rfl

theorem fieldDeclarations_eq (hmodel : ¬ c.ShowsModelTable) :
    c.fieldDeclarations = (do
      declarations ((← c.hintedFields).map fun (name, h) => (name, h, h.split.2))) := by
  rw [fieldDeclarations]
  split
  next entries htable hvalidates => exact absurd ⟨⟨entries, htable⟩, hvalidates⟩ hmodel
  next => rfl

/-- The fields of a class are its names with their merged hints. -/
theorem hintedFields_eq (hres : c.Resolves) :
    c.hintedFields = .ok (c.readNames.filterMap fun name =>
      (contentAt? (mergedResolved c.layers) name).map fun h => (name, h)) := by
  rw [hintedFields, resolvedHints_eq hres, readNames]
  cases c.recordTable? with
  | some table =>
    simp only [fieldNames, List.filterMap_map]
    rfl
  | none =>
    have hkeys : ((mergedResolved c.layers).map Prod.fst).Nodup :=
      nodup_keys_putEntries List.nodup_nil
    have hentries : c.attributes.filterMap (fun name =>
        (contentAt? (mergedResolved c.layers) name).map fun h => (name, h))
        = (mergedResolved c.layers).filterMap some := by
      rw [← keys_mergedResolved, List.filterMap_map]
      refine List.filterMap_congr fun e he => ?_
      rw [Function.comp_apply, contentAt?_of_mem hkeys he]
      rfl
    rw [hentries, List.filterMap_some]
    rfl

/-- A class is read by the declarations of its names, if their type names can be written. -/
theorem fieldDeclarations_eq_ok_iff (hmodel : ¬ c.ShowsModelTable) (hres : c.Resolves)
    (hkeys : ∀ l ∈ c.layers, (l.hints.map Prod.fst).Nodup) :
    c.fieldDeclarations = .ok fields
      ↔ c.NamesTypes ∧ fields = c.readNames.filterMap c.declaration? := by
  rw [fieldDeclarations_eq hmodel, hintedFields_eq hres]
  show declarations (List.map _ (c.readNames.filterMap _)) = _ ↔ _
  rw [declarations_eq_ok_iff, List.map_filterMap, List.filterMap_filterMap]
  have hfields : c.readNames.filterMap (fun name => (Option.map
        (fun x : String × Hint => (x.1, x.2, x.2.split.2))
        ((contentAt? (mergedResolved c.layers) name).map fun h => (name, h))).bind
          fun f => fieldOf? f.1 f.2.1 f.2.2) = c.readNames.filterMap c.declaration? := by
    refine List.filterMap_congr fun name _ => ?_
    rw [declaration?, hint?_eq hres hkeys]
    cases contentAt? (mergedResolved c.layers) name <;> rfl
  rw [hfields]
  refine and_congr ⟨fun h name hname hint column hhint hcarries => ?_,
    fun h f hf column hcolumn => ?_⟩ Iff.rfl
  · rw [hint?_eq hres hkeys] at hhint
    refine h (name, hint, hint.split.2) (List.mem_filterMap.mpr ⟨name, hname, ?_⟩) column
      (Hint.carries_iff.mp hcarries)
    rw [hhint]
    rfl
  · obtain ⟨name, hname, hfound⟩ := List.mem_filterMap.mp hf
    obtain ⟨e, he, rfl⟩ := Option.map_eq_some_iff.mp hfound
    obtain ⟨hint, hhint, rfl⟩ := Option.map_eq_some_iff.mp he
    rw [← hint?_eq hres hkeys] at hhint
    exact h name hname hint column hhint (Hint.carries_iff.mpr hcolumn)

theorem describe_eq_ok_iff {defaultVersion : Value} {d : TypeDeclaration} :
    c.describe defaultVersion = .ok d
      ↔ ∃ fields, c.fieldDeclarations = .ok fields
        ∧ d = ⟨c.own.module, c.own.name, c.markedVersion?.getD defaultVersion, fields⟩ := by
  rw [describe, bind_eq_ok_iff]
  exact exists_congr fun fields =>
    and_congr_right fun _ => ⟨fun h => (Except.ok.inj h).symm, fun h => congrArg _ h.symm⟩

/-! ## Collected columns -/

theorem recordTable?_eq_some_iff :
    c.recordTable? = some table ↔
      ∃ l, c.layers.find? Layer.isRecord = some l ∧ l.recordTable = some table := by
  rw [recordTable?]
  induction c.layers with
  | nil => simp
  | cons l layers ih =>
    rw [List.findSome?_cons, List.find?_cons, Layer.isRecord]
    cases h : l.recordTable with
    | none => simpa [h] using ih
    | some table' => simp [h]

theorem mem_fieldNames : name ∈ fieldNames table ↔ (name, RecordRole.field) ∈ table := by
  simp [fieldNames]

/-- What a record class collected are attributes, and no name comes twice. -/
theorem Coherent.fieldNames_attributes (h : Coherent classes) (hc : c ∈ classes)
    (htable : c.recordTable? = some table) :
    (fieldNames table).Nodup ∧ fieldNames table ⊆ c.attributes := by
  obtain ⟨b, hb, htable, hchain⟩ := h.of_recordTable? hc htable
  have hkeys := h.keys_recordTable b hb table htable
  have hsub : (fieldNames table).Sublist
      (declaredNames (b.layers.filter Layer.isRecord)).eraseDups := by
    rw [← hkeys]
    exact List.filter_sublist.map _
  refine ⟨(nodup_eraseDups _).sublist hsub, fun name hname => ?_⟩
  have hdeclared := List.mem_eraseDups.mp (hsub.subset hname)
  rw [attributes, List.mem_eraseDups]
  exact declaredNames_subset (List.filter_sublist.trans hchain).subset hdeclared

/-- A class is read completely exactly if its columns are collected. -/
theorem Coherent.listsColumns_iff (h : Coherent classes) (hc : c ∈ classes) :
    c.ListsColumns c.attributes (c.readNames.filterMap c.declaration?) ↔ c.CollectsColumns := by
  have hattributes : c.attributes.Nodup := nodup_eraseDups _
  rw [SchemaClass.listsColumns_iff hattributes, filterMap_declaration?_eq_iff, readNames,
    CollectsColumns]
  cases htable : c.recordTable? with
  | none => simp
  | some table =>
    obtain ⟨hnodup, hsub⟩ := h.fieldNames_attributes hc htable
    simp only [Option.some.injEq, forall_eq']
    constructor
    · intro heq
      rw [← heq]
      exact List.filter_sublist
    · intro hcollected
      rw [← filter_mem_of_sublist hcollected hnodup]
      refine List.filter_congr fun name hname => ?_
      simp [hsub hname]

/-- Layers that declare none of the chosen names can be left out. -/
theorem filter_declaredNames {layers part : List Layer} (p : String → Bool)
    (hpart : part.Sublist layers) (honce : (layers.map (·.serial)).Nodup)
    (h : ∀ l ∈ layers, ∀ e ∈ l.hints, p e.1 = true → l ∈ part) :
    (declaredNames layers).filter p = (declaredNames part).filter p := by
  induction hpart with
  | slnil => rfl
  | @cons part layers l hpart ih =>
    rw [List.map_cons, List.nodup_cons] at honce
    have hnone : (l.hints.map Prod.fst).filter p = [] := by
      rw [List.filter_eq_nil_iff]
      intro name hname hp
      obtain ⟨e, he, rfl⟩ := List.mem_map.mp hname
      have hl := hpart.subset (h l (List.mem_cons_self ..) e he hp)
      exact honce.1 (List.mem_map_of_mem hl)
    rw [declaredNames_cons, List.filter_append, hnone, List.append_nil]
    exact ih honce.2 fun l hl => h l (List.mem_cons_of_mem _ hl)
  | @cons_cons part layers l hpart ih =>
    rw [List.map_cons, List.nodup_cons] at honce
    have hrest : ∀ l' ∈ layers, ∀ e ∈ l'.hints, p e.1 = true → l' ∈ part := by
      intro l' hl' e he hp
      have hmem := h l' (List.mem_cons_of_mem _ hl') e he hp
      refine (List.mem_cons.mp hmem).resolve_left ?_
      rintro rfl
      exact honce.1 (List.mem_map_of_mem hl')
    rw [declaredNames_cons, declaredNames_cons, List.filter_append, List.filter_append,
      ih honce.2 hrest]

/-- A class whose columns are all declared by record classes of the chain of its nearest record
class, and as fields, has them collected. -/
theorem Coherent.collectsColumns_of_declaresWithin (h : Coherent classes) (hc : c ∈ classes)
    (hb : b ∈ classes) (hnearest : c.layers.find? Layer.isRecord = some b.own)
    (hwithin : c.DeclaresWithin b) : c.CollectsColumns := by
  intro table htable
  obtain ⟨l, hl, htable⟩ := recordTable?_eq_some_iff.mp htable
  cases hnearest.symm.trans hl
  -- The class whose layer is found is the given one, since no two classes have one number.
  obtain ⟨b', hb', hown, hchain⟩ :=
    (h.inherits c hc).of_mem_layers hc (List.mem_of_find?_eq_some hnearest)
  obtain rfl := h.ext hb' hb (congrArg Layer.serial hown)
  have hkeys := h.keys_recordTable b' hb' table htable
  -- The layers that the record class does not collect from declare no columns.
  have hcolumns : c.attributes.filter c.isColumn = (table.map Prod.fst).filter c.isColumn := by
    rw [hkeys, attributes, filter_eraseDups, filter_eraseDups,
      filter_declaredNames c.isColumn (List.filter_sublist.trans hchain) (h.inherits c hc).once]
    intro l hl e he hcolumn
    obtain ⟨hmem, hrecord, -⟩ := hwithin l hl e he hcolumn
    exact List.mem_filter.mpr ⟨hmem, hrecord⟩
  have hroles : (table.map Prod.fst).filter c.isColumn = (fieldNames table).filter c.isColumn := by
    rw [fieldNames, List.filter_map, List.filter_map, List.filter_filter]
    congr 1
    refine List.filter_congr fun e he => ?_
    obtain ⟨l, hl, -, h', hdeclared, hrole⟩ :=
      h.role_recordTable b' hb' table htable e he
    cases hcolumn : c.isColumn e.1 with
    | false => simp [hcolumn]
    | true =>
      obtain ⟨-, -, hfield⟩ := hwithin l (hchain.subset hl) _ hdeclared hcolumn
      simp [hcolumn, hrole, hfield]
  rw [hcolumns, hroles]
  exact List.filter_sublist

/-- **A class is read completely exactly if its columns are collected.** Whatever record classes and
plain classes a class derives from: if it is not read by a table of model fields and all its hints
resolve, its declaration can be read exactly if the type names of its columns can be written. It
lists every attribute whose most derived hint carries a column, once, in the place where the
attribute was first declared, with the first column and the type name of that hint, and it lists
nothing else, exactly if there is no record class in the chain or the nearest one collected these
attributes as fields and in this order. In any case it lists the fields that this class collected.
They are collected whenever all their declarations are made by record classes of its chain and as
fields; but what only other classes declare is never listed. -/
theorem describe_listsColumns (hclasses : Defined classes) (hc : c ∈ classes)
    (hmodel : ¬ c.ShowsModelTable) (hres : c.Resolves) (defaultVersion : Value) :
    ((∃ d, c.describe defaultVersion = .ok d) ↔ c.NamesTypes)
      ∧ (∀ d, c.describe defaultVersion = .ok d →
        (c.ListsColumns c.attributes d.fields ↔ c.CollectsColumns)
          ∧ ∀ table, c.recordTable? = some table → c.ListsColumns (fieldNames table) d.fields)
      ∧ ((∀ l ∈ c.layers, l.isRecord = false) → c.CollectsColumns)
      ∧ ∀ b ∈ classes, c.layers.find? Layer.isRecord = some b.own →
        (c.DeclaresWithin b → c.CollectsColumns)
          ∧ ∀ d, c.describe defaultVersion = .ok d → ∀ f ∈ d.fields,
            ∃ l ∈ b.layers, l.isRecord = true ∧ ∃ e ∈ l.hints, f.identifier = some e.1 := by
  have hcoherent : Coherent (known classes) := hclasses.coherent
  have hknown : c ∈ known classes := List.mem_cons_of_mem _ hc
  have hkeys : ∀ l ∈ c.layers, (l.hints.map Prod.fst).Nodup := by
    intro l hl
    obtain ⟨b, hb, rfl, -⟩ := (hcoherent.inherits c hknown).of_mem_layers hknown hl
    exact (hcoherent.collects b hb).hints
  have hfields : ∀ d, c.describe defaultVersion = .ok d →
      d.fields = c.readNames.filterMap c.declaration? := by
    intro d hd
    obtain ⟨fields, hfields, rfl⟩ := describe_eq_ok_iff.mp hd
    exact ((fieldDeclarations_eq_ok_iff hmodel hres hkeys).mp hfields).2
  have hread : ∀ d, c.describe defaultVersion = .ok d → ∀ table, c.recordTable? = some table →
      d.fields = (fieldNames table).filterMap c.declaration? := by
    intro d hd table htable
    rw [hfields d hd, readNames, htable]
  refine ⟨?_, fun d hd => ⟨?_, ?_⟩, ?_, ?_⟩
  · simp only [describe_eq_ok_iff, fieldDeclarations_eq_ok_iff hmodel hres hkeys]
    constructor
    · rintro ⟨-, -, ⟨hnames, -⟩, -⟩
      exact hnames
    · exact fun hnames => ⟨_, _, ⟨hnames, rfl⟩, rfl⟩
  · rw [hfields d hd]
    exact hcoherent.listsColumns_iff hknown
  · intro table htable
    obtain ⟨hnodup, -⟩ := hcoherent.fieldNames_attributes hknown htable
    exact (listsColumns_iff hnodup).mpr (hread d hd table htable)
  · intro hplain table htable
    obtain ⟨l, hl, -⟩ := recordTable?_eq_some_iff.mp htable
    have hrecord : l.isRecord = true := by simpa using List.find?_some hl
    rw [hplain l (List.mem_of_find?_eq_some hl)] at hrecord
    cases hrecord
  · intro b hb hnearest
    have hb : b ∈ known classes := List.mem_cons_of_mem _ hb
    refine ⟨hcoherent.collectsColumns_of_declaresWithin hknown hb hnearest, ?_⟩
    intro d hd f hf
    have hrecord : b.own.isRecord = true := by simpa using List.find?_some hnearest
    obtain ⟨table, htable⟩ := Option.isSome_iff_exists.mp hrecord
    rw [hread d hd table (recordTable?_eq_some_iff.mpr ⟨b.own, hnearest, htable⟩)] at hf
    obtain ⟨name, hname, hdeclares⟩ := List.mem_filterMap.mp hf
    obtain ⟨l, hl, hrecord, hint, hdeclared, -⟩ :=
      hcoherent.role_recordTable b hb table htable _ (mem_fieldNames.mp hname)
    exact ⟨l, hl, hrecord, _, hdeclared, identifier_of_declaration? hdeclares⟩

/-! ## Books -/

/-- A hint with a column. -/
def columnHint (typeName : String) : Hint :=
  .annotated (Hint.builtin typeName) [.column {}]

/-- A record class with one column. -/
def item : SchemaClass where
  own := {
    serial := 2, name := "Item", module := "app", hints := [("mId", columnHint "int")]
    recordTable := some [("mId", .field)], shownTable := some [("mId", .field)] }

/-- A class that derives from it and has a column of its own, with the tables that it gets. -/
def book (recordTable : Option RecordTable) (shown : RecordTable) : SchemaClass where
  own := {
    serial := 3, name := "Book", module := "app", hints := [("mTitle", columnHint "str")]
    recordTable, shownTable := some shown }
  inherited := [item.own]

/-- The class as a record class. -/
def recordBook : SchemaClass :=
  book (some [("mId", .field), ("mTitle", .field)]) [("mId", .field), ("mTitle", .field)]

/-- The class as a plain one. -/
def plainBook : SchemaClass :=
  book none [("mId", .field)]

/-- The definition of the record class. -/
def itemDefinition : ClassDefinition where
  serial := 2
  name := "Item"
  module := "app"
  kind := .record
  hints := [("mId", columnHint "int")]

/-- The definition of the class that derives from it. -/
def bookDefinition (kind : ClassKind) : ClassDefinition where
  serial := 3
  name := "Book"
  module := "app"
  kind
  bases := [item]
  hints := [("mTitle", columnHint "str")]

theorem defined_books (kind : ClassKind) (h : (bookDefinition kind).define = .ok c) :
    Defined [c, item] := by
  have hitem : Defined [item] := by
    refine .cons .nil (d := itemDefinition) ?_ ?_ rfl
    · simp [itemDefinition]
    · simp [known, modelBase, Layer.modelBase, Layer.modelSerial, itemDefinition]
  refine .cons hitem ?_ ?_ h
  · simp [known, bookDefinition]
  · simp [known, modelBase, Layer.modelBase, Layer.modelSerial, item, bookDefinition]

theorem resolves_book (recordTable : Option RecordTable) (shown : RecordTable) :
    (book recordTable shown).Resolves := by
  have htitle : (columnHint "str").resolve = .ok (columnHint "str") := rfl
  have hid : (columnHint "int").resolve = .ok (columnHint "int") := rfl
  simp [Resolves, layers, book, item, htitle, hid]

theorem not_showsModelTable_book (recordTable : Option RecordTable) (shown : RecordTable) :
    ¬ (book recordTable shown).ShowsModelTable := by
  simp [ShowsModelTable, validates, layers, book, item]

/-- A record class that derives from another one is read with the columns of both. -/
theorem describe_recordBook :
    ∃ d, recordBook.describe (.int 1) = .ok d
      ∧ recordBook.ListsColumns ["mId", "mTitle"] d.fields
      ∧ d.fields.map (·.identifier) = [some "mId", some "mTitle"] := by
  obtain ⟨hreadable, hlisted, -, hnearest⟩ :=
    describe_listsColumns (defined_books .record (c := recordBook) rfl)
      (List.mem_cons_self ..) (not_showsModelTable_book _ _) (resolves_book _ _) (.int 1)
  have hwithin : recordBook.DeclaresWithin recordBook := by
    simp [DeclaresWithin, layers, recordBook, book, item, Layer.isRecord, columnHint,
      ClassDefinition.recordRole, Hint.isClassVar, Hint.isInitVar]
  have hcollects := (hnearest recordBook (List.mem_cons_self ..) rfl).1 hwithin
  have hattributes : recordBook.attributes = ["mId", "mTitle"] := by decide
  have hnames : recordBook.NamesTypes := by
    intro name hname h column hhint _
    rcases List.mem_pair.mp hname with rfl | rfl
    · obtain rfl : columnHint "int" = h := Option.some.inj hhint
      exact ⟨_, rfl⟩
    · obtain rfl : columnHint "str" = h := Option.some.inj hhint
      exact ⟨_, rfl⟩
  obtain ⟨d, hd⟩ := hreadable.mpr hnames
  have hlists := (hlisted d hd).1.mpr hcollects
  refine ⟨d, hd, hattributes ▸ hlists, ?_⟩
  cases hd
  rfl

/-- The column of a plain class that derives from a record class is lost. -/
theorem not_listsColumns_plainBook :
    Defined [plainBook, item] ∧ ¬ plainBook.ShowsModelTable ∧ plainBook.Resolves
      ∧ plainBook.DeclaresColumn "mTitle" ⟨some "mTitle", some "str", {}⟩
      ∧ ∃ d, plainBook.describe (.int 1) = .ok d
        ∧ d.fields.map (·.identifier) = [some "mId"]
        ∧ ¬ plainBook.ListsColumns plainBook.attributes d.fields := by
  have hcolumn : plainBook.DeclaresColumn "mTitle" ⟨some "mTitle", some "str", {}⟩ :=
    declaration?_eq_some_iff.mp rfl
  refine ⟨defined_books .plain rfl, not_showsModelTable_book _ _, resolves_book _ _,
    hcolumn, _, rfl, rfl, fun h => ?_⟩
  -- The declared field would have to be among those that are read.
  have hmem := (h.mem_iff _).mpr ⟨"mTitle", by decide, hcolumn⟩
  have hid := List.mem_map_of_mem (f := (·.identifier)) hmem
  exact absurd hid (by decide)

end SchemaClass

end RecordForge

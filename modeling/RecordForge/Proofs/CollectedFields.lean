import RecordForge.Proofs.Entries
import RecordForge.Proofs.ResolutionOrder

/-!
# Collected fields

A record class collects names once, when it is defined: those in the tables that the layers of its
chain show, and its own. Since every chain keeps the chains that it is made of, nothing of this
depends on how the tables were put together: the names are those that the record classes of the
chain declare, base classes first, each in the place where it was first declared
(`keys_recordTable`), and what a name stands for is what one of these declarations makes of it
(`role_recordTable`). What a class declares that is no record class itself is never collected.
-/

namespace RecordForge

/-- Whether the class of the layer collects the names of its fields. -/
def Layer.isRecord (l : Layer) : Bool :=
  l.recordTable.isSome

/-- The names that layers declare, base classes first. -/
def declaredNames (layers : List Layer) : List String :=
  layers.reverse.flatMap fun l => l.hints.map Prod.fst

section declaredNames

variable {layers more : List Layer} {name : String}

theorem declaredNames_cons (l : Layer) (layers : List Layer) :
    declaredNames (l :: layers) = declaredNames layers ++ l.hints.map Prod.fst := by
  simp [declaredNames]

theorem mem_declaredNames :
    name ∈ declaredNames layers ↔ ∃ l ∈ layers, name ∈ l.hints.map Prod.fst := by
  simp [declaredNames]

theorem declaredNames_subset (h : layers ⊆ more) : declaredNames layers ⊆ declaredNames more := by
  intro name hname
  obtain ⟨l, hl, hname⟩ := mem_declaredNames.mp hname
  exact mem_declaredNames.mpr ⟨l, h hl, hname⟩

end declaredNames

namespace ClassDefinition

/-- The names in the table that a layer shows. -/
def shownNames (l : Layer) : List String :=
  (l.shownTable.getD []).map Prod.fst

/-- The names that a record class collects: those shown, base classes first, then its own. -/
theorem keys_collectRecord (inherited : List Layer) (hints : List (String × Hint)) :
    (collectRecord inherited hints).map Prod.fst
      = (inherited.reverse.flatMap shownNames ++ hints.map Prod.fst).eraseDups := by
  rw [collectRecord, ← putEntries_append, keys_putEntries_nil, List.map_append, List.map_flatMap,
    List.map_map]
  rfl

/-- What a name stands for comes from a table that is shown or from the class itself. -/
theorem mem_collectRecord {inherited : List Layer} {hints : List (String × Hint)}
    {e : String × RecordRole} (h : e ∈ collectRecord inherited hints) :
    (∃ l ∈ inherited, ∃ table, l.shownTable = some table ∧ e ∈ table)
      ∨ ∃ h, (e.1, h) ∈ hints ∧ e.2 = recordRole h := by
  rw [collectRecord, ← putEntries_append] at h
  rcases List.mem_append.mp ((mem_of_mem_putEntries h).resolve_left List.not_mem_nil)
    with hshown | hown
  · obtain ⟨l, hl, he⟩ := List.mem_flatMap.mp hshown
    refine Or.inl ⟨l, List.mem_reverse.mp hl, ?_⟩
    cases htable : l.shownTable with
    | none => simp [htable] at he
    | some table => exact ⟨table, rfl, by simpa [htable] using he⟩
  · obtain ⟨own, hin, rfl⟩ := List.mem_map.mp hown
    exact Or.inr ⟨own.2, hin, rfl⟩

end ClassDefinition

namespace SchemaClass

variable {classes : List SchemaClass} {b c : SchemaClass} {table : RecordTable}

/-- What the definition of a class makes of its own hints and of the tables that it inherits. -/
structure Collects (c : SchemaClass) : Prop where
  hints : (c.own.hints.map Prod.fst).Nodup
  shown : c.own.shownTable = c.recordTable?
  collected : ∀ table, c.own.recordTable = some table →
    table = ClassDefinition.collectRecord c.inherited c.own.hints

theorem collects_of_define {d : ClassDefinition} (h : d.define = .ok c) : Collects c := by
  obtain ⟨-, collected, hown⟩ := ClassDefinition.of_define h
  have hhints : c.own.hints = putEntries [] d.hints := by
    rw [hown, ClassDefinition.layer]
    split <;> rfl
  refine ⟨?_, ?_, ?_⟩
  · rw [hhints]
    exact nodup_keys_putEntries List.nodup_nil
  · rw [recordTable?, layers, List.findSome?_cons, hown, ClassDefinition.layer]
    split <;> rfl
  · intro table htable
    rw [hhints]
    rw [hown, ClassDefinition.layer] at htable
    split at htable <;> cases htable
    rfl

/-- Consistent classes, each with what its definition makes of its chain. -/
structure Coherent (classes : List SchemaClass) : Prop extends Consistent classes where
  collects : ∀ c ∈ classes, Collects c

theorem Defined.collects (h : Defined classes) : ∀ c ∈ known classes, Collects c := by
  induction h with
  | nil =>
    intro c hc
    obtain rfl := List.mem_singleton.mp hc
    exact ⟨List.nodup_nil, rfl, fun table htable => by cases htable⟩
  | cons earlier bases fresh define ih =>
    intro b hb
    rcases List.mem_cons.mp hb with rfl | hb
    · exact ih _ (List.mem_cons_self ..)
    · rcases List.mem_cons.mp hb with rfl | hb
      · exact collects_of_define define
      · exact ih b (List.mem_cons_of_mem _ hb)

/-- The classes of a program are coherent. -/
theorem Defined.coherent (h : Defined classes) : Coherent (known classes) :=
  ⟨h.consistent, h.collects⟩

/-- The table that a class shows is that of a record class whose chain it keeps. -/
theorem Consistent.of_recordTable? (h : Consistent classes) (hc : c ∈ classes)
    (htable : c.recordTable? = some table) :
    ∃ b ∈ classes, b.own.recordTable = some table ∧ b.layers.Sublist c.layers := by
  obtain ⟨l, hl, htable⟩ := List.exists_of_findSome?_eq_some htable
  obtain ⟨b, hb, rfl, hchain⟩ := (h.inherits c hc).of_mem_layers hc hl
  exact ⟨b, hb, htable, hchain⟩

/-- The table that an inherited layer shows is that of a record class whose chain is inherited. -/
theorem Coherent.of_shownTable (h : Coherent classes) (hc : c ∈ classes) {l : Layer}
    (hl : l ∈ c.inherited) (hshown : l.shownTable = some table) :
    ∃ b ∈ classes, b.own.recordTable = some table ∧ b.layers.Sublist c.inherited := by
  obtain ⟨b, hb, rfl, hchain⟩ := (h.inherits c hc).layer l hl
  rw [(h.collects b hb).shown] at hshown
  obtain ⟨b', hb', htable, hchain'⟩ := h.of_recordTable? hb hshown
  exact ⟨b', hb', htable, hchain'.trans hchain⟩

/-- What a name stands for in a table is what a declaration in a record class of the chain makes of
it. -/
theorem Coherent.role_recordTable (h : Coherent classes) :
    ∀ c ∈ classes, ∀ table, c.own.recordTable = some table → ∀ e ∈ table,
      ∃ l ∈ c.layers, l.isRecord = true
        ∧ ∃ h, (e.1, h) ∈ l.hints ∧ e.2 = ClassDefinition.recordRole h := by
  apply chain_induction
  intro c hc ih table htable e he
  rw [(h.collects c hc).collected table htable] at he
  rcases ClassDefinition.mem_collectRecord he with ⟨l, hl, shown, hshown, he⟩ | hown
  · obtain ⟨b, hb, hb', hchain⟩ := h.of_shownTable hc hl hshown
    obtain ⟨l', hl', hrole⟩ := ih b hb hchain shown hb' e he
    exact ⟨l', List.mem_cons_of_mem _ (hchain.subset hl'), hrole⟩
  · exact ⟨c.own, List.mem_cons_self .., by simp [Layer.isRecord, htable], hown⟩

/-- What a layer shows behind layers with its whole chain are the names that it declares itself as
a record class; all others in its table were declared in the chain. -/
theorem Coherent.eraseDups_shownNames (h : Coherent classes) (hb : b ∈ classes)
    (hkeys : ∀ b' ∈ classes, b'.layers.Sublist b.layers →
      ∀ table, b'.own.recordTable = some table →
        table.map Prod.fst = (declaredNames (b'.layers.filter Layer.isRecord)).eraseDups)
    {behind : List Layer} (hbehind : b.inherited.Sublist behind) :
    (declaredNames (behind.filter Layer.isRecord) ++ ClassDefinition.shownNames b.own).eraseDups
      = (declaredNames ((b.own :: behind).filter Layer.isRecord)).eraseDups := by
  have hshown : b.own.shownTable = b.recordTable? := (h.collects b hb).shown
  -- A record class shows its own table, any other class that of a record class in its chain.
  by_cases hrecord : b.own.isRecord = true
  · obtain ⟨table, htable⟩ := Option.isSome_iff_exists.mp hrecord
    have hnames : ClassDefinition.shownNames b.own
        = (declaredNames (b.inherited.filter Layer.isRecord)
          ++ b.own.hints.map Prod.fst).eraseDups := by
      have htable? : b.recordTable? = some table := by
        rw [recordTable?, layers, List.findSome?_cons, htable]
      rw [ClassDefinition.shownNames, hshown, htable?, Option.getD_some,
        hkeys b hb (List.Sublist.refl _) table htable, layers, List.filter_cons_of_pos hrecord,
        declaredNames_cons]
    rw [hnames, eraseDups_append_eraseDups, List.filter_cons_of_pos hrecord, declaredNames_cons]
    exact eraseDups_append_append (declaredNames_subset (hbehind.filter _).subset) _
  · rw [List.filter_cons_of_neg hrecord]
    cases htable : b.own.shownTable with
    | none => simp [ClassDefinition.shownNames, htable]
    | some table =>
      obtain ⟨b', hb', htable', hchain⟩ := h.of_recordTable? hb (hshown.symm.trans htable)
      have hinherited : b'.layers.Sublist b.inherited := by
        rcases List.cons_sublist_cons'.mp hchain with hchain | ⟨heq, -⟩
        · exact hchain
        · rw [Layer.isRecord, ← heq, htable'] at hrecord
          exact absurd rfl hrecord
      have hnames : ClassDefinition.shownNames b.own
          = (declaredNames (b'.layers.filter Layer.isRecord)).eraseDups := by
        rw [ClassDefinition.shownNames, htable, ← hkeys b' hb' hchain table htable']
        rfl
      have hsub := declaredNames_subset ((hinherited.trans hbehind).filter Layer.isRecord).subset
      rw [hnames, eraseDups_append_eraseDups]
      simpa using eraseDups_append_append hsub []

/-- **A record class collects what the record classes of its chain declare**, base classes first,
each name once and in the place where it was first declared. -/
theorem Coherent.keys_recordTable (h : Coherent classes) :
    ∀ c ∈ classes, ∀ table, c.own.recordTable = some table →
      table.map Prod.fst = (declaredNames (c.layers.filter Layer.isRecord)).eraseDups := by
  apply chain_induction
  intro c hc ih table htable
  -- Over the inherited layers, from the most basic one on.
  have hinherited : ∀ behind, behind <:+ c.inherited →
      (behind.reverse.flatMap ClassDefinition.shownNames).eraseDups
        = (declaredNames (behind.filter Layer.isRecord)).eraseDups := by
    intro behind
    induction behind with
    | nil => exact fun _ => rfl
    | cons l behind ihbehind =>
      intro hsuffix
      obtain ⟨b, hb, rfl, hchain, hbehind⟩ := (h.inherits c hc).behind hsuffix
      have hbasic := ihbehind ((List.suffix_cons ..).trans hsuffix)
      rw [List.reverse_cons, List.flatMap_append, List.flatMap_singleton,
        eraseDups_append_congr hbasic]
      exact h.eraseDups_shownNames hb (fun b' hb' hsub => ih b' hb' (hsub.trans hchain)) hbehind
  have hrecord : c.own.isRecord = true := by simp [Layer.isRecord, htable]
  rw [(h.collects c hc).collected table htable, ClassDefinition.keys_collectRecord, layers,
    List.filter_cons_of_pos hrecord, declaredNames_cons]
  exact eraseDups_append_congr (hinherited _ (List.suffix_refl _)) _

end SchemaClass

end RecordForge

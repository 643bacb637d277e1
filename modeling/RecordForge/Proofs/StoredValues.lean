import RecordForge.Proofs.Conversion
import RecordForge.Proofs.Entries

/-!
# Stored values

A record is made without columns and values, and changed by registering columns and setting values.
Whatever calls are made on it, and whether they succeed, each value that it holds belongs to a
registered column and fits that column (`stored_fits`). `Sound` is the invariant: it is kept by
registering one column (`Sound.addColumn`) and by setting one value (`Sound.setValue`), and so by
every run (`Sound.performAll`). Values are held by name, so the columns of a run have to differ in
their names: a column that took the place of another one would find a value that is not its own.
-/

namespace RecordForge

/-- A column is in a template exactly if it is the very one that its name stands for. -/
theorem Template.contains_iff {t : Template} {c : Column} :
    t.contains c = true ↔ ∃ d, t.column? c.name = some d ∧ d.label = c.label := by
  rw [contains, Option.any_eq_true]
  simp

namespace Record

/-! ## Runs of calls -/

/-- A call that changes a record. -/
inductive Call where
  | add (columns : List Column)
  | set (column : Column) (value : Value)

namespace Call

/-- The columns that a call mentions. -/
def columns : Call → List Column
  | .add columns => columns
  | .set column _ => [column]

/-- The record after a call: the old one if the call failed. -/
def perform (r : Record) : Call → Record
  | .add columns => r.addColumns columns
  | .set column value => (r.setValue column value).toOption.getD r

/-- The record after calls in turn. -/
def performAll (r : Record) (calls : List Call) : Record :=
  calls.foldl perform r

end Call

/-- Columns that differ have different names. -/
def ToldApart (columns : List Column) : Prop :=
  ∀ c ∈ columns, ∀ d ∈ columns, c.name = d.name → c = d

/-! ## The invariant -/

/-- Each column stands under its name, no name stands twice, the columns are among the given ones,
and each value belongs to a registered column and fits it. -/
structure Sound (columns : List Column) (r : Record) : Prop where
  named : ∀ e ∈ r.template.entries, e.1 = e.2.name
  distinct : (r.template.entries.map Prod.fst).Nodup
  known : ∀ e ∈ r.template.entries, e.2 ∈ columns
  stored : ∀ name v, contentAt? r.values name = some v →
    ∃ c, r.template.column? name = some c ∧ c.Fits v

variable {columns : List Column} {r : Record} {c d : Column} {name : String} {v : Value}

theorem sound_fresh (columns : List Column) (context version : Value) :
    Sound columns { context, version } :=
  ⟨List.forall_mem_nil _, List.nodup_nil, List.forall_mem_nil _, fun _ _ h => nomatch h⟩

namespace Sound

/-- The column registered under a name has that name, and is one of the given columns. -/
theorem of_column? (h : Sound columns r) (hc : r.template.column? name = some c) :
    name = c.name ∧ c ∈ columns :=
  ⟨h.named _ (mem_of_contentAt? hc), h.known _ (mem_of_contentAt? hc)⟩

/-- Registering one more column keeps the invariant. -/
theorem addColumn (hcolumns : ToldApart columns) (h : Sound columns r) (hd : d ∈ columns) :
    Sound columns { r with template := ⟨putEntry r.template.entries d.name d⟩ } := by
  refine ⟨?_, nodup_keys_putEntry _ _ h.distinct, ?_, ?_⟩
  · intro e he
    rcases mem_of_mem_putEntry he with rfl | hold
    · rfl
    · exact h.named e hold
  · intro e he
    rcases mem_of_mem_putEntry he with rfl | hold
    · exact hd
    · exact h.known e hold
  · intro name v hv
    obtain ⟨c, hc, hfits⟩ := h.stored name v hv
    obtain ⟨hname, hin⟩ := h.of_column? hc
    show ∃ c, contentAt? (putEntry r.template.entries d.name d) name = some c ∧ c.Fits v
    rw [contentAt?_putEntry]
    by_cases heq : name = d.name
    · -- A column of that name was there already, and it is this one.
      obtain rfl := hcolumns c hin d hd (hname.symm.trans heq)
      exact ⟨c, if_pos heq, hfits⟩
    · exact ⟨c, (if_neg heq).trans hc, hfits⟩

theorem addColumns (hcolumns : ToldApart columns) :
    ∀ {cs : List Column}, (∀ d ∈ cs, d ∈ columns) → ∀ {r : Record}, Sound columns r →
      Sound columns (r.addColumns cs)
  | [], _, _, h => h
  | d :: cs, hin, r, h => by
    rw [List.forall_mem_cons] at hin
    exact addColumns hcolumns hin.2 (h.addColumn hcolumns hin.1)

/-- Setting a value keeps the invariant: what is stored is what the column makes of the value. -/
theorem setValue (hcolumns : ToldApart columns) (h : Sound columns r) (hc : c ∈ columns)
    {r' : Record} (hset : r.setValue c v = .ok r') : Sound columns r' := by
  obtain ⟨stored, haccept, rfl⟩ := setValue_eq_ok_iff.mp hset
  obtain ⟨hcontains, hnull, hconvert⟩ := accept_eq_ok_iff.mp haccept
  obtain ⟨d, hd, -⟩ := Template.contains_iff.mp hcontains
  -- The column that is registered under the name is the given one.
  obtain ⟨hname, hin⟩ := h.of_column? hd
  obtain rfl := hcolumns c hc d hin hname
  refine ⟨h.named, h.distinct, h.known, ?_⟩
  intro name w hw
  replace hw : contentAt? (putEntry r.values c.name stored) name = some w := hw
  rw [contentAt?_putEntry] at hw
  by_cases heq : name = c.name
  · rw [if_pos heq] at hw
    obtain rfl := Option.some.inj hw
    exact ⟨c, heq ▸ hd, Column.fits_of_convert hconvert hnull⟩
  · rw [if_neg heq] at hw
    exact h.stored name w hw

/-- Every call keeps the invariant. -/
theorem perform (hcolumns : ToldApart columns) (h : Sound columns r) {call : Call}
    (hcall : ∀ c ∈ call.columns, c ∈ columns) : Sound columns (call.perform r) := by
  cases call with
  | add cs => exact h.addColumns hcolumns hcall
  | set c v =>
    rw [Call.perform]
    cases hset : r.setValue c v with
    | error e => exact h
    | ok r' => exact h.setValue hcolumns (hcall c (List.mem_singleton_self c)) hset

/-- So does every run of calls. -/
theorem performAll (hcolumns : ToldApart columns) :
    ∀ {calls : List Call}, (∀ call ∈ calls, ∀ c ∈ call.columns, c ∈ columns) →
      ∀ {r : Record}, Sound columns r → Sound columns (Call.performAll r calls)
  | [], _, _, h => h
  | call :: calls, hin, r, h => by
    rw [List.forall_mem_cons] at hin
    exact performAll hcolumns hin.2 (h.perform hcolumns hin.1)

/-- The registered columns have the names under which they stand. -/
theorem names_columns (h : Sound columns r) :
    r.template.columns.map (·.name) = r.template.entries.map Prod.fst := by
  rw [Template.columns, List.map_map]
  exact List.map_congr_left fun e he => (h.named e he).symm

/-- A registered column is the one that its name stands for. -/
theorem column?_of_mem (h : Sound columns r) (hc : c ∈ r.template.columns) :
    r.template.column? c.name = some c := by
  obtain ⟨e, he, rfl⟩ := List.mem_map.mp hc
  apply contentAt?_of_mem h.distinct
  rw [← h.named e he]
  exact he

end Sound

/-! ## What a record holds -/

/-- **Every stored value fits its column.** Whatever columns are registered with a new record and
whatever values are set, in any order and with any success, if different columns have different
names: the value of a registered column fits the column; there is no value under any other name; and
the entries of the record are the registered columns' names, each once and in the order of the
template, with the value that the record gives for the column. -/
theorem stored_fits (context version : Value) (calls : List Call)
    (hcolumns : ToldApart (calls.flatMap Call.columns)) :
    let r := Call.performAll { context, version } calls
    (∀ c ∈ r.template.columns, ∀ v, contentAt? r.values c.name = some v → c.Fits v)
      ∧ (∀ name, contentAt? r.values name ≠ none → ∃ c ∈ r.template.columns, c.name = name)
      ∧ (r.template.columns.map (·.name)).Nodup
      ∧ r.toEntries = putEntries [] (r.template.columns.map fun c => (c.name, r.value c))
      ∧ r.toEntries.map Prod.fst = r.template.columns.map (·.name)
      ∧ ∀ c ∈ r.template.columns, contentAt? r.toEntries c.name = some (r.value c) := by
  intro r
  have hsound : Sound (calls.flatMap Call.columns) r :=
    (sound_fresh _ context version).performAll hcolumns fun call hcall c hc =>
      List.mem_flatMap.mpr ⟨call, hcall, hc⟩
  have hnodup : (r.template.columns.map (·.name)).Nodup := by
    rw [hsound.names_columns]
    exact hsound.distinct
  have hkeys : r.toEntries.map Prod.fst = r.template.columns.map (·.name) := by
    rw [toEntries, List.map_map]
    rfl
  refine ⟨?_, ?_, hnodup, ?_, hkeys, ?_⟩
  · intro c hc v hv
    obtain ⟨d, hd, hfits⟩ := hsound.stored c.name v hv
    rw [hsound.column?_of_mem hc] at hd
    obtain rfl := Option.some.inj hd
    exact hfits
  · intro name hname
    obtain ⟨v, hv⟩ := Option.ne_none_iff_exists'.mp hname
    obtain ⟨c, hc, -⟩ := hsound.stored name v hv
    exact ⟨c, List.mem_map_of_mem (mem_of_contentAt? hc), (hsound.of_column? hc).1.symm⟩
  · have hput := putEntries_nil_eq (hkeys ▸ hnodup : (r.toEntries.map Prod.fst).Nodup)
    exact hput.symm
  · intro c hc
    exact contentAt?_map hnodup hc

/-- A text column that takes no null. -/
def owner : Column where
  label := "owner"
  kind := some .text
  name := "owner"
  allowNull := .bool false

/-- Calls of which the last two fail: null is not taken, and there is no column for the rate. -/
def ownerCalls : List Call :=
  [.add [owner], .set owner (.int 7), .set owner .null, .set rate (.int 1)]

/-- A number is stored in a column of texts as its text, and what fails changes nothing. -/
theorem stored_owner :
    ToldApart (ownerCalls.flatMap Call.columns)
      ∧ (Call.performAll { context := .null } ownerCalls).values = [("owner", .text "7")]
      ∧ owner.Fits (.text "7") := by
  have hcolumns : ToldApart (ownerCalls.flatMap Call.columns) := by
    have hmem : ∀ c ∈ ownerCalls.flatMap Call.columns, c = owner ∨ c = rate := by
      simp [ownerCalls, Call.columns]
    intro c hc d hd hname
    rcases hmem c hc with rfl | rfl <;> rcases hmem d hd with rfl | rfl
    · rfl
    · exact absurd hname (by decide)
    · exact absurd hname (by decide)
    · rfl
  obtain ⟨hfits, -⟩ := stored_fits .null (.int 1) ownerCalls hcolumns
  exact ⟨hcolumns, rfl, hfits owner (List.mem_singleton_self owner) (.text "7") rfl⟩

end Record

end RecordForge

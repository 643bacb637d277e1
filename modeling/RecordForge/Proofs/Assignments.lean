import RecordForge.Proofs.StoredValues

/-!
# Assignments

Setting a value is done in steps, on a record that goes on to exist when a step fails. `on_assign`
says what it comes to: the record with the value if it can be set, and otherwise the error and the
record as it was. For storing is the last step, and the only one that changes anything.

Which columns can be set depends on what was registered before. A name stands for the column that
was registered last under it (`column?_addColumns`), and no other call changes the template
(`template_performAll`), so that the calls alone tell which columns belong to it
(`contains_performAll`). Together these say when an assignment succeeds on a record that any calls
have led to, and what it changes there (`assign_atomic`). Columns may share a name: only the last of
them can be set, and all of them have its value.
-/

namespace RecordForge

/-! ## Registered columns -/

/-- The last of the columns with a name. -/
def lastNamed (name : String) (columns : List Column) : Option Column :=
  (columns.filter (·.name = name)).getLast?

/-- After columns were registered, a name stands for the last of them that has it, and otherwise for
the column that it stood for before. -/
theorem Template.column?_addColumns (t : Template) (cs : List Column) (name : String) :
    (t.addColumns cs).column? name = (lastNamed name cs).or (t.column? name) := by
  have hfilter : (cs.map fun c => (c.name, c)).filter (·.1 = name)
      = (cs.filter (·.name = name)).map fun c => (c.name, c) :=
    List.filter_map
  have hlast : ((cs.map fun c => (c.name, c)).filter (·.1 = name)).getLast?.map Prod.snd
      = lastNamed name cs := by
    rw [hfilter, List.getLast?_map, Option.map_map, lastNamed]
    exact Option.map_id'
  rw [column?, addColumns, contentAt?_putEntries, hlast]
  rfl

namespace Record

variable {r : Record} {c : Column} {v : Value}

/-- The columns that a call registers. -/
def Call.registered : Call → List Column
  | .add columns => columns
  | .set _ _ => []

/-- A call changes nothing but the template and the values, and the template only by what it
registers. -/
theorem perform_eq (r : Record) (call : Call) :
    ∃ values, call.perform r
      = { r with template := r.template.addColumns call.registered, values } := by
  cases call with
  | add cs => exact ⟨r.values, rfl⟩
  | set c v =>
    rw [Call.perform]
    cases hset : r.setValue c v with
    | error e => exact ⟨r.values, rfl⟩
    | ok r' =>
      obtain ⟨stored, -, rfl⟩ := setValue_eq_ok_iff.mp hset
      exact ⟨putEntry r.values c.name stored, rfl⟩

/-- Calls change the template by what they register, one after the other. -/
theorem template_performAll (r : Record) (calls : List Call) :
    (Call.performAll r calls).template
      = r.template.addColumns (calls.flatMap Call.registered) := by
  induction calls generalizing r with
  | nil => rfl
  | cons call calls ih =>
    obtain ⟨values, hperform⟩ := perform_eq r call
    rw [Call.performAll, List.foldl_cons, ← Call.performAll, ih, hperform, List.flatMap_cons,
      Template.addColumns_append]

/-- On a record that was new before the calls, a column is registered exactly if it is the very one
that was registered last under its name. -/
theorem contains_performAll (context version : Value) (calls : List Call) (c : Column) :
    (Call.performAll { context, version } calls).template.contains c = true
      ↔ ∃ d, lastNamed c.name (calls.flatMap Call.registered) = some d ∧ d.label = c.label := by
  have hnew : ({} : Template).column? c.name = none := rfl
  rw [Template.contains_iff, template_performAll, Template.column?_addColumns, hnew, Option.or_none]

/-! ## Steps -/

namespace Action

variable {α β : Type}

theorem on_throw (e : ColumnError) (r : Record) :
    (throw e : Action α).on r = (.error e, r) := rfl

theorem on_modify (change : Record → Record) (r : Record) :
    (modify change : Action Unit).on r = (.ok (), change r) := rfl

theorem on_get_bind (next : Record → Action α) (r : Record) :
    (get >>= next).on r = (next r).on r := rfl

/-- What fails without a look at the record leaves it as it is. -/
theorem on_lift_bind (outcome : Except ColumnError α) (next : α → Action β) (r : Record) :
    ((liftM outcome : Action α) >>= next).on r = match outcome with
      | .ok a => (next a).on r
      | .error e => (.error e, r) := by
  cases outcome <;> rfl

end Action

open RecordForge.Record.Action

/-- **What an assignment comes to**: the record that setting the value gives, and if there is none
the error and the record as it was. -/
theorem on_assign (r : Record) (c : Column) (v : Value) :
    (assign c v).on r = match r.setValue c v with
      | .ok r' => (.ok (), r')
      | .error e => (.error e, r) := by
  unfold assign
  rw [on_get_bind, setValue_eq]
  cases hc : r.template.contains c with
  | false =>
    rw [accept_of_not_contains hc]
    exact on_throw (.undefined c.name r.version) r
  | true =>
    rw [if_pos rfl]
    by_cases hv : v = .null
    · subst hv
      rw [accept_null hc]
      cases c.allowNull.truth with
      | false => rfl
      | true => rfl
    · rw [accept_of_ne_null hc hv]
      -- For a value other than null there is only the conversion left that may fail.
      cases v with
      | null => exact absurd rfl hv
      | _ =>
        simp only [on_lift_bind, on_modify]
        cases c.convert _ <;> rfl

/-- Values are held by name. -/
theorem value_store (r : Record) (c d : Column) (stored : Value) :
    { r with values := putEntry r.values c.name stored }.value d
      = if d.name = c.name then stored else r.value d := by
  rw [value, value, contentAt?_putEntry]
  by_cases h : d.name = c.name
  · rw [if_pos h, if_pos h, Option.getD_some]
  · rw [if_neg h, if_neg h]

/-! ## Assignments on any record -/

/-- **An assignment is atomic and local.** On a record that any calls have led to, setting a column
to a value succeeds exactly if the column is the very one that was registered last under its name,
the value is not null or the column takes null, and the column can convert the value. If it
succeeds, all columns of that name have the converted value, every column of another name has the
value that it had, and nothing else is changed; if it fails, whatever the error is, the record is as
it was. -/
theorem assign_atomic (context version : Value) (calls : List Call) (c : Column) (v : Value) :
    let r := Call.performAll { context, version } calls
    let after := ((assign c v).on r).2
    (((assign c v).on r).1 = .ok ()
        ↔ (∃ d, lastNamed c.name (calls.flatMap Call.registered) = some d ∧ d.label = c.label)
          ∧ (v = .null → c.allowNull.truth = true) ∧ ∃ stored, c.convert v = .ok stored)
      ∧ match ((assign c v).on r).1 with
        | .ok _ => ∃ stored, c.convert v = .ok stored
            ∧ (∀ d, after.value d = if d.name = c.name then stored else r.value d)
            ∧ after.template = r.template ∧ after.context = r.context
            ∧ after.version = r.version
        | .error _ => after = r := by
  intro r after
  have hon := on_assign r c v
  rw [← contains_performAll context version]
  cases hset : r.setValue c v with
  | ok r' =>
    rw [hset] at hon
    obtain ⟨stored, haccept, rfl⟩ := setValue_eq_ok_iff.mp hset
    obtain ⟨hcontains, hnull, hconvert⟩ := accept_eq_ok_iff.mp haccept
    have hafter : after = { r with values := putEntry r.values c.name stored } :=
      congrArg Prod.snd hon
    rw [hon, hafter]
    refine ⟨iff_of_true rfl ⟨hcontains, hnull, stored, hconvert⟩, stored, hconvert, ?_, rfl, rfl,
      rfl⟩
    exact fun d => value_store r c d stored
  | error e =>
    rw [hset] at hon
    have hafter : after = r := congrArg Prod.snd hon
    rw [hon]
    refine ⟨iff_of_false (fun h => nomatch h) ?_, hafter⟩
    -- If all three held, the value would have been set.
    rintro ⟨hcontains, hnull, stored, hconvert⟩
    have haccept := accept_eq_ok_iff.mpr ⟨hcontains, hnull, hconvert⟩
    exact nomatch hset.symm.trans (setValue_eq_ok_iff.mpr ⟨stored, haccept, rfl⟩)

/-- A column that was replaced under its name shows the value of the other one, but is refused. -/
example :
    let other : Column := { owner with label := "other" }
    let r := Call.performAll { context := .null } [.add [other], .add [owner], .set owner (.int 7)]
    r.value other = .text "7"
      ∧ ((assign other (.int 8)).on r).1 = .error (.undefined "owner" (.int 1)) :=
  ⟨rfl, rfl⟩

end Record

end RecordForge

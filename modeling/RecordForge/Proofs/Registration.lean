import Mathlib.Data.Finset.Card
import RecordForge.Proofs.Assignments

/-!
# Registered columns

A template is filled by calls, each of which registers columns, and columns may share their names
within a call and across calls. What becomes of them is a map in which the place of a name is fixed
by the first column that has it and its content by the last one (`ofCalls_lastWins`). Only the
columns in the order in which they were registered matter for that, not the calls that they came in
(`ofCalls_eq`).
-/

namespace RecordForge

/-- The last column with a name has that name. -/
theorem name_of_lastNamed {name : String} {columns : List Column} {c : Column}
    (h : lastNamed name columns = some c) : c.name = name := by
  have hmem : c ∈ columns.filter (·.name = name) := List.mem_of_getLast? h
  simpa using (List.mem_filter.mp hmem).2

namespace Template

/-- The template that calls make of an empty one, each of them registering columns in turn. -/
def ofCalls (calls : List (List Column)) : Template :=
  calls.foldl addColumns {}

/-- The calls register their columns one after the other. -/
theorem ofCalls_eq (calls : List (List Column)) :
    ofCalls calls = addColumns {} calls.flatten := by
  have hcalls : ∀ t : Template, calls.foldl addColumns t = t.addColumns calls.flatten := by
    induction calls with
    | nil => exact fun _ => rfl
    | cons call calls ih =>
      intro t
      rw [List.foldl_cons, ih, List.flatten_cons, addColumns_append]
  exact hcalls {}

/-- A name stands for the last column that has it. -/
theorem column?_ofCalls (calls : List (List Column)) (name : String) :
    (ofCalls calls).column? name = lastNamed name calls.flatten := by
  have hempty : ({} : Template).column? name = none := rfl
  rw [ofCalls_eq, column?_addColumns, hempty, Option.or_none]

/-- The names under which the columns stand: each once, in the order in which they first came. -/
theorem keys_ofCalls (calls : List (List Column)) :
    (ofCalls calls).entries.map Prod.fst = (calls.flatten.map (·.name)).eraseDups := by
  have hnames : (calls.flatten.map fun c => (c.name, c)).map Prod.fst
      = calls.flatten.map (·.name) := by
    rw [List.map_map]
    rfl
  rw [ofCalls_eq, addColumns, keys_putEntries_nil, hnames]

theorem nodup_keys_ofCalls (calls : List (List Column)) :
    ((ofCalls calls).entries.map Prod.fst).Nodup := by
  rw [ofCalls_eq]
  exact nodup_keys_putEntries List.nodup_nil

/-- Under each name stands the last column that has it. -/
theorem columns_ofCalls (calls : List (List Column)) :
    (ofCalls calls).columns.map some
      = (calls.flatten.map (·.name)).eraseDups.map (lastNamed · calls.flatten) := by
  rw [columns, ← map_contentAt?_keys (nodup_keys_ofCalls calls), keys_ofCalls]
  exact List.map_congr_left fun name _ => column?_ofCalls calls name

/-- The columns have the names under which they stand. -/
theorem names_ofCalls (calls : List (List Column)) :
    (ofCalls calls).columns.map (·.name) = (calls.flatten.map (·.name)).eraseDups := by
  rw [columns, List.map_map, ← keys_ofCalls]
  refine List.map_congr_left fun e he => ?_
  have hcolumn : (ofCalls calls).column? e.1 = some e.2 :=
    contentAt?_of_mem (nodup_keys_ofCalls calls) he
  exact name_of_lastNamed ((column?_ofCalls calls e.1).symm.trans hcolumn)

/-- There are as many columns as names. -/
theorem size_ofCalls (calls : List (List Column)) :
    (ofCalls calls).size = (calls.flatten.map (·.name)).toFinset.card := by
  have hkeys : ((ofCalls calls).entries.map Prod.fst).toFinset
      = (calls.flatten.map (·.name)).toFinset := by
    ext name
    rw [keys_ofCalls, List.mem_toFinset, List.mem_toFinset, List.mem_eraseDups]
  rw [← hkeys, List.toFinset_card_of_nodup (nodup_keys_ofCalls calls), List.length_map]
  rfl

/-- **A template is an ordered map in which the last registration counts.** Whatever calls register
columns with a new template, and however the columns share their names: the columns are, in the
order in which each name was first registered, the ones that were registered last under these names;
no name stands twice; a name stands for the column that was registered last under it, and for none
if there is no such column; a column belongs to the template exactly if it is the very one that was
registered last under its name; there are as many columns as different names; and other calls that
register the same columns in the same order lead to the same template. -/
theorem ofCalls_lastWins (calls : List (List Column)) :
    let t := ofCalls calls
    let registered := calls.flatten
    t.columns.map (·.name) = (registered.map (·.name)).eraseDups
      ∧ t.columns.map some
        = (registered.map (·.name)).eraseDups.map (lastNamed · registered)
      ∧ (t.columns.map (·.name)).Nodup
      ∧ (∀ name, t.column? name = lastNamed name registered)
      ∧ (∀ name, t.column? name = none ↔ name ∉ registered.map (·.name))
      ∧ (∀ c, t.contains c = true
          ↔ ∃ d, lastNamed c.name registered = some d ∧ d.label = c.label)
      ∧ t.size = (registered.map (·.name)).toFinset.card
      ∧ ∀ others : List (List Column), others.flatten = registered → ofCalls others = t := by
  intro t registered
  refine ⟨names_ofCalls calls, columns_ofCalls calls, ?_, column?_ofCalls calls, ?_, ?_,
    size_ofCalls calls, ?_⟩
  · rw [names_ofCalls, ← keys_ofCalls]
    exact nodup_keys_ofCalls calls
  · intro name
    rw [column?, contentAt?_eq_none_iff, keys_ofCalls, List.mem_eraseDups]
  · intro c
    rw [contains_iff, column?_ofCalls]
  · intro others hothers
    rw [ofCalls_eq, hothers, ← ofCalls_eq]

/-- A column that takes the name of an earlier one takes its place as well. -/
example :
    let first : Column := { label := "first", kind := some .text, name := "a" }
    let second : Column := { label := "second", kind := some .long, name := "b" }
    let third : Column := { label := "third", kind := some .text, name := "a" }
    (ofCalls [[first, second], [third]]).columns.map (·.label) = ["third", "second"] :=
  rfl

end Template

end RecordForge

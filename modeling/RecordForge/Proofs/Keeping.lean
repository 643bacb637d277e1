import Mathlib.Data.List.Basic
import RecordForge.Proofs.Selection

/-!
# Keeping, position by position

Selecting goes through the fields once, with a table of the names that are taken. Which fields it
keeps can be said without the table: the field at a position is kept if it has a specification none
of whose names belongs to an earlier field that is kept (`keptAt?`). `Fit` ties the table to the
positions: it holds exactly the names of the kept fields so far, each with the identifier of its
field. One more field keeps it so (`fit_taken`), hence selecting keeps exactly these positions, in
order (`result_select_eq_filterMap`), and what it reports is what each position adds
(`diagnostics_select_eq_flatMap`).
-/

namespace RecordForge

namespace ColumnSpec

/-! ## Kept positions -/

/-- The specification of the field at a position, if it has one. -/
def specAt? (config : Config) (fields : List FieldDeclaration) (i : Nat) : Option ColumnSpec :=
  fields[i]?.bind fun field => (ofField config field).result

/-- The specification with which the field at a position is kept, if it is: its own one, provided
that none of its names is a name of an earlier field that is kept. -/
def keptAt? (config : Config) (fields : List FieldDeclaration) (i : Nat) : Option ColumnSpec :=
  (specAt? config fields i).filter fun spec =>
    (List.finRange i).all fun j =>
      (keptAt? config fields j).all fun earlier => spec.names.all fun name => name ∉ earlier.names
termination_by i
decreasing_by exact j.isLt

variable {config : Config} {fields : List FieldDeclaration} {i : Nat}

/-- When a field is kept. -/
theorem keptAt?_eq_some_iff {spec : ColumnSpec} :
    keptAt? config fields i = some spec
      ↔ specAt? config fields i = some spec
        ∧ ∀ j < i, ∀ earlier, keptAt? config fields j = some earlier →
            ∀ name ∈ spec.names, name ∉ earlier.names := by
  rw [keptAt?, Option.filter_eq_some_iff]
  simp only [List.all_eq_true, List.mem_finRange, forall_const, Option.all_eq_true,
    decide_eq_true_eq]
  refine and_congr_right fun _ => ⟨?_, ?_⟩
  · intro h j hj earlier hearlier
    exact h ⟨j, hj⟩ earlier hearlier
  · intro h j earlier hearlier
    exact h j j.isLt earlier hearlier

/-- Fields that follow make no difference to what is kept before them. -/
theorem keptAt?_append_left {more : List FieldDeclaration} (h : i < fields.length) :
    keptAt? config (fields ++ more) i = keptAt? config fields i := by
  induction i using Nat.strongRecOn with
  | ind i ih =>
    have hspec : specAt? config (fields ++ more) i = specAt? config fields i := by
      rw [specAt?, specAt?, List.getElem?_append_left h]
    ext spec
    rw [keptAt?_eq_some_iff, keptAt?_eq_some_iff, hspec]
    refine and_congr_right fun _ => forall₂_congr fun j hj => ?_
    rw [ih j hj (Nat.lt_trans hj h)]

/-! ## The table of names -/

/-- The name belongs to a kept field before a position, and this is the identifier of that field. -/
def OwnedBefore (config : Config) (fields : List FieldDeclaration) (i : Nat) (name : String)
    (owner : Option String) : Prop :=
  ∃ j < i, ∃ field spec, fields[j]? = some field ∧ field.identifier = owner
    ∧ keptAt? config fields j = some spec ∧ name ∈ spec.names

/-- The table holds the names of the kept fields before a position, and nothing else. -/
def Fit (config : Config) (fields : List FieldDeclaration) (owners : Owners) (i : Nat) : Prop :=
  ∀ name owner, contentAt? owners name = some owner ↔ OwnedBefore config fields i name owner

/-- The table after a field. -/
def taken (config : Config) (owners : Owners) (field : FieldDeclaration) : Owners :=
  match (ofField config field).result with
  | none => owners
  | some spec =>
    match clash? owners spec.names with
    | some _ => owners
    | none => putEntries owners (spec.names.map (·, field.identifier))

/-- The table that selecting has when it comes to a position. -/
def takenBefore (config : Config) (fields : List FieldDeclaration) (i : Nat) : Owners :=
  (fields.take i).foldl (taken config) []

/-- Selecting from fields goes on behind them with the table that they leave. -/
theorem selectFrom_append (as bs : List FieldDeclaration) :
    ∀ owners : Owners,
      selectFrom config owners (as ++ bs) = (do
        let kept ← selectFrom config owners as
        let more ← selectFrom config (as.foldl (taken config) owners) bs
        return kept ++ more) := by
  -- Over every table, since each field leaves another one.
  induction as with
  | nil =>
    intro owners
    ext1 <;> simp [selectFrom]
  | cons field as ih =>
    intro owners
    rw [List.cons_append, selectFrom, selectFrom, List.foldl_cons, taken]
    cases hspec : (ofField config field).result with
    | none =>
      ext1 <;> simp [hspec, ih]
    | some spec =>
      have hcomplete := isComplete_of_result_ofField hspec
      cases hclash : clash? owners spec.names with
      | none =>
        ext1 <;> simp [hspec, hcomplete, hclash, ih]
      | some found =>
        ext1 <;> simp [hspec, hcomplete, hclash, ih]

/-! ## The table fits the positions -/

variable {owners : Owners} {field : FieldDeclaration} {name : String} {owner : Option String}

/-- A position at which a field is kept holds a field with that specification. -/
theorem exists_field_of_keptAt? {spec : ColumnSpec} (h : keptAt? config fields i = some spec) :
    ∃ field, fields[i]? = some field ∧ (ofField config field).result = some spec :=
  Option.bind_eq_some_iff.mp (keptAt?_eq_some_iff.mp h).1

/-- A name has an owner exactly if an earlier kept field has the name. -/
theorem exists_ownedBefore_iff :
    (∃ owner, OwnedBefore config fields i name owner)
      ↔ ∃ j < i, ∃ earlier, keptAt? config fields j = some earlier ∧ name ∈ earlier.names := by
  constructor
  · rintro ⟨owner, j, hj, field, earlier, -, -, hkept, hname⟩
    exact ⟨j, hj, earlier, hkept, hname⟩
  · rintro ⟨j, hj, earlier, hkept, hname⟩
    obtain ⟨field, hfield, -⟩ := exists_field_of_keptAt? hkept
    exact ⟨field.identifier, j, hj, field, earlier, hfield, rfl, hkept, hname⟩

/-- The owners before the next position are those before this one, and the field here if it is
kept. -/
theorem ownedBefore_succ (hfield : fields[i]? = some field) :
    OwnedBefore config fields (i + 1) name owner
      ↔ OwnedBefore config fields i name owner
        ∨ field.identifier = owner ∧ ∃ spec, keptAt? config fields i = some spec
          ∧ name ∈ spec.names := by
  rw [OwnedBefore, Nat.exists_lt_succ_right]
  refine or_congr_right ⟨?_, ?_⟩
  · rintro ⟨field', spec, hfield', howner, hkept, hname⟩
    rw [hfield] at hfield'
    obtain rfl := Option.some.inj hfield'
    exact ⟨howner, spec, hkept, hname⟩
  · rintro ⟨howner, spec, hkept, hname⟩
    exact ⟨field, spec, hfield, howner, hkept, hname⟩

/-- With a table that fits, names clash with none of the taken ones exactly if no earlier kept field
has one of them. -/
theorem clash?_eq_none_iff_of_fit (hfit : Fit config fields owners i) {names : List String} :
    clash? owners names = none
      ↔ ∀ j < i, ∀ earlier, keptAt? config fields j = some earlier →
          ∀ name ∈ names, name ∉ earlier.names := by
  have hfree : ∀ name, name ∉ owners.map Prod.fst
      ↔ ¬ ∃ j < i, ∃ earlier, keptAt? config fields j = some earlier ∧ name ∈ earlier.names := by
    intro name
    rw [← contentAt?_eq_none_iff, Option.eq_none_iff_forall_ne_some, ← exists_ownedBefore_iff,
      not_exists]
    exact forall_congr' fun owner => not_congr (hfit name owner)
  rw [clash?_eq_none_iff]
  constructor
  · intro h j hj earlier hearlier name hname hin
    exact (hfree name).mp (h name hname) ⟨j, hj, earlier, hearlier, hin⟩
  · intro h name hname
    rw [hfree]
    rintro ⟨j, hj, earlier, hearlier, hin⟩
    exact h j hj earlier hearlier name hname hin

/-- With a table that fits, a field is kept with its specification if the names of this one are all
free. -/
theorem keptAt?_eq_of_fit (hfit : Fit config fields owners i) (hfield : fields[i]? = some field) :
    keptAt? config fields i
      = (ofField config field).result.filter fun spec => (clash? owners spec.names).isNone := by
  ext spec
  rw [keptAt?_eq_some_iff, ← clash?_eq_none_iff_of_fit hfit, specAt?, hfield, Option.bind_some,
    Option.filter_eq_some_iff, Option.isNone_iff_eq_none]

/-- **One more field keeps the table fit.** -/
theorem fit_taken (hfit : Fit config fields owners i) (hfield : fields[i]? = some field) :
    Fit config fields (taken config owners field) (i + 1) := by
  intro name owner
  rw [ownedBefore_succ hfield, keptAt?_eq_of_fit hfit hfield, ← hfit name owner, taken]
  cases hspec : (ofField config field).result with
  | none => simp
  | some spec =>
    cases hclash : clash? owners spec.names with
    | some found => simp [hclash]
    | none =>
      simp only [hclash, Option.filter_some, Option.isNone_none, if_true, Option.some.injEq,
        exists_eq_left', contentAt?_putEntries_const]
      by_cases hname : name ∈ spec.names
      · -- The name was free, so that this field is its only owner.
        have hfree : contentAt? owners name = none :=
          contentAt?_eq_none_iff.mpr (clash?_eq_none_iff.mp hclash name hname)
        simp [hname, hfree]
      · simp [hname]

theorem takenBefore_succ (hfield : fields[i]? = some field) :
    takenBefore config fields (i + 1) = taken config (takenBefore config fields i) field := by
  rw [takenBefore, List.take_add_one, hfield, List.foldl_append]
  rfl

/-- **The table fits at every position.** -/
theorem fit_takenBefore (hi : i ≤ fields.length) :
    Fit config fields (takenBefore config fields i) i := by
  induction i with
  | zero =>
    intro name owner
    simp [takenBefore, contentAt?, OwnedBefore]
  | succ i ih =>
    have hfield : fields[i]? = some fields[i] := List.getElem?_eq_getElem hi
    rw [takenBefore_succ hfield]
    exact fit_taken (ih (Nat.le_of_succ_le hi)) hfield

/-! ## Selecting in positions -/

/-- What selecting does with the field at a position. -/
def selectAt (config : Config) (fields : List FieldDeclaration) (i : Nat) :
    Reported (List ColumnSpec) :=
  selectFrom config (takenBefore config fields i) fields[i]?.toList

/-- Selecting from one field more does what is done at its position. -/
theorem select_take_succ (config : Config) (fields : List FieldDeclaration) (i : Nat) :
    select config (fields.take (i + 1)) = (do
      let kept ← select config (fields.take i)
      let more ← selectAt config fields i
      return kept ++ more) := by
  rw [select, List.take_add_one, selectFrom_append]
  rfl

theorem result_selectAt (hi : i < fields.length) :
    (selectAt config fields i).result = (keptAt? config fields i).toList := by
  have hfield : fields[i]? = some fields[i] := List.getElem?_eq_getElem hi
  rw [keptAt?_eq_of_fit (fit_takenBefore (Nat.le_of_lt hi)) hfield, selectAt, hfield,
    Option.toList_some, result_selectFrom, keptFrom]
  cases hspec : (ofField config fields[i]).result with
  | none => simp [keptFrom]
  | some spec =>
    cases hclash : clash? (takenBefore config fields i) spec.names with
    | none => simp [Option.filter_some, hclash, keptFrom]
    | some found => simp [Option.filter_some, hclash, keptFrom]

theorem filterMap_keptAt?_succ (config : Config) (fields : List FieldDeclaration) (n : Nat) :
    (List.range (n + 1)).filterMap (keptAt? config fields)
      = (List.range n).filterMap (keptAt? config fields) ++ (keptAt? config fields n).toList := by
  rw [List.range_succ, List.filterMap_append, List.filterMap_cons]
  cases keptAt? config fields n <;> rfl

/-- **Selecting keeps the kept positions**, in order. -/
theorem result_select_eq_filterMap (config : Config) (fields : List FieldDeclaration) :
    (select config fields).result
      = (List.range fields.length).filterMap (keptAt? config fields) := by
  -- The first fields are enough, as each position looks at those before it only.
  suffices h : ∀ n ≤ fields.length, (select config (fields.take n)).result
      = (List.range n).filterMap (keptAt? config fields) by
    simpa using h fields.length (Nat.le_refl _)
  intro n
  induction n with
  | zero => exact fun _ => rfl
  | succ n ih =>
    intro hn
    rw [select_take_succ, Reported.result_bind, ih (Nat.le_of_succ_le hn), Reported.result_bind,
      result_selectAt hn, filterMap_keptAt?_succ]
    rfl

/-- **Selecting reports what every position adds**, in order. -/
theorem diagnostics_select_eq_flatMap (config : Config) (fields : List FieldDeclaration) :
    (select config fields).diagnostics
      = (List.range fields.length).flatMap fun i => (selectAt config fields i).diagnostics := by
  suffices h : ∀ n, (select config (fields.take n)).diagnostics
      = (List.range n).flatMap fun i => (selectAt config fields i).diagnostics by
    simpa using h fields.length
  intro n
  induction n with
  | zero => rfl
  | succ n ih =>
    rw [select_take_succ, List.range_succ, List.flatMap_append, ← ih]
    simp

end ColumnSpec

end RecordForge

import RecordForge.Proofs.Construction
import RecordForge.Proofs.Sorting
import RecordForge.Versions.Valued

/-!
# Grouping by version

What the groups of a list and their running totals are, whatever the list. The groups are the
sublists of one version each, under strictly ascending versions, and one after the other they are
the stably sorted list (`Cuts`). The totals of any groups run through the versions in ascending
order, and each is the one before it with the group of its version at the end (`Accumulates`);
those of the groups of a list are the stably sorted items up to a version. The order in which groups
are given makes no difference (`sorted_congr`).

Groups by versions of any kind are the same when the versions are integers (`valued`): the
comparison of integers answers, so that sorting does not fail.
-/

namespace RecordForge

open VersionGroups

variable {α : Type}

/-- Groups by integers as groups by versions of any kind. -/
def VersionGroups.valued (groups : VersionGroups α) : ValuedGroups α :=
  groups.map fun g => (.int g.1, g.2)

/-- The constant of an integer version as one of a version of any kind. -/
def VersionGroup.valued (g : VersionGroup) : ValuedGroup :=
  ⟨g.name, .int g.version, g.members⟩

/-- The groups cut the items by version. -/
structure Cuts (version : α → Int) (items : List α) (groups : VersionGroups α) : Prop where
  ascending : (groups.map Prod.fst).Pairwise (· < ·)
  filled : ∀ g ∈ groups, g.2 ≠ []
  inOrder : ∀ g ∈ groups, g.2 = items.filter (version · = g.1)
  joined : StablySorted version items (groups.flatMap Prod.snd)
  complete : (groups.flatMap Prod.snd).Perm items

/-- The totals of groups: one for each version in ascending order, which is the total before it with
the group of the version at the end. -/
structure Accumulates (groups totals : VersionGroups α) : Prop where
  ascending : (totals.map Prod.fst).Pairwise (· < ·)
  versions : (totals.map Prod.fst).Perm (groups.map Prod.fst)
  extended : ∀ earlier w total later, totals = earlier ++ (w, total) :: later →
    ∃ own, (w, own) ∈ groups ∧ total = (earlier.getLast?.map Prod.snd).getD [] ++ own

namespace VersionGroups

/-! ## The groups of a list -/

/-- The groups of a list, one after the other, are the list stably sorted. -/
theorem stablySorted_flatMap_partition (version : α → Int) (items : List α) :
    StablySorted version items ((partition version items).flatMap Prod.snd) := by
  have hall : (items.filter fun a => decide (version a ∈ versionsOf version items)) = items := by
    rw [List.filter_eq_self]
    intro a ha
    exact decide_eq_true (mem_versionsOf.mpr ⟨a, ha, rfl⟩)
  rw [partition_eq, List.flatMap_map,
    flatMap_filter_eq version items (pairwise_versionsOf version items), hall]
  exact stablySorted_inVersionOrder version items

theorem cuts_partition (version : α → Int) (items : List α) :
    Cuts version items (partition version items) where
  ascending := by
    rw [keys_partition]
    exact pairwise_versionsOf version items
  filled := by
    intro g hg
    rw [partition_eq, List.mem_map] at hg
    obtain ⟨w, hw, rfl⟩ := hg
    obtain ⟨a, ha, haw⟩ := mem_versionsOf.mp hw
    exact List.ne_nil_of_mem (List.mem_filter.mpr ⟨ha, by simpa using haw⟩)
  inOrder := by
    intro g hg
    rw [partition_eq, List.mem_map] at hg
    obtain ⟨w, -, rfl⟩ := hg
    rfl
  joined := stablySorted_flatMap_partition version items
  complete := (stablySorted_flatMap_partition version items).perm

/-- The total of a version of a list: the items up to it, stably sorted. -/
theorem stablySorted_of_mem_cumulative {version : α → Int} {items : List α} {w : Int}
    {total : List α} (h : (w, total) ∈ (partition version items).cumulative) :
    StablySorted version (items.filter (version · ≤ w)) total := by
  rw [cumulative_partition, List.mem_map] at h
  obtain ⟨v, -, heq⟩ := h
  obtain ⟨rfl, rfl⟩ := Prod.mk.inj heq
  exact stablySorted_inVersionOrder version _

/-! ## The totals of groups -/

theorem keys_accumulate {κ : Type} (before : List α) (groups : List (κ × List α)) :
    (accumulate before groups).map Prod.fst = groups.map Prod.fst := by
  induction groups generalizing before with
  | nil => rfl
  | cons g groups ih => rw [accumulate, List.map_cons, ih, List.map_cons]

/-- Each total is the one before it, at first `before`, and then the group of its version. -/
theorem accumulate_extended {κ : Type} {groups : List (κ × List α)} {before : List α}
    {earlier later : List (κ × List α)} {w : κ} {total : List α}
    (h : accumulate before groups = earlier ++ (w, total) :: later) :
    ∃ own, (w, own) ∈ groups ∧ total = (earlier.getLast?.map Prod.snd).getD before ++ own := by
  induction groups generalizing before earlier with
  | nil => exact absurd h (by simp [accumulate])
  | cons g groups ih =>
    rw [accumulate] at h
    cases earlier with
    | nil =>
      obtain ⟨heq, -⟩ := List.cons.inj h
      obtain ⟨rfl, rfl⟩ := Prod.mk.inj heq
      exact ⟨g.2, List.mem_cons_self .., rfl⟩
    | cons first earlier =>
      obtain ⟨rfl, hrest⟩ := List.cons.inj h
      obtain ⟨own, hown, rfl⟩ := ih hrest
      refine ⟨own, List.mem_cons_of_mem _ hown, ?_⟩
      rw [List.getLast?_cons]
      cases earlier.getLast? <;> rfl

theorem accumulates_cumulative {groups : VersionGroups α} (hkeys : (groups.map Prod.fst).Nodup) :
    Accumulates groups groups.cumulative where
  ascending := by
    rw [cumulative, keys_accumulate]
    exact pairwise_keys_sorted hkeys
  versions := by
    rw [cumulative, keys_accumulate]
    exact (List.mergeSort_perm ..).map Prod.fst
  extended := by
    intro earlier w total later h
    obtain ⟨own, hown, htotal⟩ := accumulate_extended h
    exact ⟨own, List.mem_mergeSort.mp hown, htotal⟩

/-- The order of the groups makes no difference to the sorted ones. -/
theorem sorted_congr {groups others : VersionGroups α} (hperm : others.Perm groups)
    (hkeys : (groups.map Prod.fst).Nodup) : sorted others = sorted groups := by
  have hother : (others.map Prod.fst).Nodup := (hperm.map Prod.fst).nodup_iff.mpr hkeys
  have hsame : (sorted others).Perm (sorted groups) :=
    ((List.mergeSort_perm ..).trans hperm).trans (List.mergeSort_perm ..).symm
  have hothers := List.pairwise_map.mp (pairwise_keys_sorted hother)
  have hgroups := List.pairwise_map.mp (pairwise_keys_sorted hkeys)
  exact hsame.eq_of_pairwise (fun a b _ _ hab hba => absurd hba (by omega)) hothers hgroups

/-! ## Groups by versions of any kind -/

theorem decides_valued :
    Sorting.Decides (fun a b : Value × List α => a.1.less b.1)
      (fun g : Int × List α => (.int g.1, g.2)) Prod.fst :=
  fun _ _ => rfl

theorem sorted_valued (groups : VersionGroups α) :
    groups.valued.sorted = .ok (sorted groups).valued :=
  Sorting.sort_eq decides_valued groups

theorem alter_valued (groups : VersionGroups α) (w : Int) (change : List α → List α) :
    groups.valued.alter (.int w) change
      = valued (putEntry groups w (change ((contentAt? groups w).getD []))) := by
  induction groups with
  | nil => rfl
  | cons g groups ih =>
    obtain ⟨v, items⟩ := g
    have hequals : (Value.int v).equals (.int w) = decide (v = w) := equalsInt_int v w
    by_cases hv : v = w
    · subst hv
      rw [decide_eq_true rfl] at hequals
      simp [valued, ValuedGroups.alter, putEntry, contentAt?, hequals]
    · simpa [valued, ValuedGroups.alter, putEntry, contentAt?, hequals, hv] using ih

/-- Adding items one after the other is the same for both kinds of groups. -/
theorem foldlM_alter_valued (version : α → Int) (items : List α) :
    ∀ groups : VersionGroups α,
      items.foldlM (fun groups item => do
          (Value.int (version item)).checkKey
          return ValuedGroups.alter (.int (version item)) (· ++ [item]) groups) groups.valued
        = (.ok (valued (items.foldl (fun groups item => insert groups (version item) item) groups))
          : Except KeyError _) := by
  induction items with
  | nil => exact fun _ => rfl
  | cons a items ih =>
    intro groups
    have hstep := alter_valued groups (version a) (· ++ [a])
    rw [List.foldlM_cons, List.foldl_cons, ← ih, insert, ← hstep]
    rfl

theorem partition_valued (version : α → Int) (items : List α) :
    ValuedGroups.partition (fun a => .int (version a)) items
      = .ok (partition version items).valued := by
  have hgroups := foldlM_alter_valued version items []
  have hnil : valued ([] : VersionGroups α) = [] := rfl
  rw [hnil] at hgroups
  rw [ValuedGroups.partition, hgroups]
  exact sorted_valued _

theorem accumulate_valued (before : List α) (groups : VersionGroups α) :
    accumulate before groups.valued = valued (accumulate before groups) := by
  induction groups generalizing before with
  | nil => rfl
  | cons g groups ih => exact congrArg _ (ih _)

theorem cumulative_valued (groups : VersionGroups α) :
    groups.valued.cumulative = .ok groups.cumulative.valued := by
  rw [ValuedGroups.cumulative, sorted_valued]
  exact congrArg _ (accumulate_valued [] (sorted groups))

theorem constantOf_valued (constant : α → String) (g : Int × List α) :
    ValuedGroups.constantOf constant (.int g.1, g.2)
      = ((VersionGroup.ofVersion constant g).map VersionGroup.valued).mapError
          fun _ => .unwritable := by
  rw [ValuedGroups.constantOf, VersionGroup.ofVersion]
  cases Naming.versionColumnsName (.int g.1) <;> rfl

theorem mapM_constantOf_valued (constant : α → String) (groups : VersionGroups α) :
    groups.valued.mapM (ValuedGroups.constantOf constant)
      = ((groups.mapM (VersionGroup.ofVersion constant)).map
          (List.map VersionGroup.valued)).mapError fun _ => .unwritable := by
  induction groups with
  | nil => rfl
  | cons g groups ih =>
    have hcons : valued (g :: groups) = (.int g.1, g.2) :: valued groups := rfl
    rw [hcons, List.mapM_cons, List.mapM_cons, constantOf_valued, ih]
    cases VersionGroup.ofVersion constant g with
    | error e => rfl
    | ok first => cases groups.mapM (VersionGroup.ofVersion constant) <;> rfl

theorem constants_valued (constant : α → String) (groups : VersionGroups α) :
    groups.valued.constants constant
      = ((VersionGroup.ofGroups constant groups).map (List.map VersionGroup.valued)).mapError
          fun _ => .unwritable := by
  rw [ValuedGroups.constants, cumulative_valued]
  exact mapM_constantOf_valued constant groups.cumulative

/-- **Grouping is a stable sort cut into groups**, and accumulating groups does not look at the
order in which they are given. By versions of any kind that are integers the same groups and totals
come out, without an error, and the same constants, unless a version cannot be written. -/
theorem partition_accumulates (version : α → Int) (constant : α → String) (items : List α)
    {groups : VersionGroups α} (hkeys : (groups.map Prod.fst).Nodup) :
    Cuts version items (partition version items)
      ∧ (∀ w total, (w, total) ∈ (partition version items).cumulative →
          StablySorted version (items.filter (version · ≤ w)) total)
      ∧ Accumulates groups groups.cumulative
      ∧ (∀ others : VersionGroups α, others.Perm groups →
          others.cumulative = groups.cumulative
            ∧ VersionGroup.ofGroups constant others = VersionGroup.ofGroups constant groups)
      ∧ ValuedGroups.partition (fun a => .int (version a)) items
          = .ok (partition version items).valued
      ∧ groups.valued.cumulative = .ok groups.cumulative.valued
      ∧ groups.valued.constants constant
          = ((VersionGroup.ofGroups constant groups).map (List.map VersionGroup.valued)).mapError
              fun _ => .unwritable := by
  refine ⟨cuts_partition version items, fun w total => stablySorted_of_mem_cumulative,
    accumulates_cumulative hkeys, ?_, partition_valued version items, cumulative_valued groups,
    constants_valued constant groups⟩
  intro others hperm
  have hsame : others.cumulative = groups.cumulative :=
    congrArg (accumulate []) (sorted_congr hperm hkeys)
  exact ⟨hsame, congrArg (List.mapM _) hsame⟩

/-- Groups given with the later version first. -/
theorem partition_accumulates_descending :
    (([(2, ["b", "c"]), (1, ["a"])] : VersionGroups String).map Prod.fst).Nodup
      ∧ Cuts (fun s => if s = "a" then 1 else 2) ["b", "a", "c"]
          (partition (fun s => if s = "a" then 1 else 2) ["b", "a", "c"])
      ∧ Accumulates [(2, ["b", "c"]), (1, ["a"])] (cumulative [(2, ["b", "c"]), (1, ["a"])])
      ∧ cumulative [(1, ["a"]), (2, ["b", "c"])] = cumulative [(2, ["b", "c"]), (1, ["a"])] := by
  have hkeys : (([(2, ["b", "c"]), (1, ["a"])] : VersionGroups String).map Prod.fst).Nodup := by
    decide
  obtain ⟨hcuts, -, htotals, hothers, -⟩ :=
    partition_accumulates (fun s => if s = "a" then 1 else 2) ("COLUMN_" ++ ·) ["b", "a", "c"] hkeys
  exact ⟨hkeys, hcuts, htotals, (hothers _ (.swap ..)).1⟩

end VersionGroups

end RecordForge

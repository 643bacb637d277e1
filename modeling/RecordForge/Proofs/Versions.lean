import Mathlib.Data.List.Dedup
import RecordForge.Proofs.Entries
import RecordForge.Versions

/-!
# Groups of versions in closed form

Grouping by version is a stable sort cut into groups. `partition_eq` gives the groups of a list
outright: its versions in ascending order, each with the sublist of its items. `cumulative_partition`
gives the items of each version with all earlier ones: the items up to that version, stably sorted.

Both rest on `eq_of_filter_version_eq`: a list that ascends by version is determined by its sublists
of one version each, so there is only one way to sort stably.
-/

namespace RecordForge

variable {α : Type}

/-- The items in ascending order of their versions, those of one version in their given order. -/
def inVersionOrder (version : α → Int) (items : List α) : List α :=
  items.mergeSort fun a b => version a ≤ version b

/-- The versions of the items, each once and in ascending order. -/
def versionsOf (version : α → Int) (items : List α) : List Int :=
  (items.map version).dedup.mergeSort fun a b => a ≤ b

/-! ## Stable sorting -/

theorem mem_inVersionOrder {version : α → Int} {items : List α} {a : α} :
    a ∈ inVersionOrder version items ↔ a ∈ items :=
  List.mem_mergeSort

theorem inVersionOrder_perm (version : α → Int) (items : List α) :
    (inVersionOrder version items).Perm items :=
  List.mergeSort_perm ..

/-- The versions ascend. -/
theorem pairwise_inVersionOrder (version : α → Int) (items : List α) :
    (inVersionOrder version items).Pairwise fun a b => version a ≤ version b := by
  have h : (inVersionOrder version items).Pairwise
      fun a b => decide (version a ≤ version b) = true :=
    List.pairwise_mergeSort (by simp only [decide_eq_true_eq]; omega)
      (by simp only [Bool.or_eq_true, decide_eq_true_eq]; omega) items
  simpa using h

/-- The items of one version keep their order. -/
theorem filter_inVersionOrder (version : α → Int) (items : List α) (w : Int) :
    (inVersionOrder version items).filter (version · = w) = items.filter (version · = w) := by
  -- The sublist of one version ascends, so the sort keeps it, and it keeps nothing else of it.
  have hpair : (items.filter (version · = w)).Pairwise
      fun a b => decide (version a ≤ version b) = true := by
    refine List.pairwise_of_forall_mem_list fun a ha b hb => ?_
    simp only [List.mem_filter, decide_eq_true_eq] at ha hb ⊢
    omega
  have hsub : (items.filter (version · = w)).Sublist (inVersionOrder version items) :=
    List.sublist_mergeSort (by simp only [decide_eq_true_eq]; omega)
      (by simp only [Bool.or_eq_true, decide_eq_true_eq]; omega) hpair List.filter_sublist
  have hkeep : (items.filter (version · = w)).Sublist
      ((inVersionOrder version items).filter (version · = w)) := by
    simpa using hsub.filter (version · = w)
  have hlen : ((inVersionOrder version items).filter (version · = w)).length
      = (items.filter (version · = w)).length :=
    ((inVersionOrder_perm version items).filter _).length_eq
  exact (hkeep.eq_of_length hlen.symm).symm

/-- Sorting looks at nothing but the versions. -/
theorem inVersionOrder_map {β : Type} (version : α → Int) (f : β → α) (items : List β) :
    inVersionOrder version (items.map f) = (inVersionOrder (fun b => version (f b)) items).map f := by
  rw [inVersionOrder, inVersionOrder]
  exact (List.map_mergeSort (f := f) fun _ _ _ _ => rfl).symm

/-- What a condition on versions keeps of one version: everything or nothing. -/
theorem filter_filter_version {version : α → Int} (items : List α) (p : Int → Prop)
    [DecidablePred p] (w : Int) :
    (items.filter fun a => p (version a)).filter (version · = w)
      = if p w then items.filter (version · = w) else [] := by
  rw [List.filter_filter]
  by_cases hw : p w
  · rw [if_pos hw]
    apply List.filter_congr
    intro a _
    by_cases ha : version a = w <;> simp [ha, hw]
  · rw [if_neg hw, List.filter_eq_nil_iff]
    intro a _
    by_cases ha : version a = w <;> simp [ha, hw]

/-- A list that ascends by version is determined by its sublists of one version each. -/
theorem eq_of_filter_version_eq {version : α → Int} :
    ∀ {as bs : List α}, as.Pairwise (fun a b => version a ≤ version b) →
      bs.Pairwise (fun a b => version a ≤ version b) →
      (∀ w, as.filter (version · = w) = bs.filter (version · = w)) → as = bs := by
  intro as
  induction as with
  | nil =>
    intro bs _ _ h
    cases bs with
    | nil => rfl
    | cons b bs => exact absurd (h (version b)) (by simp)
  | cons a as ih =>
    intro bs ha hb h
    cases bs with
    | nil => exact absurd (h (version a)) (by simp)
    | cons b bs =>
      rw [List.pairwise_cons] at ha hb
      have mem_iff : ∀ c, c ∈ a :: as ↔ c ∈ b :: bs := by
        intro c
        have hc : c ∈ (a :: as).filter (version · = version c)
            ↔ c ∈ (b :: bs).filter (version · = version c) := by rw [h]
        simpa [List.mem_filter] using hc
      -- Each head is a member of the other list, where no version is below that of the head.
      have hab : version a = version b := by
        apply Int.le_antisymm
        · rcases List.mem_cons.mp ((mem_iff b).mpr (List.mem_cons_self ..)) with rfl | hin
          · exact Int.le_refl _
          · exact ha.1 b hin
        · rcases List.mem_cons.mp ((mem_iff a).mp (List.mem_cons_self ..)) with rfl | hin
          · exact Int.le_refl _
          · exact hb.1 a hin
      have hhead := h (version a)
      simp only [List.filter_cons, hab, decide_true, if_true, List.cons.injEq] at hhead
      obtain ⟨rfl, htail⟩ := hhead
      rw [ih ha.2 hb.2]
      intro w
      by_cases hw : version a = w
      · rw [← hw]
        exact htail
      · simpa [List.filter_cons, hw] using h w

/-! ## The versions of a list -/

theorem mem_versionsOf {version : α → Int} {items : List α} {w : Int} :
    w ∈ versionsOf version items ↔ ∃ a ∈ items, version a = w := by
  simp [versionsOf]

/-- The versions ascend strictly. -/
theorem pairwise_versionsOf (version : α → Int) (items : List α) :
    (versionsOf version items).Pairwise (· < ·) := by
  have hle : (versionsOf version items).Pairwise (· ≤ ·) :=
    pairwise_inVersionOrder (fun w => w) (items.map version).dedup
  have hne : (versionsOf version items).Nodup :=
    (List.mergeSort_perm _ _).nodup_iff.mpr (List.nodup_dedup _)
  exact (hle.and hne).imp fun h => by omega

theorem nodup_versionsOf (version : α → Int) (items : List α) :
    (versionsOf version items).Nodup :=
  (pairwise_versionsOf version items).imp fun h => by omega

namespace VersionGroups

/-! ## Grouping -/

/-- The content of a group after items were added one after the other: what was there, then the
items of that version in order. -/
theorem contentAt?_foldl_insert (version : α → Int) (w : Int) (items : List α) :
    ∀ groups : VersionGroups α,
      contentAt? (items.foldl (fun groups item => insert groups (version item) item) groups) w
        = if ∃ a ∈ items, version a = w
          then some ((contentAt? groups w).getD [] ++ items.filter (version · = w))
          else contentAt? groups w := by
  induction items with
  | nil => simp
  | cons a rest ih =>
    intro groups
    rw [List.foldl_cons, ih, insert, contentAt?_putEntry]
    by_cases ha : w = version a
    · subst ha
      by_cases hr : ∃ b ∈ rest, version b = version a
      · simp [hr]
      · have hnone : rest.filter (version · = version a) = [] := by
          simpa using hr
        simp [hr, hnone]
    · have ha' : ¬ version a = w := fun h => ha h.symm
      simp [ha, ha']

/-- The keys stay distinct while items are added. -/
theorem nodup_keys_foldl_insert (version : α → Int) (items : List α) :
    ∀ groups : VersionGroups α, (groups.map Prod.fst).Nodup →
      ((items.foldl (fun groups item => insert groups (version item) item) groups).map
        Prod.fst).Nodup := by
  induction items with
  | nil => exact fun _ h => h
  | cons a rest ih => exact fun groups h => ih _ (nodup_keys_putEntry _ _ h)

/-- Groups in strictly ascending order are sorted. -/
theorem sorted_eq_self {groups : VersionGroups α}
    (h : (groups.map Prod.fst).Pairwise (· < ·)) : sorted groups = groups := by
  apply List.mergeSort_of_pairwise
  rw [List.pairwise_map] at h
  exact h.imp fun h => by simpa using Int.le_of_lt h

/-- Sorting groups with distinct versions makes the versions ascend strictly. -/
theorem pairwise_keys_sorted {groups : VersionGroups α} (h : (groups.map Prod.fst).Nodup) :
    ((sorted groups).map Prod.fst).Pairwise (· < ·) := by
  have hle : ((sorted groups).map Prod.fst).Pairwise (· ≤ ·) := by
    rw [List.pairwise_map]
    exact pairwise_inVersionOrder Prod.fst groups
  have hne : ((sorted groups).map Prod.fst).Nodup :=
    ((List.mergeSort_perm _ _).map Prod.fst).nodup_iff.mpr h
  exact (hle.and hne).imp fun h => by omega

/-- **Grouping in closed form**: the versions of the items in ascending order, each with the
sublist of the items that have it. -/
theorem partition_eq (version : α → Int) (items : List α) :
    partition version items
      = (versionsOf version items).map fun w => (w, items.filter (version · = w)) := by
  have hkeys := nodup_keys_foldl_insert version items [] (by simp)
  have hcontent := fun w => contentAt?_foldl_insert version w items []
  unfold partition
  -- From here on only the keys and the contents of the groups matter.
  generalize items.foldl (fun groups item => insert groups (version item) item) [] = groups at *
  have hperm : (sorted groups).Perm groups := List.mergeSort_perm ..
  have hsorted := pairwise_keys_sorted hkeys
  have hmem : ∀ w, w ∈ (sorted groups).map Prod.fst ↔ w ∈ versionsOf version items := by
    intro w
    have hw : w ∉ groups.map Prod.fst ↔ ¬ ∃ a ∈ items, version a = w := by
      rw [← contentAt?_eq_none_iff, hcontent]
      by_cases h : ∃ a ∈ items, version a = w <;> simp [h, contentAt?]
    rw [(hperm.map Prod.fst).mem_iff, mem_versionsOf]
    exact not_iff_not.mp hw
  have hfst : (sorted groups).map Prod.fst = versionsOf version items := by
    have hnodup : ((sorted groups).map Prod.fst).Nodup := hsorted.imp fun h => by omega
    have hp := (List.perm_ext_iff_of_nodup hnodup (nodup_versionsOf version items)).mpr hmem
    exact hp.eq_of_pairwise (fun a b _ _ h h' => by omega) hsorted
      (pairwise_versionsOf version items)
  apply entries_ext
  · simpa [Function.comp_def] using hfst
  · rw [hfst]
    exact nodup_versionsOf version items
  · intro w
    rw [contentAt?_perm hperm (hperm.map Prod.fst |>.nodup_iff.mpr hkeys) w, hcontent]
    by_cases hw : ∃ a ∈ items, version a = w
    · have hin := mem_versionsOf.mpr hw
      have hget : contentAt? ((versionsOf version items).map
          fun w => (w, items.filter (version · = w))) w = some (items.filter (version · = w)) :=
        contentAt?_map (by simpa using nodup_versionsOf version items) hin
      rw [hget]
      simp [hw, contentAt?]
    · have hout : contentAt? ((versionsOf version items).map
          fun w => (w, items.filter (version · = w))) w = none := by
        rw [contentAt?_eq_none_iff]
        simpa [mem_versionsOf, Function.comp_def] using hw
      rw [hout]
      simp [hw, contentAt?]

/-- The groups are those of the versions of the items. -/
theorem keys_partition (version : α → Int) (items : List α) :
    (partition version items).map Prod.fst = versionsOf version items := by
  simp [partition_eq, Function.comp_def]

/-! ## Accumulating -/

/-- Accumulating over strictly ascending versions: each gets what was there before and the groups of
all versions up to its own. -/
theorem accumulate_map {g : Int → List α} :
    ∀ {ws : List Int} (before : List α), ws.Pairwise (· < ·) →
      accumulate before (ws.map fun w => (w, g w))
        = ws.map fun w => (w, before ++ (ws.filter (· ≤ w)).flatMap g) := by
  intro ws
  induction ws with
  | nil => exact fun _ _ => rfl
  | cons a ws ih =>
    intro before hws
    rw [List.pairwise_cons] at hws
    obtain ⟨ha, hrest⟩ := hws
    -- The later versions exceed the first one, so that it gets its own group only.
    have hfirst : ws.filter (· ≤ a) = [] := by
      rw [List.filter_eq_nil_iff]
      intro w hw
      have := ha w hw
      simpa using this
    rw [List.map_cons, accumulate, ih _ hrest, List.map_cons]
    congr 1
    · simp [hfirst]
    · apply List.map_congr_left
      intro w hw
      have haw : a ≤ w := Int.le_of_lt (ha w hw)
      simp [haw]

/-- Of the groups of distinct versions, only that of a version holds items of it. -/
theorem filter_flatMap_filter (version : α → Int) (items : List α) (w : Int) :
    ∀ {ws : List Int}, ws.Nodup →
      (ws.flatMap fun u => items.filter (version · = u)).filter (version · = w)
        = if w ∈ ws then items.filter (version · = w) else [] := by
  intro ws
  induction ws with
  | nil => simp
  | cons u ws ih =>
    intro hws
    rw [List.nodup_cons] at hws
    rw [List.flatMap_cons, List.filter_append, ih hws.2, filter_filter_version items (· = u)]
    by_cases hu : w = u
    · subst hu
      simp [hws.1]
    · simp [hu]

/-- The groups of ascending versions, one after the other, are the items of these versions stably
sorted. -/
theorem flatMap_filter_eq (version : α → Int) (items : List α) {ws : List Int}
    (hws : ws.Pairwise (· < ·)) :
    ws.flatMap (fun w => items.filter (version · = w))
      = inVersionOrder version (items.filter fun a => decide (version a ∈ ws)) := by
  have hascending : (ws.flatMap fun w => items.filter (version · = w)).Pairwise
      fun a b => version a ≤ version b := by
    rw [List.pairwise_flatMap]
    constructor
    · intro w _
      refine List.pairwise_of_forall_mem_list fun a ha b hb => ?_
      simp only [List.mem_filter, decide_eq_true_eq] at ha hb
      omega
    · refine hws.imp ?_
      intro u v huv a ha b hb
      simp only [List.mem_filter, decide_eq_true_eq] at ha hb
      omega
  apply eq_of_filter_version_eq hascending (pairwise_inVersionOrder version _)
  intro w
  rw [filter_inVersionOrder, filter_filter_version items (· ∈ ws),
    filter_flatMap_filter version items w (hws.imp fun h => by omega)]

/-- **The items of each version in closed form**: the items up to that version, stably sorted. -/
theorem cumulative_partition (version : α → Int) (items : List α) :
    (partition version items).cumulative
      = (versionsOf version items).map fun w =>
          (w, inVersionOrder version (items.filter (version · ≤ w))) := by
  have hws := pairwise_versionsOf version items
  have hkeys : ((partition version items).map Prod.fst).Pairwise (· < ·) := by
    simpa [partition_eq, Function.comp_def] using hws
  rw [cumulative, sorted_eq_self hkeys, partition_eq, accumulate_map [] hws]
  apply List.map_congr_left
  intro w _
  rw [List.nil_append, flatMap_filter_eq version items (hws.filter _)]
  congr 2
  apply List.filter_congr
  intro a ha
  simp only [List.mem_filter, mem_versionsOf, decide_eq_true_eq, decide_eq_decide]
  exact ⟨fun h => h.2, fun h => ⟨⟨a, ha, rfl⟩, h⟩⟩

end VersionGroups

end RecordForge

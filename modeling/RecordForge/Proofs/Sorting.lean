import RecordForge.Proofs.Versions
import RecordForge.Sorting

/-!
# Sorting by a comparison that answers

A comparison that never refuses and decides an integer version of the items sorts them stably:
`Sorting.sort` gives the items in ascending order of their versions, those of one version in their
given order (`sort_eq`).

What every stage of the sort keeps is said by `StablySorted`: the items ascend, and those of one
version are the given ones in the given order. Turning a run round keeps the latter because a run
that descends has no version twice (`stablySorted_reverse`), and placing an item because it goes
behind all items of its version (`place_eq`). Only one list is stably sorted
(`StablySorted.eq_inVersionOrder`), so the stages need not be followed any further than that.
-/

namespace RecordForge

variable {α β ε : Type} {version : α → Int}

/-- The items are those given, in ascending order of their versions, and those of one version are
in their given order. -/
structure StablySorted (version : α → Int) (given items : List α) : Prop where
  ascending : items.Pairwise fun a b => version a ≤ version b
  stable : ∀ w, items.filter (version · = w) = given.filter (version · = w)

namespace StablySorted

variable {given items : List α}

/-- There is one way to sort stably. -/
theorem eq_inVersionOrder (h : StablySorted version given items) :
    items = inVersionOrder version given := by
  apply eq_of_filter_version_eq h.ascending (pairwise_inVersionOrder version given)
  intro w
  rw [filter_inVersionOrder, h.stable]

/-- Nothing is lost and nothing is there twice. -/
theorem perm (h : StablySorted version given items) : items.Perm given := by
  rw [h.eq_inVersionOrder]
  exact inVersionOrder_perm version given

end StablySorted

theorem stablySorted_inVersionOrder (version : α → Int) (given : List α) :
    StablySorted version given (inVersionOrder version given) :=
  ⟨pairwise_inVersionOrder version given, filter_inVersionOrder version given⟩

/-- Items whose versions descend strictly are sorted stably by turning them round. -/
theorem stablySorted_reverse {items : List α}
    (h : items.Pairwise fun a b => version b < version a) :
    StablySorted version items items.reverse := by
  constructor
  · rw [List.pairwise_reverse]
    exact h.imp Int.le_of_lt
  · intro w
    -- At most one item has the version, and a list of one item is its own reverse.
    have hone : ((items.filter (version · = w)).Pairwise fun _ _ => False) := by
      refine (List.pairwise_filter.mpr (h.imp ?_))
      intro a b hab ha hb
      simp only [decide_eq_true_eq] at ha hb
      omega
    rw [List.filter_reverse]
    cases hitems : items.filter (version · = w) with
    | nil => rfl
    | cons a rest =>
      rw [hitems, List.pairwise_cons] at hone
      cases rest with
      | nil => rfl
      | cons b rest => exact (hone.1 b (List.mem_cons_self ..)).elim

namespace Sorting

/-- The comparison of items of the form `f a` answers, and decides the versions. -/
def Decides (less : β → β → Except ε Bool) (f : α → β) (version : α → Int) : Prop :=
  ∀ a b, less (f a) (f b) = .ok (decide (version a < version b))

/-- Where an item is placed: behind all items whose version is not above its own. -/
def placed (version : α → Int) (x : α) (items : List α) : List α :=
  items.filter (version · ≤ version x) ++ x :: items.filter (version x < version ·)

/-- Placing an item in items that ascend sorts them with the item at their end. -/
theorem stablySorted_placed {items : List α} (x : α)
    (h : items.Pairwise fun a b => version a ≤ version b) :
    StablySorted version (items ++ [x]) (placed version x items) := by
  constructor
  · rw [placed, List.pairwise_append, List.pairwise_cons]
    refine ⟨h.filter _, ⟨?_, h.filter _⟩, ?_⟩
    · intro b hb
      simp only [List.mem_filter, decide_eq_true_eq] at hb
      omega
    · intro a ha b hb
      simp only [List.mem_filter, List.mem_cons, decide_eq_true_eq] at ha hb
      rcases hb with rfl | hb <;> omega
  · intro w
    rw [placed, List.filter_append, List.filter_cons, filter_filter_version _ (· ≤ version x),
      filter_filter_version _ (version x < ·), List.filter_append, List.filter_singleton]
    -- The items of the version are all on one side of the item.
    by_cases hw : version x < w
    · have hx : ¬ version x = w := by omega
      simp [hw, hx, Int.not_le.mpr hw]
    · by_cases hx : version x = w <;> simp [hw, hx, Int.not_lt.mp hw]

/-- An item below one of the ascending items is placed among those before it. -/
theorem placed_append_of_lt {before after : List α} {x y : α} (hxy : version x < version y)
    (h : (before ++ y :: after).Pairwise fun a b => version a ≤ version b) :
    placed version x (before ++ y :: after) = placed version x before ++ y :: after := by
  have hback : ∀ a ∈ y :: after, version x < version a := by
    intro a ha
    rw [List.pairwise_append, List.pairwise_cons] at h
    rcases List.mem_cons.mp ha with rfl | ha
    · exact hxy
    · exact Int.lt_of_lt_of_le hxy (h.2.1.1 a ha)
  have hnone : (y :: after).filter (version · ≤ version x) = [] := by
    rw [List.filter_eq_nil_iff]
    intro a ha
    simpa using hback a ha
  have hall : (y :: after).filter (version x < version ·) = y :: after := by
    rw [List.filter_eq_self]
    intro a ha
    simpa using hback a ha
  rw [placed, List.filter_append, List.filter_append, hnone, hall, placed]
  simp

/-- An item not below one of the ascending items is placed among those after it. -/
theorem placed_append_of_le {before after : List α} {x y : α} (hyx : version y ≤ version x)
    (h : (before ++ y :: after).Pairwise fun a b => version a ≤ version b) :
    placed version x (before ++ y :: after) = before ++ y :: placed version x after := by
  have hfront : ∀ a ∈ before, version a ≤ version x := by
    intro a ha
    rw [List.pairwise_append] at h
    exact Int.le_trans (h.2.2 a ha y (List.mem_cons_self ..)) hyx
  have hnone : before.filter (version x < version ·) = [] := by
    rw [List.filter_eq_nil_iff]
    intro a ha
    simpa using hfront a ha
  have hall : before.filter (version · ≤ version x) = before := by
    rw [List.filter_eq_self]
    intro a ha
    simpa using hfront a ha
  have hy : ¬ version x < version y := by omega
  rw [placed, List.filter_append, List.filter_append, hnone, hall, List.filter_cons,
    List.filter_cons, placed]
  simp [hyx, hy]

section

variable {less : β → β → Except ε Bool} {f : α → β}

/-- The run that goes on ascends, or descends strictly. -/
theorem takeRun_eq (hless : Decides less f version) (descending : Bool) :
    ∀ (items : List α) (last : α), ∃ run rest,
      takeRun less descending (f last) (items.map f) = .ok (run.map f, rest.map f)
        ∧ items = run ++ rest
        ∧ (last :: run).Pairwise fun a b => decide (version b < version a) = descending := by
  intro items
  induction items with
  | nil => exact fun last => ⟨[], [], rfl, rfl, List.pairwise_singleton ..⟩
  | cons x items ih =>
    intro last
    by_cases hx : decide (version x < version last) = descending
    · obtain ⟨run, rest, hrun, rfl, hpair⟩ := ih x
      refine ⟨x :: run, rest, ?_, rfl, ?_⟩
      · rw [List.map_cons, takeRun, hless, hrun]
        simp [bind, Except.bind, pure, Except.pure, hx]
      · -- The last item is on the right side of `x`, which is on the right side of the others.
        have hpair' := hpair
        rw [List.pairwise_cons] at hpair ⊢
        refine ⟨?_, hpair'⟩
        intro b hb
        rcases List.mem_cons.mp hb with rfl | hb
        · exact hx
        · have hxb := hpair.1 b hb
          cases descending <;> simp only [decide_eq_true_eq, decide_eq_false_iff_not] at hx hxb ⊢
            <;> omega
    · refine ⟨[], x :: items, ?_, rfl, List.pairwise_singleton ..⟩
      rw [List.map_cons, takeRun, hless]
      simp [bind, Except.bind, pure, Except.pure, hx]

/-- The first run is stably sorted. -/
theorem firstRun_eq (hless : Decides less f version) (items : List α) : ∃ given run rest,
    firstRun less (items.map f) = .ok (run.map f, rest.map f) ∧ items = given ++ rest
      ∧ StablySorted version given run := by
  match items with
  | [] => exact ⟨[], [], [], rfl, rfl, ⟨.nil, fun _ => rfl⟩⟩
  | [x] => exact ⟨[x], [x], [], rfl, rfl, ⟨List.pairwise_singleton .., fun _ => rfl⟩⟩
  | x :: y :: rest =>
    obtain ⟨run, rest, hrun, rfl, hpair⟩ :=
      takeRun_eq hless (decide (version y < version x)) rest y
    have hall : (x :: y :: run).Pairwise fun a b =>
        decide (version b < version a) = decide (version y < version x) := by
      refine List.pairwise_cons.mpr ⟨?_, hpair⟩
      intro b hb
      rcases List.mem_cons.mp hb with rfl | hb
      · rfl
      · have hyb := (List.pairwise_cons.mp hpair).1 b hb
        rw [decide_eq_decide] at hyb ⊢
        omega
    refine ⟨x :: y :: run, if version y < version x then (x :: y :: run).reverse else x :: y :: run,
      rest, ?_, rfl, ?_⟩
    · rw [List.map_cons, List.map_cons, firstRun, hless]
      by_cases hyx : version y < version x <;>
        simp [bind, Except.bind, pure, Except.pure, hyx] at hrun ⊢ <;> simp [hrun]
    · by_cases hyx : version y < version x
      · rw [if_pos hyx]
        exact stablySorted_reverse (hall.imp fun h => by simpa [hyx] using h)
      · rw [if_neg hyx]
        exact ⟨hall.imp fun h => by simpa [hyx] using h, fun _ => rfl⟩

theorem place_nil (x : β) : place less x [] = .ok [x] := by
  rw [place]
  split
  next => rfl
  next heq => exact absurd heq (by simp)

/-- Placing an item looks at the middle one and goes on in one half. -/
theorem place_of_drop {x y : β} {sorted after : List β}
    (h : sorted.drop (sorted.length / 2) = y :: after) :
    place less x sorted = (do
      if ← less x y then
        return (← place less x (sorted.take (sorted.length / 2))) ++ y :: after
      else
        return sorted.take (sorted.length / 2) ++ y :: (← place less x after)) := by
  rw [place]
  split
  next hnil => exact absurd (h.symm.trans hnil) (by simp)
  next heq =>
    obtain ⟨rfl, rfl⟩ := List.cons.inj (h.symm.trans heq)
    rfl

/-- **Placing by halving** finds the place behind all items that are not above. -/
theorem place_eq (hless : Decides less f version) (x : α) (items : List α)
    (h : items.Pairwise fun a b => version a ≤ version b) :
    place less (f x) (items.map f) = .ok ((placed version x items).map f) := by
  -- Both halves are shorter, so the induction is on the length.
  induction hlength : items.length using Nat.strongRecOn generalizing items with
  | ind n ih =>
    cases hdrop : items.drop (items.length / 2) with
    | nil =>
      have hnil : items = [] := by
        have hzero := congrArg List.length hdrop
        simp only [List.length_drop, List.length_nil] at hzero
        exact List.eq_nil_of_length_eq_zero (by omega)
      subst hnil
      exact place_nil (f x)
    | cons y after =>
      have hsplit : items.take (items.length / 2) ++ y :: after = items := by
        rw [← hdrop, List.take_append_drop]
      have hmiddle : (items.map f).drop ((items.map f).length / 2) = f y :: after.map f := by
        rw [List.length_map, ← List.map_drop, hdrop, List.map_cons]
      rw [place_of_drop hmiddle, hless, List.length_map, ← List.map_take]
      generalize items.take (items.length / 2) = before at *
      subst hsplit
      have hpair := h
      rw [List.pairwise_append, List.pairwise_cons] at hpair
      rw [List.length_append, List.length_cons] at hlength
      by_cases hxy : version x < version y
      · have hbefore := ih before.length (by omega) before hpair.1 rfl
        simp [bind, Except.bind, pure, Except.pure, hxy, hbefore, placed_append_of_lt hxy h]
      · have hafter := ih after.length (by omega) after hpair.2.1.2 rfl
        simp [bind, Except.bind, pure, Except.pure, hxy, hafter,
          placed_append_of_le (Int.not_lt.mp hxy) h]

/-- Placing the rest one after the other keeps the items stably sorted. -/
theorem foldlM_place (hless : Decides less f version) :
    ∀ (rest : List α) {given items : List α}, StablySorted version given items → ∃ all,
      (rest.map f).foldlM (fun sorted x => place less x sorted) (items.map f) = .ok (all.map f)
        ∧ StablySorted version (given ++ rest) all := by
  intro rest
  induction rest with
  | nil => exact fun h => ⟨_, rfl, by simpa using h⟩
  | cons x rest ih =>
    intro given items h
    have hx := stablySorted_placed x h.ascending
    have hnext : StablySorted version (given ++ [x]) (placed version x items) := by
      refine ⟨hx.ascending, fun w => ?_⟩
      rw [hx.stable, List.filter_append, List.filter_append, h.stable]
    obtain ⟨all, hall, hsorted⟩ := ih hnext
    refine ⟨all, ?_, by simpa using hsorted⟩
    rw [List.map_cons, List.foldlM_cons, place_eq hless x items h.ascending]
    exact hall

/-- **Sorting is stable**, and never fails if the comparison does not. -/
theorem sort_eq (hless : Decides less f version) (items : List α) :
    sort less (items.map f) = .ok ((inVersionOrder version items).map f) := by
  obtain ⟨given, run, rest, hrun, rfl, hsorted⟩ := firstRun_eq hless items
  obtain ⟨all, hall, hstable⟩ := foldlM_place hless rest hsorted
  rw [sort, hrun, ← hstable.eq_inVersionOrder]
  exact hall

end

end Sorting

end RecordForge

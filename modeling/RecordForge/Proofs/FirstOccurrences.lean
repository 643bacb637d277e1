import Mathlib.Data.List.Nodup
import Mathlib.Data.List.Induction

/-!
# First occurrences

What is left of a list if of equal elements only the first one stays. Elements are distinct
afterwards (`nodup_eraseDups`), and choosing among them can come first or last (`filter_eraseDups`).
Behind elements that are there already, a stretch of them adds nothing (`eraseDups_append_append`),
so lists that repeat what others hold can be put together in steps.
-/

namespace RecordForge

variable {α : Type} [DecidableEq α] {as bs xs : List α}

/-- A new element comes at the end, a repeated one not at all. -/
theorem eraseDups_concat (xs : List α) (x : α) :
    (xs ++ [x]).eraseDups = if x ∈ xs then xs.eraseDups else xs.eraseDups ++ [x] := by
  rw [List.eraseDups_append]
  by_cases h : x ∈ xs <;> simp [List.removeAll, h, List.eraseDups_cons]

theorem nodup_eraseDups (xs : List α) : xs.eraseDups.Nodup := by
  induction xs using List.reverseRecOn with
  | nil => exact List.nodup_nil
  | append_singleton xs x ih =>
    rw [eraseDups_concat]
    split
    next => exact ih
    next hx =>
      rw [List.nodup_append]
      refine ⟨ih, List.nodup_singleton x, ?_⟩
      rintro y hy z hz rfl
      obtain rfl := List.mem_singleton.mp hz
      exact hx (List.mem_eraseDups.mp hy)

/-- Distinct elements all stay. -/
theorem eraseDups_of_nodup (h : xs.Nodup) : xs.eraseDups = xs := by
  induction xs using List.reverseRecOn with
  | nil => rfl
  | append_singleton xs x ih =>
    rw [List.nodup_append] at h
    have hx : x ∉ xs := fun hin => h.2.2 x hin x (List.mem_singleton_self x) rfl
    rw [eraseDups_concat, if_neg hx, ih h.1]

/-- The first occurrences of chosen elements are chosen first occurrences. -/
theorem filter_eraseDups (p : α → Bool) (xs : List α) :
    xs.eraseDups.filter p = (xs.filter p).eraseDups := by
  induction xs using List.reverseRecOn with
  | nil => rfl
  | append_singleton xs x ih =>
    rw [eraseDups_concat, List.filter_append]
    by_cases hx : x ∈ xs <;> by_cases hp : p x = true <;>
      simp [hx, hp, ih, eraseDups_concat]

/-! ## Lists behind others -/

/-- What comes behind only depends on the first occurrences before it. -/
theorem eraseDups_append_congr (h : as.eraseDups = bs.eraseDups) (xs : List α) :
    (as ++ xs).eraseDups = (bs ++ xs).eraseDups := by
  have hmem : ∀ x, x ∈ as ↔ x ∈ bs := by
    intro x
    rw [← List.mem_eraseDups, h, List.mem_eraseDups]
  have hremove : xs.removeAll as = xs.removeAll bs := by simp [List.removeAll, hmem]
  rw [List.eraseDups_append, List.eraseDups_append, h, hremove]

/-- Repetitions behind other elements can be taken out early. -/
theorem eraseDups_append_eraseDups (as xs : List α) :
    (as ++ xs.eraseDups).eraseDups = (as ++ xs).eraseDups := by
  have hremove : xs.eraseDups.removeAll as = (xs.removeAll as).eraseDups := filter_eraseDups _ xs
  rw [List.eraseDups_append, List.eraseDups_append, hremove,
    eraseDups_of_nodup (nodup_eraseDups _)]

/-- Elements that are there already add nothing. -/
theorem eraseDups_append_append (h : xs ⊆ as) (ys : List α) :
    (as ++ (xs ++ ys)).eraseDups = (as ++ ys).eraseDups := by
  have hremove : (xs ++ ys).removeAll as = ys.removeAll as := by
    have hxs : xs.removeAll as = [] :=
      List.filter_eq_nil_iff.mpr fun x hx => by simpa using h hx
    calc (xs ++ ys).removeAll as = xs.removeAll as ++ ys.removeAll as := List.filter_append xs ys
      _ = ys.removeAll as := by rw [hxs, List.nil_append]
  rw [List.eraseDups_append, List.eraseDups_append, hremove]

/-! ## Stretches of distinct elements -/

/-- Some of distinct elements, in the same order, are what is left if the others are taken out. -/
theorem filter_mem_of_sublist (h : xs.Sublist as) (has : as.Nodup) : as.filter (· ∈ xs) = xs := by
  induction h with
  | slnil => rfl
  | @cons xs as a h ih =>
    rw [List.nodup_cons] at has
    have ha : a ∉ xs := fun hin => has.1 (h.subset hin)
    rw [List.filter_cons_of_neg (by simpa using ha), ih has.2]
  | @cons_cons xs as a h ih =>
    rw [List.nodup_cons] at has
    rw [List.filter_cons_of_pos (by simp)]
    congr 1
    refine Eq.trans (List.filter_congr fun x hx => ?_) (ih has.2)
    have hne : x ≠ a := fun heq => has.1 (heq ▸ hx)
    simp [hne]

/-- The same ones of distinct elements, in the same order, make up the same list. -/
theorem eq_of_sublist_of_mem_iff (has : as.Nodup) (hxs : xs.Sublist as) (hbs : bs.Sublist as)
    (h : ∀ x, x ∈ xs ↔ x ∈ bs) : xs = bs := by
  rw [← filter_mem_of_sublist hxs has, ← filter_mem_of_sublist hbs has]
  simp only [h]

end RecordForge

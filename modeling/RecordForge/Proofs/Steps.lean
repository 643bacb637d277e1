import Mathlib.Data.List.Basic

/-!
# Steps that may fail

When a computation of several steps succeeds, each of which may fail.
-/

namespace RecordForge

/-- Steps one after the other succeed if each of them does. -/
theorem bind_eq_ok_iff {ε α β : Type} {step : Except ε α} {next : α → Except ε β} {b : β} :
    step >>= next = .ok b ↔ ∃ a, step = .ok a ∧ next a = .ok b := by
  cases step with
  | error e => exact ⟨fun h => (by cases h), fun ⟨_, h, _⟩ => (by cases h)⟩
  | ok a => exact ⟨fun h => ⟨a, rfl, h⟩, fun ⟨_, ha, h⟩ => Except.ok.inj ha ▸ h⟩

theorem map_eq_ok_iff {ε α β : Type} {f : α → β} {step : Except ε α} {b : β} :
    f <$> step = .ok b ↔ ∃ a, step = .ok a ∧ f a = b := by
  cases step with
  | error e => exact ⟨fun h => (by cases h), fun ⟨_, h, _⟩ => (by cases h)⟩
  | ok a => exact ⟨fun h => ⟨a, rfl, Except.ok.inj h⟩, fun ⟨_, ha, h⟩ => Except.ok.inj ha ▸ h ▸ rfl⟩

theorem toOption_eq_some_iff {ε α : Type} {step : Except ε α} {a : α} :
    step.toOption = some a ↔ step = .ok a := by
  cases step with
  | error e => exact ⟨fun h => (by cases h), fun h => (by cases h)⟩
  | ok b => exact ⟨fun h => Option.some.inj h ▸ rfl, fun h => Except.ok.inj h ▸ rfl⟩

theorem mapError_eq_ok_iff {ε ε' α : Type} {f : ε → ε'} {step : Except ε α} {a : α} :
    step.mapError f = .ok a ↔ step = .ok a := by
  cases step with
  | error e => exact ⟨fun h => (by cases h), fun h => (by cases h)⟩
  | ok b => exact ⟨fun h => Except.ok.inj h ▸ rfl, fun h => Except.ok.inj h ▸ rfl⟩

theorem forM_eq_ok_iff {ε α : Type} {check : α → Except ε Unit} {as : List α} :
    as.forM check = .ok () ↔ ∀ a ∈ as, check a = .ok () := by
  induction as with
  | nil => exact ⟨fun _ a ha => absurd ha List.not_mem_nil, fun _ => rfl⟩
  | cons a rest ih =>
    have hunfold : (a :: rest).forM check = check a >>= fun _ => rest.forM check := rfl
    rw [hunfold, bind_eq_ok_iff, List.forall_mem_cons, ← ih]
    exact ⟨fun ⟨_, ha, hrest⟩ => ⟨ha, hrest⟩, fun ⟨ha, hrest⟩ => ⟨_, ha, hrest⟩⟩

/-- Mapping with a function that succeeds under a condition succeeds if all elements meet it. -/
theorem mapM_eq_ok_iff {ε α β : Type} {f : α → Except ε β} {p : α → Prop} {g : α → β}
    (h : ∀ a b, f a = .ok b ↔ p a ∧ b = g a) {as : List α} {bs : List β} :
    as.mapM f = .ok bs ↔ (∀ a ∈ as, p a) ∧ bs = as.map g := by
  induction as generalizing bs with
  | nil => exact ⟨fun hbs => ⟨List.forall_mem_nil _, (Except.ok.inj hbs).symm⟩,
      fun hbs => congrArg Except.ok hbs.2.symm⟩
  | cons a rest ih =>
    rw [List.mapM_cons, bind_eq_ok_iff, List.forall_mem_cons]
    simp only [bind_eq_ok_iff, ih, h]
    constructor
    · rintro ⟨b, ⟨ha, rfl⟩, bs', ⟨hrest, rfl⟩, hbs⟩
      exact ⟨⟨ha, hrest⟩, (Except.ok.inj hbs).symm⟩
    · rintro ⟨⟨ha, hrest⟩, rfl⟩
      exact ⟨_, ⟨ha, rfl⟩, _, ⟨hrest, rfl⟩, rfl⟩

/-- Mapping with a function that succeeds on all elements succeeds. -/
theorem mapM_eq_ok_map {ε α β : Type} {f : α → Except ε β} {g : α → β} {as : List α}
    (h : ∀ a ∈ as, f a = .ok (g a)) : as.mapM f = .ok (as.map g) := by
  induction as with
  | nil => rfl
  | cons a rest ih =>
    rw [List.mapM_cons, h a (List.mem_cons_self ..), ih fun b hb => h b (List.mem_cons_of_mem _ hb)]
    rfl

theorem mem_of_mapM_eq_ok {ε α β : Type} {f : α → Except ε β} {as : List α} {bs : List β} {a : α}
    {c : β} (h : as.mapM f = .ok bs) (ha : a ∈ as) (hc : f a = .ok c) : c ∈ bs := by
  induction as generalizing bs with
  | nil => cases ha
  | cons a' rest ih =>
    rw [List.mapM_cons, bind_eq_ok_iff] at h
    obtain ⟨b, hb, h⟩ := h
    obtain ⟨bs', hbs', h⟩ := bind_eq_ok_iff.mp h
    cases h
    rcases List.mem_cons.mp ha with rfl | ha
    · cases hb.symm.trans hc
      exact List.mem_cons_self ..
    · exact List.mem_cons_of_mem _ (ih hbs' ha)

end RecordForge

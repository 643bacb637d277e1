import Mathlib.Data.List.Nodup
import RecordForge.Schema.Class

/-!
# Resolution order

The layers that a class inherits are merged from the chains of its bases, one layer after the other.
A layer is taken only if it is behind another one nowhere, and it is taken off every sequence that
it heads, so it cannot come again: the merged layers keep the order of every chain, hold nothing
else and hold no layer twice (`merges_of_mergeWithin`). In a program every class is defined from
earlier ones (`Defined`), and then each layer of a chain is that of a class whose own chain is kept
in order (`Inherits`).
-/

namespace RecordForge

namespace Resolution

variable {seqs : List (List Layer)} {merged s t : List Layer} {l x : Layer}

/-- Layers with one number are one layer. -/
def Identified (layers : List Layer) : Prop :=
  ∀ l ∈ layers, ∀ l' ∈ layers, l.serial = l'.serial → l = l'

/-- These are the layers of the sequences, each once, and in the order of every sequence. -/
structure Merges (seqs : List (List Layer)) (merged : List Layer) : Prop where
  order : ∀ s ∈ seqs, s.Sublist merged
  mem : ∀ l ∈ merged, ∃ s ∈ seqs, l ∈ s
  once : (merged.map (·.serial)).Nodup

/-! ## One step -/

/-- Taking a layer off leaves the tail of a sequence that it heads, and any other one whole. -/
theorem mem_dropLayer : t ∈ dropLayer l seqs ↔
    (∃ x, x :: t ∈ seqs ∧ x.serial = l.serial)
      ∨ t ∈ seqs ∧ ∀ x ∈ t.head?, x.serial ≠ l.serial := by
  rw [dropLayer, List.mem_map]
  constructor
  · rintro ⟨s, hs, rfl⟩
    cases s with
    | nil => exact Or.inr ⟨hs, by simp⟩
    | cons x rest =>
      by_cases hx : x.serial = l.serial
      · exact Or.inl ⟨x, by simpa [hx] using hs, hx⟩
      · exact Or.inr ⟨by simpa [hx] using hs, by simp [hx]⟩
  · rintro (⟨x, hs, hx⟩ | ⟨hs, hne⟩)
    · exact ⟨x :: t, hs, by simp [hx]⟩
    · refine ⟨t, hs, ?_⟩
      cases t with
      | nil => rfl
      | cons x rest => simp [hne x rfl]

/-- What is left was there before. -/
theorem exists_mem_of_mem_dropLayer (ht : t ∈ dropLayer l seqs) (hx : x ∈ t) :
    ∃ s ∈ seqs, x ∈ s := by
  rcases mem_dropLayer.mp ht with ⟨y, hs, -⟩ | ⟨hs, -⟩
  · exact ⟨y :: t, hs, List.mem_cons_of_mem _ hx⟩
  · exact ⟨t, hs, hx⟩

/-- A layer that is behind in no sequence is gone once it is taken off. -/
theorem serial_ne_of_mem_dropLayer (hbehind : isBehind l seqs = false)
    (ht : t ∈ dropLayer l seqs) (hx : x ∈ t) : x.serial ≠ l.serial := by
  simp only [isBehind, List.any_eq_false] at hbehind
  rcases mem_dropLayer.mp ht with ⟨y, hs, -⟩ | ⟨hs, hhead⟩
  · exact fun heq => hbehind _ hs (by simpa using ⟨x, hx, heq⟩)
  · cases t with
    | nil => exact absurd hx (by simp)
    | cons y rest =>
      rcases List.mem_cons.mp hx with rfl | hrest
      · exact hhead x rfl
      · exact fun heq => hbehind _ hs (by simpa using ⟨x, hrest, heq⟩)

/-- The next layer heads a sequence and is behind in none. -/
theorem of_nextLayer? (h : nextLayer? seqs = some l) :
    (∃ s ∈ seqs, l ∈ s) ∧ isBehind l seqs = false := by
  rw [nextLayer?] at h
  refine ⟨?_, by simpa using List.find?_some h⟩
  obtain ⟨s, hs, hhead⟩ := List.mem_filterMap.mp (List.mem_of_find?_eq_some h)
  exact ⟨s, hs, List.mem_of_head? hhead⟩

theorem Merges.nil (h : seqs.all List.isEmpty = true) : Merges seqs [] where
  order s hs := by
    rw [List.isEmpty_iff.mp (List.all_eq_true.mp h s hs)]
  mem := by simp
  once := List.nodup_nil

/-- The next layer comes before what is merged from the rest. -/
theorem Merges.cons (hid : Identified seqs.flatten) (hnext : nextLayer? seqs = some l)
    (h : Merges (dropLayer l seqs) merged) : Merges seqs (l :: merged) := by
  obtain ⟨⟨s₀, hs₀, hl⟩, hbehind⟩ := of_nextLayer? hnext
  refine ⟨?_, ?_, ?_⟩
  · intro s hs
    cases s with
    | nil => exact List.nil_sublist _
    | cons x rest =>
      by_cases hx : x.serial = l.serial
      · obtain rfl : x = l :=
          hid x (List.mem_flatten.mpr ⟨_, hs, List.mem_cons_self ..⟩) l
            (List.mem_flatten.mpr ⟨s₀, hs₀, hl⟩) hx
        exact (h.order rest (mem_dropLayer.mpr (Or.inl ⟨x, hs, rfl⟩))).cons_cons x
      · exact (h.order _ (mem_dropLayer.mpr (Or.inr ⟨hs, by simpa using hx⟩))).cons l
  · intro x hx
    rcases List.mem_cons.mp hx with rfl | hx
    · exact ⟨s₀, hs₀, hl⟩
    · obtain ⟨t, ht, hxt⟩ := h.mem x hx
      exact exists_mem_of_mem_dropLayer ht hxt
  · -- What is merged later comes from sequences that the layer was taken off.
    rw [List.map_cons, List.nodup_cons]
    refine ⟨fun hin => ?_, h.once⟩
    obtain ⟨x, hx, heq⟩ := List.mem_map.mp hin
    obtain ⟨t, ht, hxt⟩ := h.mem x hx
    exact serial_ne_of_mem_dropLayer hbehind ht hxt heq

/-- **A merge keeps the order of every sequence.** -/
theorem merges_of_mergeWithin {steps : Nat} (hid : Identified seqs.flatten)
    (h : mergeWithin steps seqs = .ok merged) : Merges seqs merged := by
  induction steps generalizing seqs merged with
  | zero =>
    rw [mergeWithin] at h
    split at h
    next hempty =>
      cases h
      exact Merges.nil hempty
    next => cases h
  | succ steps ih =>
    rw [mergeWithin] at h
    split at h
    next hempty =>
      cases h
      exact Merges.nil hempty
    next =>
      split at h
      next => cases h
      next l hnext =>
        cases hrest : mergeWithin steps (dropLayer l seqs) with
        | error stuck =>
          rw [hrest] at h
          cases h
        | ok rest =>
          rw [hrest] at h
          cases h
          -- Taking layers off leaves no new ones, so their numbers still identify them.
          have hsub : Identified (dropLayer l seqs).flatten := by
            intro x hx y hy
            obtain ⟨t, ht, hxt⟩ := List.mem_flatten.mp hx
            obtain ⟨u, hu, hyu⟩ := List.mem_flatten.mp hy
            exact hid x (List.mem_flatten.mpr (exists_mem_of_mem_dropLayer ht hxt)) y
              (List.mem_flatten.mpr (exists_mem_of_mem_dropLayer hu hyu))
          exact Merges.cons hid hnext (ih hsub hrest)

end Resolution

/-! ## Definitions -/

namespace ClassDefinition

variable {d : ClassDefinition} {c : SchemaClass} {inherited : List Layer} {l : Layer}

/-- The classes that a definition names, and the one that model classes have in common. -/
theorem mem_allBases {b : SchemaClass} (h : b ∈ d.allBases) :
    b ∈ d.bases ∨ b = SchemaClass.modelBase := by
  rw [allBases] at h
  split at h
  next =>
    split at h
    next => exact Or.inl h
    next => simpa using h
  next => exact Or.inl h

/-- What a class collects as a model class is all that can change its layer. -/
theorem exists_collected (h : d.collecting (d.layer inherited) inherited = .ok l) :
    ∃ collected, l = { d.layer inherited with collected } := by
  rw [collecting] at h
  split at h
  next =>
    cases hhints : (SchemaClass.allHints (d.layer inherited :: inherited)).mapM
        (fun e => return (e.1, ← modelHint e.2) : String × Hint → Except DefinitionError _) with
    | error e =>
      simp only [hhints] at h
      cases h
    | ok hints =>
      simp only [hhints] at h
      cases h
      exact ⟨_, rfl⟩
  next =>
    cases h
    exact ⟨(d.layer inherited).collected, rfl⟩

/-- A class has the merged layers of its bases and a layer of its own. -/
theorem of_define (h : d.define = .ok c) :
    Resolution.inheritedLayers d.allBases = .ok c.inherited
      ∧ ∃ collected, c.own = { d.layer c.inherited with collected } := by
  rw [define] at h
  split at h
  next => cases h
  next =>
    split at h
    next => cases h
    next =>
      split at h
      next => cases h
      next inherited hinherited =>
        cases hown : d.collecting (d.layer inherited) inherited with
        | error e =>
          rw [hown] at h
          cases h
        | ok own =>
          rw [hown] at h
          cases h
          exact ⟨hinherited, exists_collected hown⟩

theorem serial_layer (d : ClassDefinition) (inherited : List Layer) :
    (d.layer inherited).serial = d.serial := by
  rw [layer]
  split <;> rfl

theorem serial_of_define (h : d.define = .ok c) : c.own.serial = d.serial := by
  obtain ⟨-, collected, hown⟩ := of_define h
  rw [hown]
  exact serial_layer d c.inherited

end ClassDefinition

/-! ## Programs -/

namespace SchemaClass

variable {classes : List SchemaClass} {b c : SchemaClass}

/-- The classes that definitions can build on: the earlier ones and that of all model classes. -/
def known (classes : List SchemaClass) : List SchemaClass :=
  modelBase :: classes

/-- These classes, the last one first, are defined one after the other: the bases of each are known
and its number is new. -/
inductive Defined : List SchemaClass → Prop where
  | nil : Defined []
  | cons {classes : List SchemaClass} {d : ClassDefinition} {c : SchemaClass}
      (earlier : Defined classes) (bases : ∀ b ∈ d.bases, b ∈ known classes)
      (fresh : ∀ b ∈ known classes, b.own.serial ≠ d.serial) (define : d.define = .ok c) :
      Defined (c :: classes)

/-- Every layer that a class inherits is that of one of these classes, whose chain is kept in order,
and no layer comes twice. -/
structure Inherits (classes : List SchemaClass) (c : SchemaClass) : Prop where
  layer : ∀ l ∈ c.inherited, ∃ b ∈ classes, b.own = l ∧ b.layers.Sublist c.inherited
  once : (c.layers.map (·.serial)).Nodup

theorem Inherits.mono {more : List SchemaClass} (h : Inherits classes c) (hsub : classes ⊆ more) :
    Inherits more c where
  layer l hl :=
    have ⟨b, hb, hown, hchain⟩ := h.layer l hl
    ⟨b, hsub hb, hown, hchain⟩
  once := h.once

/-- Every layer of a class, its own one included, is that of a class whose chain is kept in
order. -/
theorem Inherits.of_mem_layers (h : Inherits classes c)
    (hc : c ∈ classes) {l : Layer} (hl : l ∈ c.layers) :
    ∃ b ∈ classes, b.own = l ∧ b.layers.Sublist c.layers := by
  rcases List.mem_cons.mp hl with rfl | hl
  · exact ⟨c, hc, rfl, List.Sublist.refl _⟩
  · obtain ⟨b, hb, hown, hchain⟩ := h.layer l hl
    exact ⟨b, hb, hown, hchain.cons _⟩

/-- What the class of an inherited layer inherits stands behind that layer. -/
theorem Inherits.behind (h : Inherits classes c) {l : Layer} {behind : List Layer}
    (hsuffix : l :: behind <:+ c.inherited) :
    ∃ b ∈ classes, b.own = l ∧ b.layers.Sublist c.inherited ∧ b.inherited.Sublist behind := by
  obtain ⟨before, hsplit⟩ := hsuffix
  obtain ⟨b, hb, rfl, hchain⟩ := h.layer l (by simp [← hsplit])
  refine ⟨b, hb, rfl, hchain, ?_⟩
  -- The layer comes nowhere before this place, so the chain can only start here.
  have hbefore : ∀ x ∈ before, x ≠ b.own := by
    rintro x hx rfl
    have honce := h.once
    simp only [layers, ← hsplit, List.map_cons, List.map_append, List.nodup_cons,
      List.nodup_append] at honce
    exact honce.2.2.2 _ (List.mem_map_of_mem hx) _ (List.mem_cons_self ..) rfl
  rw [← hsplit] at hchain
  clear hsplit
  induction before with
  | nil => exact List.cons_sublist_cons.mp hchain
  | cons x before ih =>
    rcases List.cons_sublist_cons'.mp hchain with hchain | ⟨heq, -⟩
    · exact ih hchain fun y hy => hbefore y (List.mem_cons_of_mem _ hy)
    · exact absurd heq.symm (hbefore x (List.mem_cons_self ..))

/-- Classes with different numbers, all of whose chains consist of layers of such classes. -/
structure Consistent (classes : List SchemaClass) : Prop where
  serials : (classes.map (·.own.serial)).Nodup
  inherits : ∀ c ∈ classes, Inherits classes c

/-- Classes with one number are one class. -/
theorem Consistent.ext (h : Consistent classes) (hb : b ∈ classes) (hc : c ∈ classes)
    (heq : b.own.serial = c.own.serial) : b = c :=
  List.inj_on_of_nodup_map h.serials hb hc heq

/-- What holds of a class if it holds of all whose chains it inherits holds of every class. -/
theorem chain_induction {P : SchemaClass → Prop}
    (step : ∀ c ∈ classes, (∀ b ∈ classes, b.layers.Sublist c.inherited → P b) → P c) :
    ∀ c ∈ classes, P c := by
  intro c
  induction hn : c.inherited.length using Nat.strongRecOn generalizing c with
  | ind n ih =>
    intro hc
    refine step c hc fun b hb hsub => ih b.inherited.length ?_ b rfl hb
    have hlength := hsub.length_le
    rw [layers, List.length_cons] at hlength
    omega

theorem Consistent.identified (h : Consistent classes) {bases : List SchemaClass}
    (hbases : ∀ b ∈ bases, b ∈ classes) :
    Resolution.Identified (bases.map (·.layers) ++ [bases.map (·.own)]).flatten := by
  have hknown : ∀ l ∈ (bases.map (·.layers) ++ [bases.map (·.own)]).flatten,
      ∃ b ∈ classes, b.own = l := by
    intro l hl
    obtain ⟨s, hs, hl⟩ := List.mem_flatten.mp hl
    rcases List.mem_append.mp hs with hs | hs
    · obtain ⟨b, hb, rfl⟩ := List.mem_map.mp hs
      obtain ⟨b', hb', hown, -⟩ := (h.inherits b (hbases b hb)).of_mem_layers (hbases b hb) hl
      exact ⟨b', hb', hown⟩
    · obtain rfl := List.mem_singleton.mp hs
      obtain ⟨b, hb, rfl⟩ := List.mem_map.mp hl
      exact ⟨b, hbases b hb, rfl⟩
  intro l hl l' hl' heq
  obtain ⟨b, hb, rfl⟩ := hknown l hl
  obtain ⟨b', hb', rfl⟩ := hknown l' hl'
  rw [h.ext hb hb' heq]

/-- What a class inherits from known classes. -/
theorem Consistent.inherits_of_define (h : Consistent classes) {d : ClassDefinition}
    (hbases : ∀ b ∈ d.allBases, b ∈ classes) (hfresh : ∀ b ∈ classes, b.own.serial ≠ d.serial)
    (hdefine : d.define = .ok c) : Inherits classes c := by
  obtain ⟨hinherited, -⟩ := ClassDefinition.of_define hdefine
  have hmerges : Resolution.Merges _ c.inherited :=
    Resolution.merges_of_mergeWithin (h.identified hbases) hinherited
  have hlayer : ∀ l ∈ c.inherited, ∃ b ∈ classes, b.own = l ∧ b.layers.Sublist c.inherited := by
    intro l hl
    -- Every layer comes from the chain of a base, which the merge keeps in order.
    have hbase : ∃ b ∈ d.allBases, l ∈ b.layers := by
      obtain ⟨s, hs, hl⟩ := hmerges.mem l hl
      rcases List.mem_append.mp hs with hs | hs
      · obtain ⟨b, hb, rfl⟩ := List.mem_map.mp hs
        exact ⟨b, hb, hl⟩
      · obtain rfl := List.mem_singleton.mp hs
        obtain ⟨b, hb, rfl⟩ := List.mem_map.mp hl
        exact ⟨b, hb, List.mem_cons_self ..⟩
    obtain ⟨b, hb, hl⟩ := hbase
    obtain ⟨b', hb', hown, hchain⟩ := (h.inherits b (hbases b hb)).of_mem_layers (hbases b hb) hl
    have hkept : b.layers.Sublist c.inherited :=
      hmerges.order _ (List.mem_append_left _ (List.mem_map_of_mem hb))
    exact ⟨b', hb', hown, hchain.trans hkept⟩
  refine ⟨hlayer, ?_⟩
  rw [layers, List.map_cons, List.nodup_cons]
  refine ⟨fun hin => ?_, hmerges.once⟩
  obtain ⟨l, hl, heq⟩ := List.mem_map.mp hin
  obtain ⟨b, hb, rfl, -⟩ := hlayer l hl
  exact hfresh b hb (heq.trans (ClassDefinition.serial_of_define hdefine))

/-- **Every chain of a program keeps the chains that it is made of.** -/
theorem Defined.consistent (h : Defined classes) : Consistent (known classes) := by
  induction h with
  | nil =>
    refine ⟨List.nodup_singleton _, fun c hc => ?_⟩
    obtain rfl := List.mem_singleton.mp hc
    exact ⟨fun l hl => absurd hl (by simp [modelBase]), List.nodup_singleton _⟩
  | @cons classes d c earlier bases fresh define ih =>
    have hbases : ∀ b ∈ d.allBases, b ∈ known classes := by
      intro b hb
      rcases ClassDefinition.mem_allBases hb with hb | rfl
      · exact bases b hb
      · exact List.mem_cons_self ..
    have hperm : (known (c :: classes)).Perm (c :: known classes) := List.Perm.swap ..
    have hsub : known classes ⊆ known (c :: classes) := fun b hb =>
      hperm.mem_iff.mpr (List.mem_cons_of_mem _ hb)
    refine ⟨?_, fun b hb => ?_⟩
    · -- The number of the new class is that of its definition, which no known class has.
      rw [(hperm.map _).nodup_iff, List.map_cons, List.nodup_cons]
      refine ⟨fun hin => ?_, ih.serials⟩
      obtain ⟨b, hb, heq⟩ := List.mem_map.mp hin
      exact fresh b hb (heq.trans (ClassDefinition.serial_of_define define))
    · rcases List.mem_cons.mp (hperm.mem_iff.mp hb) with rfl | hb
      · exact (ih.inherits_of_define hbases fresh define).mono hsub
      · exact (ih.inherits b hb).mono hsub

end SchemaClass

end RecordForge

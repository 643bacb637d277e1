import Mathlib.Data.List.Nodup
import Mathlib.Data.List.Perm.Subperm
import RecordForge.Proofs.Reading

/-!
# Discovery

A module's names are bound to classes and to other things, and several names may stand for one
class. The classes that a module declares are those that it binds, that are marked themselves and
that were defined in it (`Declares`). All of them are found and nothing else is (`mem_discover`),
but the search goes over the names: a class is found once, in its place, exactly if no other name
stands for it as well (`discovers_iff`), and every class that is found has a result of its own.
-/

namespace RecordForge

namespace SchemaModule

variable {m : SchemaModule} {c : SchemaClass}

/-- The class is marked itself, and defined in the module. -/
def Declares (m : SchemaModule) (c : SchemaClass) : Prop :=
  (∃ v, c.own.mark = .version v) ∧ c.own.module = m.name

/-- A name stands for the class. -/
def Binds (m : SchemaModule) (c : SchemaClass) : Prop :=
  ∃ name, (name, Item.schema c) ∈ m.bindings

/-- The first class has a binding that comes before every one of the second class. -/
def BindsBefore (m : SchemaModule) (c d : SchemaClass) : Prop :=
  ∃ before name after, m.bindings = before ++ (name, .schema c) :: after
    ∧ ∀ name', (name', Item.schema d) ∉ before ++ [(name, .schema c)]

/-- These are the classes that the module binds and declares, each once and in the order in which
they were first bound. -/
structure Discovers (m : SchemaModule) (found : List SchemaClass) : Prop where
  mem_iff : ∀ c, c ∈ found ↔ m.Binds c ∧ m.Declares c
  once : found.Nodup
  inOrder : found.Pairwise m.BindsBefore

/-- No two names stand for one class that the module declares. -/
def BindsOnce (m : SchemaModule) : Prop :=
  m.bindings.Pairwise fun e e' => ∀ c, m.Declares c → e.2 = .schema c → e'.2 ≠ .schema c

/-! ## The search -/

/-- The class of a binding that the module declares. -/
def declared? (m : SchemaModule) (binding : String × Item) : Option SchemaClass :=
  (markedClass? binding.2).filter (·.own.module = m.name)

theorem markedVersion?_isSome_iff :
    c.markedVersion?.isSome = true ↔ ∃ v, c.own.mark = .version v := by
  rw [SchemaClass.markedVersion?]
  cases c.own.mark <;> simp

theorem declared?_eq_some_iff {binding : String × Item} :
    m.declared? binding = some c ↔ binding.2 = .schema c ∧ m.Declares c := by
  rw [declared?, Option.filter_eq_some_iff, Declares, ← markedVersion?_isSome_iff]
  obtain ⟨name, item⟩ := binding
  cases item with
  | schema d =>
    by_cases hmark : d.markedVersion?.isSome = true <;> simp [markedClass?, hmark] <;> grind
  | declaration d => simp [markedClass?]
  | value v => simp [markedClass?]
  | object d => simp [markedClass?]

/-- The search goes over the bindings. -/
theorem discover_eq (m : SchemaModule) : m.discover = m.bindings.filterMap m.declared? := by
  rw [discover, List.filter_filterMap]
  rfl

/-- **Nothing is missed, and nothing else is found.** -/
theorem mem_discover : c ∈ m.discover ↔ m.Binds c ∧ m.Declares c := by
  rw [discover_eq, List.mem_filterMap]
  constructor
  · rintro ⟨⟨name, item⟩, hin, hc⟩
    obtain ⟨rfl, hdeclares⟩ := declared?_eq_some_iff.mp hc
    exact ⟨⟨name, hin⟩, hdeclares⟩
  · rintro ⟨⟨name, hin⟩, hdeclares⟩
    exact ⟨(name, .schema c), hin, declared?_eq_some_iff.mpr ⟨rfl, hdeclares⟩⟩

/-- Every class is found once exactly if it is bound once. -/
theorem nodup_discover_iff : m.discover.Nodup ↔ m.BindsOnce := by
  rw [discover_eq, List.Nodup, List.pairwise_filterMap, BindsOnce]
  refine List.Pairwise.iff fun e e' => ?_
  simp only [declared?_eq_some_iff]
  constructor
  · rintro h c hc he he'
    exact h c ⟨he, hc⟩ c ⟨he', hc⟩ rfl
  · rintro h c ⟨he, hc⟩ d ⟨he', -⟩ rfl
    exact h c hc he he'

/-- Classes that are bound once are found in the order in which they were first bound. -/
theorem inOrder_discover (h : m.BindsOnce) : m.discover.Pairwise m.BindsBefore := by
  rw [discover_eq, List.pairwise_filterMap, List.pairwise_iff_getElem]
  rw [BindsOnce, List.pairwise_iff_getElem] at h
  intro i j hi hj hij c hc d hd
  obtain ⟨hbound, -⟩ := declared?_eq_some_iff.mp hc
  obtain ⟨hbound', hdeclares⟩ := declared?_eq_some_iff.mp hd
  have hbinding : (m.bindings[i].1, Item.schema c) = m.bindings[i] := Prod.ext rfl hbound.symm
  refine ⟨m.bindings.take i, m.bindings[i].1, m.bindings.drop (i + 1), ?_, ?_⟩
  · rw [hbinding, List.getElem_cons_drop hi, List.take_append_drop]
  · -- A binding of the second class up to here would be another one than its own.
    intro name' hin
    rw [hbinding, List.take_append_getElem hi] at hin
    obtain ⟨k, hk, heq⟩ := List.mem_take_iff_getElem.mp hin
    have hkj : k < j := by omega
    exact h k j (by omega) hj hkj d hdeclares (congrArg Prod.snd heq) hbound'

theorem discovers_discover_iff : m.Discovers m.discover ↔ m.BindsOnce :=
  ⟨fun h => nodup_discover_iff.mp h.once,
    fun h => ⟨fun _ => mem_discover, nodup_discover_iff.mpr h, inOrder_discover h⟩⟩

/-- There are as many classes as the search finds exactly if each is bound once. -/
theorem exists_discovers_iff :
    (∃ found, m.Discovers found ∧ m.discover.length = found.length) ↔ m.BindsOnce := by
  constructor
  · rintro ⟨found, hfound, hlength⟩
    have hsub : found ⊆ m.discover := fun c hc => mem_discover.mpr ((hfound.mem_iff c).mp hc)
    have hperm : found.Perm m.discover :=
      (hfound.once.subperm hsub).perm_of_length_le (Nat.le_of_eq hlength)
    exact nodup_discover_iff.mp (hperm.nodup_iff.mp hfound.once)
  · intro h
    exact ⟨m.discover, discovers_discover_iff.mpr h, rfl⟩

end SchemaModule

open SchemaModule

namespace Generation

/-- Unless a failure stops the run, every class that is found has the result that is due. -/
theorem answers_runModule {σ : Type} {config : Config} {writer : Option (Write σ)} {s : σ}
    {m : SchemaModule} (h : (runModule config writer s m).result.stoppedBy = none) :
    List.Forall₂ (fun c r => Answers config writer (.schema c) r (declare config (.schema c)))
      m.discover (runModule config writer s m).result.results := by
  have hcomplete : Complete (declare config) config writer (m.discover.map Item.schema)
      (runModule config writer s m) :=
    (complete_of_finished s h).1
  exact List.forall₂_map_left_iff.mp hcomplete.results

end Generation

namespace SchemaModule

/-- **Each declared class is found once exactly if one name stands for it.** Whatever the names of a
module are bound to: the classes that are found are those that the module binds and declares, each
once and in the order in which they were first bound, exactly if no two names stand for one of them;
in any case none is missed and nothing else is found. Unless a failure stops the run, generating the
module gives for every class that is found, in order, the result that is due, so that there is one
result for each declared class exactly if no two names stand for one of them. -/
theorem discovers_iff (m : SchemaModule) :
    (m.Discovers m.discover ↔ m.BindsOnce)
      ∧ (∀ c, c ∈ m.discover ↔ m.Binds c ∧ m.Declares c)
      ∧ ∀ (σ : Type) (config : Config) (writer : Option (Write σ)) (s : σ),
        let batch := (Generation.runModule config writer s m).result
        batch.stoppedBy = none →
          List.Forall₂ (fun c r => Generation.Answers config writer (.schema c) r
            (Generation.declare config (.schema c))) m.discover batch.results
          ∧ ((∃ found, m.Discovers found ∧ batch.results.length = found.length)
            ↔ m.BindsOnce) := by
  refine ⟨discovers_discover_iff, fun _ => mem_discover, ?_⟩
  intro σ config writer s batch hfinished
  have hanswers := Generation.answers_runModule hfinished
  refine ⟨hanswers, ?_⟩
  rw [← hanswers.length_eq]
  exact exists_discovers_iff

/-- A marked class with one column. -/
def marked (serial : Nat) (module name : String) : SchemaClass where
  own := {
    serial, name, module
    hints := [("mText", .annotated (Hint.builtin "str") [.column {}])]
    mark := .version (.int 1) }

/-- Two classes of the module, one of another module, a class that only derives from a marked one,
and a number. -/
def register : SchemaModule where
  name := "app"
  bindings := [
    ("Page", .schema (marked 2 "app" "Page")),
    ("Paper", .schema (marked 3 "stock" "Paper")),
    ("Slip", .schema {
      own := { serial := 4, name := "Slip", module := "app" }
      inherited := [(marked 2 "app" "Page").own] }),
    ("limit", .value (.int 3)),
    ("Cover", .schema (marked 5 "app" "Cover"))]

/-- The two marked classes of the module are found and generated, each once. -/
theorem discovers_register :
    (Generation.runModule {} (some Writer.memory.write) {} register).result.stoppedBy = none
      ∧ register.Discovers [marked 2 "app" "Page", marked 5 "app" "Cover"]
      ∧ (Generation.runModule {} (some Writer.memory.write) {} register).result.results.length
        = 2 := by
  obtain ⟨hdiscovers, -, hresults⟩ := discovers_iff register
  have hfound : register.discover = [marked 2 "app" "Page", marked 5 "app" "Cover"] := rfl
  have honce : register.BindsOnce := by
    rw [← nodup_discover_iff, hfound]
    exact List.Nodup.of_map (·.own.serial) (by decide)
  have hfinished :
      (Generation.runModule {} (some Writer.memory.write) {} register).result.stoppedBy = none := by
    decide +kernel
  obtain ⟨hanswers, -⟩ := hresults Outputs {} (some Writer.memory.write) {} hfinished
  exact ⟨hfinished, hfound ▸ hdiscovers.mpr honce, hanswers.length_eq.symm⟩

/-- A class with a second name is found twice, and generated twice. -/
theorem not_discovers_alias :
    let page := marked 2 "app" "Page"
    let m : SchemaModule := ⟨"app", [("Page", .schema page), ("Leaf", .schema page)]⟩
    let batch := (Generation.runModule {} (some Writer.memory.write) {} m).result
    ¬ m.Discovers m.discover
      ∧ m.discover = [page, page] ∧ batch.stoppedBy = none
      ∧ batch.results.map (·.typeName) = ["Page", "Page"] := by
  refine ⟨fun h => ?_, rfl, by decide +kernel, by decide +kernel⟩
  have honce : [marked 2 "app" "Page", marked 2 "app" "Page"].Nodup := h.once
  exact (List.nodup_cons.mp honce).1 (List.mem_singleton_self _)

end SchemaModule

end RecordForge

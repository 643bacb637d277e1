import RecordForge.Proofs.HintForming

/-!
# Innermost types

A hint is built around a named type by wrappings: notes are attached, or null is put beside the hint
in a union of either spelling. However many of them there are, in whatever order, the hint goes by
the name of the innermost type, while a union of different types goes by the name of none of them
(`typeName_innermost`).

Forming a union flattens it and joins its members, so a wrapping need not leave the hint inside it
whole. What every wrapping keeps is that the hint encloses its type (`wrap_isBuilt`). A wrapping is
refused only where a union would have to compare notes that have no hash, which says when a hint
comes about at all (`isBuilt_around`).
-/

namespace RecordForge

/-- One way of building a hint around another one. -/
inductive Wrapping where
  /-- Notes are attached, at least one. -/
  | annotated (note : HintNote) (more : List HintNote)
  /-- Null is allowed as well. -/
  | optional
  /-- A union in the long spelling, with null so many times before and behind the hint. -/
  | union (before behind : Nat)
  /-- A union in the short spelling, with null in front of the hint. -/
  | nullFirst
  /-- A union in the short spelling, with null behind the hint. -/
  | nullLast
deriving Inhabited, Repr

namespace Wrapping

/-- The hint that is built around another one. -/
def wrap : Wrapping → Hint → Except HintError Hint
  | .annotated note more, h => h.annotatedOf (note :: more)
  | .optional, h => h.optionalOf
  | .union before behind, h =>
    Hint.unionOf (List.replicate before .null ++ h :: List.replicate behind .null)
  | .nullFirst, h => Hint.alternative .null h
  | .nullLast, h => Hint.alternative h .null

/-- The notes that are attached. -/
def notes : Wrapping → List HintNote
  | .annotated note more => note :: more
  | _ => []

/-- Whether null is put beside the hint. -/
def isUnion : Wrapping → Bool
  | .annotated _ _ => false
  | _ => true

/-- A union can be put around notes that have hashes. -/
def Admits (outer inner : Wrapping) : Prop :=
  outer.isUnion = true → ∀ note ∈ inner.notes, note.checkKey = .ok ()

end Wrapping

namespace Hint

variable {h k m x : Hint} {hs ms : List Hint} {n : TypeName} {notes : List HintNote}

/-- The hint that wrappings build around a type, the first one of them being the outermost. -/
def around (n : TypeName) : List Wrapping → Except HintError Hint
  | [] => .ok (.named n)
  | w :: ws => around n ws >>= w.wrap

/-! ## Members beside null -/

theorem eq_nullType_of_isNullType (hnull : h.isNullType = true) : h = nullType := by
  cases h <;> simp only [isNullType, reduceCtorEq, decide_eq_true_eq] at hnull
  exact congrArg named hnull

/-- A hint around a type has one member besides null, which is itself around that type. -/
theorem Encloses.exists_member (he : Encloses n h) (hn : (named n).isNullType = false) :
    ∃ x, besidesNull (unionMembers h) = [x] ∧ Encloses n x := by
  cases he with
  | type => exact ⟨named n, by simp [unionMembers, members?, besidesNull, hn], .type⟩
  | annotated hinner => exact ⟨_, rfl, .annotated hinner⟩
  | union hms hone hinner => exact ⟨_, by simpa [unionMembers, hms] using hone, hinner⟩

theorem Encloses.of_mem_unionMembers (he : Encloses n h) (hn : (named n).isNullType = false)
    (hm : m ∈ unionMembers h) : m = nullType ∨ Encloses n m := by
  cases hnull : m.isNullType with
  | true => exact .inl (eq_nullType_of_isNullType hnull)
  | false =>
    obtain ⟨x, hone, hx⟩ := he.exists_member hn
    have hm : m ∈ besidesNull (unionMembers h) := mem_besidesNull.mpr ⟨hm, hnull⟩
    rw [hone, List.mem_singleton] at hm
    exact .inr (hm ▸ hx)

/-- The members of a hint between so many types of null. -/
def amidNulls (h : Hint) (before behind : Nat) : List Hint :=
  List.replicate before nullType ++ unionMembers h ++ List.replicate behind nullType

theorem besidesNull_amidNulls (h : Hint) (before behind : Nat) :
    besidesNull (amidNulls h before behind) = besidesNull (unionMembers h) := by
  have hnulls : ∀ count, besidesNull (List.replicate count nullType) = [] := by
    intro count
    simp [besidesNull, nullType, builtin, isNullType]
  rw [amidNulls]
  simp only [besidesNull, List.filter_append] at hnulls ⊢
  rw [hnulls, hnulls, List.nil_append, List.append_nil]

theorem mem_amidNulls {before behind : Nat} (hm : m ∈ amidNulls h before behind) :
    m = nullType ∨ m ∈ unionMembers h := by
  simp only [amidNulls, List.mem_append, List.mem_replicate] at hm
  tauto

theorem checkKey_unionMembers_iff :
    h.checkKey = .ok () ↔ ∀ m ∈ unionMembers h, m.checkKey = .ok () := by
  cases hms : h.members? with
  | none => simp [unionMembers, hms]
  | some ms => simpa [unionMembers, hms] using checkKey_eq_ok_iff hms

theorem checkKey_amidNulls_iff (before behind : Nat) :
    (∀ m ∈ amidNulls h before behind, m.checkKey = .ok ()) ↔ h.checkKey = .ok () := by
  rw [checkKey_unionMembers_iff]
  constructor
  · intro hkeys m hm
    exact hkeys m (List.mem_append_left _ (List.mem_append_right _ hm))
  · intro hkeys m hm
    rcases mem_amidNulls hm with rfl | hm
    · rfl
    · exact hkeys m hm

/-! ## Unions around a hint -/

theorem mapM_typeArgument_nulls (he : Encloses n h) (before behind : Nat) :
    (List.replicate before null ++ h :: List.replicate behind null).mapM typeArgument
      = .ok (List.replicate before nullType ++ h :: List.replicate behind nullType) := by
  have hmention := mentions_of_encloses he
  have hnull : typed null = nullType := rfl
  rw [mapM_eq_ok_map (g := typed)]
  · simp [typed_of_mentions hmention, hnull]
  · intro a ha
    simp only [List.mem_append, List.mem_cons, List.mem_replicate] at ha
    obtain ⟨-, rfl⟩ | rfl | ⟨-, rfl⟩ := ha
    · rfl
    · rw [typeArgument_of_mentions hmention, typed_of_mentions hmention]
    · rfl

theorem flatMap_unionMembers_nulls (h : Hint) (before behind : Nat) :
    (List.replicate before nullType ++ h :: List.replicate behind nullType).flatMap unionMembers
      = amidNulls h before behind := by
  have hnulls : ∀ count,
      (List.replicate count nullType).flatMap unionMembers = List.replicate count nullType := by
    intro count
    induction count with
    | zero => rfl
    | succ count ih => rw [List.replicate_succ, List.flatMap_cons, ih]; rfl
  rw [List.flatMap_append, List.flatMap_cons, hnulls, hnulls, amidNulls, List.append_assoc]

/-- In the long spelling the hint is put between nulls. -/
theorem unionOf_nulls_eq_ok_iff (he : Encloses n h) {before behind : Nat} :
    unionOf (List.replicate before null ++ h :: List.replicate behind null) = .ok k
      ↔ h.checkKey = .ok ()
        ∧ k = ofMembers .union ((amidNulls h before behind).foldl addMember []) := by
  have htyped := mapM_typeArgument_nulls he before behind
  rw [unionOf_eq_ok_iff, ← checkKey_amidNulls_iff before behind,
    ← flatMap_unionMembers_nulls]
  constructor
  · rintro ⟨-, ts, hts, hkeys, rfl⟩
    cases htyped.symm.trans hts
    exact ⟨hkeys, rfl⟩
  · rintro ⟨hkeys, rfl⟩
    exact ⟨by simp, _, htyped, hkeys, rfl⟩

theorem Encloses.isNull_eq_false (he : Encloses n h) : h.isNull = false := by
  cases he with
  | type => rfl
  | annotated _ => rfl
  | union hms _ _ => obtain rfl | rfl := members?_eq_some_iff.mp hms <;> rfl

/-- A hint around a type that has a short form keeps it in a union. -/
theorem Encloses.isAlternative (he : Encloses n h) (hkind : h.operandKind?.isSome = true) :
    h.isAlternative = true := by
  cases he with
  | type => exact hkind
  | annotated _ => exact hkind
  | union hms _ _ => obtain rfl | rfl := members?_eq_some_iff.mp hms <;> exact hkind

/-- Hints around a type are told apart from null. -/
theorem Encloses.exists_distinctAlternatives (he : Encloses n h)
    (hn : (named n).isNullType = false) (before behind : Nat) :
    ∃ ms, distinctAlternatives (amidNulls h before behind) = .ok ms := by
  refine exists_distinctAlternatives_eq_ok fun m hm origin arguments => ?_
  have hcases : m = nullType ∨ Encloses n m := by
    rcases mem_amidNulls hm with rfl | hm
    · exact .inl rfl
    · exact he.of_mem_unionMembers hn hm
  rcases hcases with rfl | he
  · exact fun heq => by cases heq
  · exact ne_generic_of_mentions (mentions_of_encloses he) origin arguments

theorem Encloses.map_typed_unionMembers (he : Encloses n h) (hn : (named n).isNullType = false) :
    (unionMembers h).map typed = unionMembers h := by
  refine (List.map_congr_left fun m hm => ?_).trans (List.map_id _)
  rcases he.of_mem_unionMembers hn hm with rfl | hm
  · rfl
  · exact typed_of_mentions (mentions_of_encloses hm)

/-- One hint is the union of another one with null, in one of the spellings and with its members
joined. -/
def IsBesideNull (h k : Hint) : Prop :=
  ∃ (make : List Hint → Hint) (before behind : Nat) (ms : List Hint),
    (∀ ms, (make ms).members? = some ms) ∧ Joins (amidNulls h before behind) ms
      ∧ k = ofMembers make ms

/-- In the long spelling a hint can be put beside null exactly if it has a hash. -/
theorem unionOf_nulls (he : Encloses n h) (before behind : Nat) :
    (h.checkKey = .ok () →
        ∃ k, unionOf (List.replicate before null ++ h :: List.replicate behind null) = .ok k)
      ∧ ∀ k, unionOf (List.replicate before null ++ h :: List.replicate behind null) = .ok k →
        h.checkKey = .ok () ∧ IsBesideNull h k := by
  constructor
  · intro hkey
    exact ⟨_, (unionOf_nulls_eq_ok_iff he).mpr ⟨hkey, rfl⟩⟩
  · intro k hk
    obtain ⟨hkey, rfl⟩ := (unionOf_nulls_eq_ok_iff he).mp hk
    exact ⟨hkey, .union, before, behind, _, fun _ => rfl, joins_foldl_addMember _, rfl⟩

/-- In the short spelling a hint that has a short form can always be put beside null. -/
theorem alternative_null_eq_ok {a b : Hint} (he : Encloses n h) (hn : (named n).isNullType = false)
    (hkind : h.operandKind?.isSome = true) (hab : a = null ∧ b = h ∨ a = h ∧ b = null) :
    ∃ before behind ms, Joins (amidNulls h before behind) ms
      ∧ alternative a b = .ok (ofMembers .alternatives ms) := by
  have hoperands : (a.isAlternative && b.isAlternative && !(a.isNull && b.isNull)) = true := by
    have hnull : null.isAlternative = true := rfl
    rcases hab with ⟨rfl, rfl⟩ | ⟨rfl, rfl⟩
    · rw [hnull, he.isAlternative hkind, he.isNull_eq_false, Bool.and_false]
      rfl
    · rw [hnull, he.isAlternative hkind, he.isNull_eq_false, Bool.false_and]
      rfl
  have hkinds : ∃ left right, a.operandKind? = some left ∧ b.operandKind? = some right := by
    obtain ⟨kind, hkind⟩ := Option.isSome_iff_exists.mp hkind
    rcases hab with ⟨rfl, rfl⟩ | ⟨rfl, rfl⟩
    · exact ⟨_, kind, rfl, hkind⟩
    · exact ⟨kind, _, hkind, rfl⟩
  have hflat : ∃ before behind,
      (unionMembers a ++ unionMembers b).map typed = amidNulls h before behind := by
    rw [List.map_append]
    rcases hab with ⟨rfl, rfl⟩ | ⟨rfl, rfl⟩
    · refine ⟨1, 0, ?_⟩
      rw [he.map_typed_unionMembers hn, amidNulls, List.replicate_zero, List.append_nil]
      rfl
    · refine ⟨0, 1, ?_⟩
      rw [he.map_typed_unionMembers hn]
      rfl
  obtain ⟨left, right, hleft, hright⟩ := hkinds
  obtain ⟨before, behind, hflat⟩ := hflat
  obtain ⟨ms, hms⟩ := he.exists_distinctAlternatives hn before behind
  refine ⟨before, behind, ms, joins_distinctAlternatives hms, ?_⟩
  rw [alternative_eq hleft hright, if_pos hoperands, hflat]
  exact bind_eq_ok_iff.mpr ⟨ms, mapError_eq_ok_iff.mpr hms, rfl⟩

/-- Without a short form it is put beside null as in the long spelling. -/
theorem alternative_null {a b : Hint} (he : Encloses n h) (hn : (named n).isNullType = false)
    (hshort : h.operandKind?.isSome = true → h.checkKey = .ok ())
    (hab : a = null ∧ b = h ∨ a = h ∧ b = null) :
    (h.checkKey = .ok () → ∃ k, alternative a b = .ok k)
      ∧ ∀ k, alternative a b = .ok k → h.checkKey = .ok () ∧ IsBesideNull h k := by
  by_cases hkind : h.operandKind?.isSome = true
  · obtain ⟨before, behind, ms, hjoins, heq⟩ := alternative_null_eq_ok he hn hkind hab
    refine ⟨fun _ => ⟨_, heq⟩, fun k hk => ⟨hshort hkind, ?_⟩⟩
    cases heq.symm.trans hk
    exact ⟨.alternatives, before, behind, ms, fun _ => rfl, hjoins, rfl⟩
  · have hnone : h.operandKind? = none := by simpa using hkind
    rcases hab with ⟨rfl, rfl⟩ | ⟨rfl, rfl⟩
    · rw [alternative_eq_unionOf (.inr hnone)]
      exact unionOf_nulls he 1 0
    · rw [alternative_eq_unionOf (.inl hnone)]
      exact unionOf_nulls he 0 1

/-! ## What is kept -/

theorem checkKey_annotated_iff {inner : Hint} :
    (annotated inner notes).checkKey = .ok ()
      ↔ inner.checkKey = .ok () ∧ ∀ note ∈ notes, note.checkKey = .ok () := by
  rw [checkKey, bind_eq_ok_iff, ← forM_eq_ok_iff]
  constructor
  · rintro ⟨_, hinner, hnotes⟩
    exact ⟨hinner, hnotes⟩
  · rintro ⟨hinner, hnotes⟩
    exact ⟨_, hinner, hnotes⟩

/-- What holds of a hint that was built around a type with these notes. -/
structure IsBuilt (n : TypeName) (notes : List HintNote) (h : Hint) : Prop where
  encloses : Encloses n h
  /-- The hint has a hash if the notes do. -/
  hashed : h.checkKey = .ok () ↔ ∀ note ∈ notes, note.checkKey = .ok ()
  /-- Notes without a hash have no place in a union in the short spelling. -/
  short : h.operandKind?.isSome = true → h.checkKey = .ok ()

theorem isBuilt_named (n : TypeName) : IsBuilt n [] (named n) where
  encloses := .type
  hashed := by simp [checkKey]
  short _ := by simp [checkKey]

/-- Notes can be attached to every hint around a type. -/
theorem IsBuilt.annotated (hb : IsBuilt n notes h) (note : HintNote) (more : List HintNote) :
    ∃ k, h.annotatedOf (note :: more) = .ok k ∧ IsBuilt n (note :: more ++ notes) k := by
  have hattached : ∃ inner first,
      h.annotatedOf (note :: more) = .ok (.annotated inner (first ++ note :: more))
        ∧ Encloses n inner
        ∧ (h.checkKey = .ok () ↔ (Hint.annotated inner first).checkKey = .ok ()) := by
    -- The notes of an annotated hint stay in front, every other hint is annotated as a whole.
    cases hb.encloses with
    | type => exact ⟨_, [], rfl, .type, by simp [checkKey_annotated_iff]⟩
    | annotated hinner => exact ⟨_, _, rfl, hinner, Iff.rfl⟩
    | union hms hone hinner =>
      have hself : Encloses n h := .union hms hone hinner
      obtain rfl | rfl := members?_eq_some_iff.mp hms
      all_goals exact ⟨_, [], rfl, hself, by simp [checkKey_annotated_iff]⟩
  obtain ⟨inner, first, hk, hinner, hkey⟩ := hattached
  refine ⟨_, hk, .annotated hinner, ?_, fun hkind => by cases hkind⟩
  have hnotes := hb.hashed
  rw [hkey, checkKey_annotated_iff] at hnotes
  simp only [checkKey_annotated_iff, List.forall_mem_append, ← hnotes]
  tauto

theorem IsBuilt.besideNull (hb : IsBuilt n notes h) (hn : (named n).isNullType = false)
    (hkey : h.checkKey = .ok ()) (hk : IsBesideNull h k) : IsBuilt n notes k := by
  obtain ⟨make, before, behind, ms, hmake, hjoins, rfl⟩ := hk
  obtain ⟨x, hone, hx⟩ := hb.encloses.exists_member hn
  -- No member is new, so all of them have hashes.
  have hkeys : ∀ m ∈ ms, m.checkKey = .ok () := fun m hm =>
    (checkKey_amidNulls_iff before behind).mpr hkey m (hjoins.sublist.subset hm)
  have hjoined := checkKey_ofMembers hmake hkeys
  exact {
    encloses := encloses_ofMembers hmake hjoins hn ((besidesNull_amidNulls ..).trans hone) hx
    hashed := ⟨fun _ => hb.hashed.mp hkey, fun _ => hjoined⟩
    short := fun _ => hjoined }

end Hint

namespace Wrapping

open Hint

variable {n : TypeName} {h k : Hint} {notes : List HintNote}

/-- A union with null can be put around a hint exactly if it has a hash. -/
theorem wrap_isUnion {w : Wrapping} (hw : w.isUnion = true) (hb : IsBuilt n notes h)
    (hn : (named n).isNullType = false) :
    (h.checkKey = .ok () → ∃ k, w.wrap h = .ok k)
      ∧ ∀ k, w.wrap h = .ok k → h.checkKey = .ok () ∧ IsBesideNull h k := by
  cases w with
  | annotated note more => cases hw
  | optional => exact unionOf_nulls hb.encloses 0 1
  | union before behind => exact unionOf_nulls hb.encloses before behind
  | nullFirst => exact alternative_null hb.encloses hn hb.short (.inl ⟨rfl, rfl⟩)
  | nullLast => exact alternative_null hb.encloses hn hb.short (.inr ⟨rfl, rfl⟩)

/-- What one wrapping does: it keeps the type, and only a union around notes without a hash is
refused. -/
theorem wrap_isBuilt (w : Wrapping) (hb : IsBuilt n notes h) (hn : (named n).isNullType = false) :
    ((∃ k, w.wrap h = .ok k) ↔ (w.isUnion = true → ∀ note ∈ notes, note.checkKey = .ok ()))
      ∧ ∀ k, w.wrap h = .ok k → IsBuilt n (w.notes ++ notes) k := by
  cases hw : w.isUnion with
  | true =>
    obtain ⟨hforms, hformed⟩ := wrap_isUnion hw hb hn
    have hnotes : w.notes = [] := by cases w <;> first | rfl | cases hw
    rw [← hb.hashed, hnotes]
    refine ⟨⟨fun ⟨k, hk⟩ _ => (hformed k hk).1, fun hkey => hforms (hkey rfl)⟩, fun k hk => ?_⟩
    obtain ⟨hkey, hbeside⟩ := hformed k hk
    exact hb.besideNull hn hkey hbeside
  | false =>
    cases w <;> try cases hw
    next note more =>
      obtain ⟨k, hk, hbuilt⟩ := hb.annotated note more
      refine ⟨⟨fun _ h => (by cases h), fun _ => ⟨k, hk⟩⟩, fun k' hk' => ?_⟩
      cases hk.symm.trans hk'
      exact hbuilt

end Wrapping

namespace Hint

variable {n : TypeName} {h : Hint}

/-- **Building around a type**: whatever is built around a type encloses it, and the building is
refused exactly if a union is put around a note that has no hash. -/
theorem isBuilt_around (hn : (named n).isNullType = false) (ws : List Wrapping) :
    ((∃ h, around n ws = .ok h) ↔ ws.Pairwise Wrapping.Admits)
      ∧ ∀ h, around n ws = .ok h → IsBuilt n (ws.flatMap Wrapping.notes) h := by
  induction ws with
  | nil =>
    refine ⟨⟨fun _ => .nil, fun _ => ⟨_, rfl⟩⟩, fun h hh => ?_⟩
    cases hh
    exact isBuilt_named n
  | cons w ws ih =>
    obtain ⟨hforms, hbuilt⟩ := ih
    constructor
    · rw [List.pairwise_cons, ← hforms, around]
      simp only [bind_eq_ok_iff]
      constructor
      · rintro ⟨k, h, hh, hk⟩
        have hadmits := ((w.wrap_isBuilt (hbuilt h hh) hn).1.mp ⟨k, hk⟩)
        refine ⟨fun w' hw' hunion note hnote => hadmits hunion note ?_, h, hh⟩
        exact List.mem_flatMap.mpr ⟨w', hw', hnote⟩
      · rintro ⟨hadmits, h, hh⟩
        have hkeys : w.isUnion = true →
            ∀ note ∈ ws.flatMap Wrapping.notes, note.checkKey = .ok () := by
          intro hunion note hnote
          obtain ⟨w', hw', hnote⟩ := List.mem_flatMap.mp hnote
          exact hadmits w' hw' hunion note hnote
        obtain ⟨k, hk⟩ := (w.wrap_isBuilt (hbuilt h hh) hn).1.mpr hkeys
        exact ⟨k, h, hh, hk⟩
    · intro k hk
      obtain ⟨h, hh, hk⟩ := bind_eq_ok_iff.mp hk
      exact (w.wrap_isBuilt (hbuilt h hh) hn).2 k hk

/-! ## Names -/

/-- **A hint goes by the name of its innermost type.** It does so however it is built around the
type, unless the building is refused. A union goes by the name of a member besides null exactly if
there is just one, and otherwise by its full text. A hint in which two types stand goes by the name
of neither, and all types that are put together in a union stand in it. -/
theorem typeName_innermost {n : TypeName} (hn : (named n).isNullType = false) :
    (∀ ws, ((∃ h, around n ws = .ok h) ↔ ws.Pairwise Wrapping.Admits)
        ∧ ∀ h, around n ws = .ok h → h.typeName = n.own)
      ∧ (∀ h, Encloses n h → h.typeName = n.own)
      ∧ (∀ (h : Hint) (ms : List Hint), h.members? = some ms →
        ((∃ m ∈ besidesNull ms, h.typeName = m.typeName) ↔ (besidesNull ms).length = 1)
          ∧ ((besidesNull ms).length ≠ 1 → h.typeName = h.shown))
      ∧ (∀ k, (named k).isNullType = false → k ≠ n → ∀ h, Mentions n h → Mentions k h →
        h.typeName ≠ n.own ∧ h.typeName ≠ k.own)
      ∧ ∀ hs h, (unionOf hs = .ok h ∨ alternativesOf hs = .ok h) →
        ∀ a ∈ hs, Mentions n a → Mentions n h := by
  refine ⟨fun ws => ?_, fun h => typeName_of_encloses, fun h ms hms => ?_,
    fun k hk hne h hmention hother => ?_, fun hs h hformed a ha hmention => ?_⟩
  · obtain ⟨hforms, hbuilt⟩ := isBuilt_around hn ws
    exact ⟨hforms, fun h hh => typeName_of_encloses (hbuilt h hh).encloses⟩
  · exact ⟨typeName_eq_member_iff hms, typeName_eq_shown hms⟩
  · exact ⟨typeName_ne_of_mentions hn hk hne hmention hother,
      typeName_ne_of_mentions hk hn hne.symm hother hmention⟩
  · rcases hformed with hk | hk
    · exact mentions_of_unionOf hk ha hmention
    · exact mentions_of_alternativesOf hk ha hmention

/-- A new name for another type, with a module in it. -/
def money : TypeName := ⟨"shop", "prices.Money", .alias, 1⟩

/-- Around a new name for a type there are notes, one of them without a hash, and three unions with
null. A union with another type goes by its text. -/
theorem typeName_money :
    (∃ h, around money [.annotated (.value (.list [.int 1])) [.column {}], .optional, .nullFirst,
        .annotated (.value (.text "cents")) [], .nullLast] = .ok h ∧ h.typeName = "Money")
      ∧ ∃ h, unionOf [named money, builtin "int", null] = .ok h
        ∧ h.typeName = "typing.Union[shop.prices.Money, int, NoneType]"
        ∧ h.typeName ≠ "Money" ∧ h.typeName ≠ "int" := by
  obtain ⟨haround, -, hunion, htwo, hmentions⟩ := typeName_innermost (n := money) rfl
  have hown : money.own = "Money" := rfl
  constructor
  · obtain ⟨hforms, hname⟩ := haround [.annotated (.value (.list [.int 1])) [.column {}], .optional,
      .nullFirst, .annotated (.value (.text "cents")) [], .nullLast]
    obtain ⟨h, hh⟩ := hforms.mpr (by
      simp [Wrapping.Admits, Wrapping.isUnion, Wrapping.notes, HintNote.checkKey, Value.checkKey])
    exact ⟨h, hh, (hname h hh).trans hown⟩
  · have hformed : unionOf [named money, builtin "int", null]
        = .ok (union [named money, builtin "int", nullType]) := by cbv
    have hmoney := hmentions _ _ (.inl hformed) (named money) (by simp) .type
    have hnumber : Mentions ⟨builtins, "int", .plainClass, 0⟩
        (union [named money, builtin "int", nullType]) := .union rfl (by simp [builtin]) .type
    obtain ⟨hneMoney, hneInt⟩ := htwo _ rfl (by decide) _ hmoney hnumber
    exact ⟨_, hformed, ((hunion _ _ rfl).2 (by decide)).trans rfl, hown ▸ hneMoney, hneInt⟩

end Hint

end RecordForge

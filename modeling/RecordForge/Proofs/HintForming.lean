import Mathlib.Data.List.Induction
import RecordForge.Proofs.Steps
import RecordForge.Proofs.UnionNames
import RecordForge.Schema.HintForming

/-!
# Forming unions

What becomes of hints that are put together in a union: members that are one are joined, and a
single one that is left stands for the union. The types in the hints all stand in the union
(`mentions_of_unionOf`, `mentions_of_alternativesOf`), and if one member besides null is built
around a type, so is the union (`encloses_ofMembers`).
-/

namespace RecordForge

namespace Hint

variable {a b h k x : Hint} {hs ms xs ys : List Hint} {n : TypeName}

/-! ## Hints that match -/

theorem eachIn_iff : eachIn xs ys = true ↔ ∀ x ∈ xs, ∃ y ∈ ys, matching x y = true := by
  induction xs with
  | nil => simp [eachIn]
  | cons x xs ih => rw [eachIn, Bool.and_eq_true, ih, List.forall_mem_cons, List.any_eq_true]

theorem someMatching_iff : someMatching xs b = true ↔ ∃ x ∈ xs, matching x b = true := by
  induction xs with
  | nil => simp [someMatching]
  | cons x xs ih => simp [someMatching, ih]

/-- Unions match if each member of the one is among those of the other. -/
theorem matching_union_iff (hxs : a.members? = some xs) :
    matching a b = true ↔ ∃ ys, b.members? = some ys
      ∧ (∀ x ∈ xs, ∃ y ∈ ys, matching x y = true) ∧ ∀ y ∈ ys, ∃ x ∈ xs, matching x y = true := by
  obtain rfl | rfl := members?_eq_some_iff.mp hxs
  all_goals
    cases hys : b.members? with
    | none => simp [matching, hys]
    | some ys => simp [matching, hys, eachIn_iff, someMatching_iff]

theorem exists_members_of_matching (hys : b.members? = some ys) (hmatching : matching a b = true) :
    ∃ xs, a.members? = some xs := by
  obtain rfl | rfl := members?_eq_some_iff.mp hys
  all_goals
    cases a <;> first | exact ⟨_, rfl⟩ | simp [matching] at hmatching

/-- Matching hints mention the same types. -/
theorem mentions_of_matching (hmentions : Mentions n a) (hmatching : matching a b = true) :
    Mentions n b := by
  induction hmentions generalizing b with
  | type =>
    cases b <;> simp [matching] at hmatching
    exact hmatching ▸ .type
  | annotated _ ih =>
    cases b <;> simp [matching] at hmatching
    exact .annotated (ih hmatching.1)
  | union hms hm _ ih =>
    obtain ⟨ys, hys, heach, -⟩ := (matching_union_iff hms).mp hmatching
    obtain ⟨y, hy, hmatching⟩ := heach _ hm
    exact .union hys hy (ih hmatching)

theorem mentions_of_matching_right (hmentions : Mentions n b) (hmatching : matching a b = true) :
    Mentions n a := by
  induction hmentions generalizing a with
  | type =>
    cases a <;> simp [matching, members?] at hmatching
    exact hmatching ▸ .type
  | annotated _ ih =>
    cases a <;> simp [matching, members?] at hmatching
    exact .annotated (ih hmatching.1)
  | union hms hm _ ih =>
    obtain ⟨xs, hxs⟩ := exists_members_of_matching hms hmatching
    obtain ⟨ys, hys, -, heach⟩ := (matching_union_iff hxs).mp hmatching
    cases hms.symm.trans hys
    obtain ⟨x, hx, hmatching⟩ := heach _ hm
    exact .union hxs hx (ih hmatching)

/-! ## Joining members -/

/-- What is left of hints when members that are one are joined: some of them, which mention all
types that the hints do. -/
structure Joins (hs ms : List Hint) : Prop where
  sublist : ms.Sublist hs
  mentions : ∀ n, ∀ h ∈ hs, Mentions n h → ∃ m ∈ ms, Mentions n m

theorem Joins.nil : Joins [] [] :=
  ⟨List.nil_sublist _, fun _ _ hmem => absurd hmem List.not_mem_nil⟩

/-- A member that is one with an earlier one is left out. -/
theorem Joins.joined (hjoins : Joins hs ms) (hm : x ∈ ms)
    (hmentions : ∀ n, Mentions n h → Mentions n x) : Joins (hs ++ [h]) ms where
  sublist := hjoins.sublist.trans (List.sublist_append_left ..)
  mentions n k hk hmention := by
    rcases List.mem_append.mp hk with hk | hk
    · exact hjoins.mentions n k hk hmention
    · obtain rfl := List.mem_singleton.mp hk
      exact ⟨x, hm, hmentions n hmention⟩

/-- Every other member is added. -/
theorem Joins.added (hjoins : Joins hs ms) (h : Hint) : Joins (hs ++ [h]) (ms ++ [h]) where
  sublist := hjoins.sublist.append (List.Sublist.refl _)
  mentions n k hk hmention := by
    rcases List.mem_append.mp hk with hk | hk
    · obtain ⟨m, hm, hmention⟩ := hjoins.mentions n k hk hmention
      exact ⟨m, List.mem_append_left _ hm, hmention⟩
    · exact ⟨k, List.mem_append_right _ hk, hmention⟩

theorem joins_foldl_addMember (hs : List Hint) : Joins hs (hs.foldl addMember []) := by
  induction hs using List.reverseRecOn with
  | nil => exact .nil
  | append_singleton hs h ih =>
    rw [List.foldl_append, List.foldl_cons, List.foldl_nil, addMember]
    split
    next hsome =>
      obtain ⟨x, hx, hmatching⟩ := someMatching_iff.mp hsome
      exact ih.joined hx fun n hmention => mentions_of_matching_right hmention hmatching
    next => exact ih.added h

theorem ne_generic_of_mentions (hmention : Mentions n h) (origin : String)
    (arguments : List Hint) : h ≠ .generic origin arguments := by
  rintro rfl
  cases hmention with
  | union hms _ _ => cases hms

/-- Only containers are compared in another way than by matching. -/
theorem sameAlternative_eq_ok (hplain : ∀ origin arguments, a ≠ .generic origin arguments)
    (b : Hint) :
    ∃ same, sameAlternative a b = .ok same ∧ (same = true → matching a b = true) := by
  unfold sameAlternative
  split
  next => exact absurd rfl (hplain _ _)
  next => exact absurd rfl (hplain _ _)
  next => exact ⟨false, rfl, fun heq => by cases heq⟩
  next => exact ⟨_, rfl, id⟩

theorem isAmong_cons (h m : Hint) (ms : List Hint) :
    isAmong h (m :: ms)
      = sameAlternative h m >>= fun same => if same then .ok true else isAmong h ms := rfl

theorem exists_of_isAmong (hamong : isAmong h ms = .ok true) :
    ∃ m ∈ ms, sameAlternative h m = .ok true := by
  induction ms with
  | nil => cases hamong
  | cons m rest ih =>
    rw [isAmong_cons, bind_eq_ok_iff] at hamong
    obtain ⟨same, hsame, hamong⟩ := hamong
    cases same with
    | true => exact ⟨m, List.mem_cons_self .., hsame⟩
    | false =>
      obtain ⟨m', hm', hsame⟩ := ih hamong
      exact ⟨m', List.mem_cons_of_mem _ hm', hsame⟩

theorem exists_isAmong_eq_ok (hplain : ∀ origin arguments, h ≠ .generic origin arguments)
    (ms : List Hint) : ∃ among, isAmong h ms = .ok among := by
  induction ms with
  | nil => exact ⟨false, rfl⟩
  | cons m rest ih =>
    obtain ⟨same, hsame, -⟩ := sameAlternative_eq_ok hplain m
    rw [isAmong_cons, hsame]
    cases same with
    | true => exact ⟨true, rfl⟩
    | false => exact ih

theorem distinctAlternatives_append (hs : List Hint) (h : Hint) :
    distinctAlternatives (hs ++ [h]) = do
      let ms ← distinctAlternatives hs
      return if ← isAmong h ms then ms else ms ++ [h] := by
  simp [distinctAlternatives, List.foldlM_append]

theorem joins_distinctAlternatives (hdistinct : distinctAlternatives hs = .ok ms) :
    Joins hs ms := by
  induction hs using List.reverseRecOn generalizing ms with
  | nil =>
    cases hdistinct
    exact .nil
  | append_singleton hs h ih =>
    rw [distinctAlternatives_append, bind_eq_ok_iff] at hdistinct
    obtain ⟨rest, hrest, hdistinct⟩ := hdistinct
    obtain ⟨among, hamong, hdistinct⟩ := bind_eq_ok_iff.mp hdistinct
    cases hdistinct
    cases among with
    | false => exact (ih hrest).added h
    | true =>
      obtain ⟨x, hx, hsame⟩ := exists_of_isAmong hamong
      refine (ih hrest).joined hx fun n hmention => ?_
      obtain ⟨same, hsame', hmatching⟩ := sameAlternative_eq_ok (ne_generic_of_mentions hmention) x
      cases hsame.symm.trans hsame'
      exact mentions_of_matching hmention (hmatching rfl)

/-- Hints among which there is no container can always be told apart. -/
theorem exists_distinctAlternatives_eq_ok
    (hplain : ∀ h ∈ hs, ∀ origin arguments, h ≠ .generic origin arguments) :
    ∃ ms, distinctAlternatives hs = .ok ms := by
  induction hs using List.reverseRecOn with
  | nil => exact ⟨[], rfl⟩
  | append_singleton hs h ih =>
    obtain ⟨rest, hrest⟩ := ih fun k hk => hplain k (List.mem_append_left _ hk)
    obtain ⟨among, hamong⟩ := exists_isAmong_eq_ok (hplain h (by simp)) rest
    refine ⟨if among then rest else rest ++ [h], ?_⟩
    rw [distinctAlternatives_append]
    exact bind_eq_ok_iff.mpr ⟨rest, hrest, bind_eq_ok_iff.mpr ⟨among, hamong, rfl⟩⟩

/-! ## Unions of joined members -/

variable {make : List Hint → Hint}

theorem ofMembers_singleton (make : List Hint → Hint) (h : Hint) : ofMembers make [h] = h := rfl

theorem ofMembers_eq (make : List Hint → Hint) (hlength : ms.length ≠ 1) :
    ofMembers make ms = make ms := by
  match ms with
  | [] => rfl
  | [_] => exact absurd rfl hlength
  | _ :: _ :: _ => rfl

theorem mentions_of_encloses (he : Encloses n h) : Mentions n h := by
  induction he with
  | type => exact .type
  | annotated _ ih => exact .annotated ih
  | union hms hone _ ih =>
    exact .union hms (mem_besidesNull.mp (hone ▸ List.mem_singleton_self _)).1 ih

/-- A union mentions what the joined hints do. -/
theorem mentions_ofMembers (hmake : ∀ ms, (make ms).members? = some ms) (hjoins : Joins hs ms)
    (hmem : h ∈ hs) (hmention : Mentions n h) : Mentions n (ofMembers make ms) := by
  obtain ⟨m, hm, hmention⟩ := hjoins.mentions n h hmem hmention
  by_cases hlength : ms.length = 1
  · obtain ⟨c, rfl⟩ := List.length_eq_one_iff.mp hlength
    rw [ofMembers_singleton, ← List.mem_singleton.mp hm]
    exact hmention
  · rw [ofMembers_eq make hlength]
    exact .union (hmake ms) hm hmention

/-- A union of one member that is built around a type and of null is built around that type. -/
theorem encloses_ofMembers (hmake : ∀ ms, (make ms).members? = some ms) (hjoins : Joins hs ms)
    (hn : (named n).isNullType = false) (hone : besidesNull hs = [x]) (hx : Encloses n x) :
    Encloses n (ofMembers make ms) := by
  have hkept : besidesNull ms = [x] := by
    have hsub : (besidesNull ms).Sublist [x] := hone ▸ hjoins.sublist.filter _
    refine (List.sublist_singleton.mp hsub).resolve_left fun hnil => ?_
    have hmem := mem_besidesNull.mp (hone ▸ List.mem_singleton_self x)
    obtain ⟨m, hm, hmention⟩ := hjoins.mentions n x hmem.1 (mentions_of_encloses hx)
    have hm := mem_besidesNull.mpr ⟨hm, isNullType_eq_false_of_mentions hn hmention⟩
    exact List.not_mem_nil (hnil ▸ hm)
  by_cases hlength : ms.length = 1
  · obtain ⟨c, rfl⟩ := List.length_eq_one_iff.mp hlength
    have hc : x ∈ [c] := (mem_besidesNull.mp (hkept ▸ List.mem_singleton_self x)).1
    rw [ofMembers_singleton, ← List.mem_singleton.mp hc]
    exact hx
  · rw [ofMembers_eq make hlength]
    exact .union (hmake ms) hkept hx

/-! ## Keys -/

theorem checkKeys_eq_ok_iff : checkKeys hs = .ok () ↔ ∀ h ∈ hs, h.checkKey = .ok () := by
  induction hs with
  | nil => simp [checkKeys]
  | cons h hs ih =>
    rw [checkKeys, bind_eq_ok_iff, List.forall_mem_cons, ih]
    exact ⟨fun ⟨_, hh, hhs⟩ => ⟨hh, hhs⟩, fun ⟨hh, hhs⟩ => ⟨_, hh, hhs⟩⟩

/-- A union has a hash if all of its members have one. -/
theorem checkKey_eq_ok_iff (hms : h.members? = some ms) :
    h.checkKey = .ok () ↔ ∀ m ∈ ms, m.checkKey = .ok () := by
  rw [← checkKeys_eq_ok_iff]
  obtain rfl | rfl := members?_eq_some_iff.mp hms <;> rw [checkKey]

theorem checkKey_ofMembers (hmake : ∀ ms, (make ms).members? = some ms)
    (hkeys : ∀ m ∈ ms, m.checkKey = .ok ()) : (ofMembers make ms).checkKey = .ok () := by
  by_cases hlength : ms.length = 1
  · obtain ⟨c, rfl⟩ := List.length_eq_one_iff.mp hlength
    exact hkeys c (List.mem_singleton_self c)
  · rw [ofMembers_eq make hlength]
    exact (checkKey_eq_ok_iff (hmake ms)).mpr hkeys

/-! ## Unions of hints -/

theorem exists_mem_unionMembers (hmention : Mentions n h) :
    ∃ m ∈ unionMembers h, Mentions n m := by
  cases hms : h.members? with
  | none => exact ⟨h, by simp [unionMembers, hms], hmention⟩
  | some ms =>
    cases hmention with
    | type => cases hms
    | annotated _ => cases hms
    | union hms' hm hmention =>
      cases hms.symm.trans hms'
      exact ⟨_, by simpa [unionMembers, hms] using hm, hmention⟩

theorem typeArgument_of_mentions (hmention : Mentions n h) : h.typeArgument = .ok h := by
  cases hmention with
  | type => rfl
  | annotated _ => rfl
  | union hms _ _ => obtain rfl | rfl := members?_eq_some_iff.mp hms <;> rfl

theorem typed_of_mentions (hmention : Mentions n h) : h.typed = h := by
  cases hmention with
  | type => rfl
  | annotated _ => rfl
  | union hms _ _ => obtain rfl | rfl := members?_eq_some_iff.mp hms <;> rfl

theorem joined_eq_ok_iff :
    joined hs = .ok ms ↔ (∀ m ∈ hs.flatMap unionMembers, m.checkKey = .ok ())
      ∧ ms = (hs.flatMap unionMembers).foldl addMember [] := by
  have hunfold : joined hs = checkKeys (hs.flatMap unionMembers) >>= fun _ =>
      .ok ((hs.flatMap unionMembers).foldl addMember []) := rfl
  rw [hunfold, bind_eq_ok_iff, ← checkKeys_eq_ok_iff]
  exact ⟨fun ⟨_, hkeys, hms⟩ => ⟨hkeys, (Except.ok.inj hms).symm⟩,
    fun ⟨hkeys, hms⟩ => ⟨_, hkeys, hms ▸ rfl⟩⟩

/-- What a union in the long spelling is made of. -/
theorem unionOf_eq_ok_iff :
    unionOf hs = .ok k ↔ hs ≠ [] ∧ ∃ ts, hs.mapM typeArgument = .ok ts
      ∧ (∀ m ∈ ts.flatMap unionMembers, m.checkKey = .ok ())
      ∧ k = ofMembers .union ((ts.flatMap unionMembers).foldl addMember []) := by
  cases hs with
  | nil => exact ⟨fun h => (by cases h), fun h => absurd rfl h.1⟩
  | cons h hs =>
    have hunfold : unionOf (h :: hs) = (h :: hs).mapM typeArgument >>= fun ts =>
        (joined ts).mapError HintError.member >>= fun ms => .ok (ofMembers .union ms) := rfl
    rw [hunfold, bind_eq_ok_iff]
    simp only [bind_eq_ok_iff, mapError_eq_ok_iff, joined_eq_ok_iff]
    constructor
    · rintro ⟨ts, hts, ms, ⟨hkeys, rfl⟩, hk⟩
      exact ⟨List.cons_ne_nil _ _, ts, hts, hkeys, (Except.ok.inj hk).symm⟩
    · rintro ⟨-, ts, hts, hkeys, rfl⟩
      exact ⟨ts, hts, _, ⟨hkeys, rfl⟩, rfl⟩

/-- Whether the hint is null itself, not its type. -/
def isNull : Hint → Bool
  | .null => true
  | _ => false

/-- A union of two hints that have a short form. -/
theorem alternative_eq {left right : String} (hleft : a.operandKind? = some left)
    (hright : b.operandKind? = some right) :
    alternative a b =
      if a.isAlternative && b.isAlternative && !(a.isNull && b.isNull) then
        (distinctAlternatives ((unionMembers a ++ unionMembers b).map typed)).mapError
            HintError.member >>= fun ms => .ok (ofMembers .alternatives ms)
      else .error (.notOperands left right) := by
  delta alternative
  simp only [hleft, hright]
  rfl

theorem alternative_eq_unionOf (hnone : a.operandKind? = none ∨ b.operandKind? = none) :
    alternative a b = unionOf [a, b] := by
  delta alternative
  dsimp only
  split
  next hleft hright => simp [hleft, hright] at hnone
  next => rfl

/-- What a union of two hints in the short spelling is made of: their members, if both have a short
form, and otherwise it is a union in the long spelling. -/
theorem of_alternative (hk : alternative a b = .ok k) :
    (a.operandKind?.isSome ∧ b.operandKind?.isSome
        ∧ ∃ ms, distinctAlternatives ((unionMembers a ++ unionMembers b).map typed) = .ok ms
          ∧ k = ofMembers .alternatives ms)
      ∨ unionOf [a, b] = .ok k := by
  cases hleft : a.operandKind? with
  | none => exact .inr (alternative_eq_unionOf (.inl hleft) ▸ hk)
  | some left =>
    cases hright : b.operandKind? with
    | none => exact .inr (alternative_eq_unionOf (.inr hright) ▸ hk)
    | some right =>
      rw [alternative_eq hleft hright] at hk
      split_ifs at hk
      obtain ⟨ms, hms, hk⟩ := bind_eq_ok_iff.mp hk
      exact .inl ⟨rfl, rfl, ms, mapError_eq_ok_iff.mp hms, (Except.ok.inj hk).symm⟩

/-- A union in the long spelling mentions what its hints do. -/
theorem mentions_of_unionOf (hk : unionOf hs = .ok k) (hmem : h ∈ hs) (hmention : Mentions n h) :
    Mentions n k := by
  obtain ⟨-, ts, hts, -, rfl⟩ := unionOf_eq_ok_iff.mp hk
  obtain ⟨m, hm, hmention'⟩ := exists_mem_unionMembers hmention
  have ht : h ∈ ts := mem_of_mapM_eq_ok hts hmem (typeArgument_of_mentions hmention)
  exact mentions_ofMembers (fun _ => rfl) (joins_foldl_addMember _)
    (List.mem_flatMap.mpr ⟨h, ht, hm⟩) hmention'

theorem mentions_of_alternative (hk : alternative a b = .ok k)
    (hmention : Mentions n a ∨ Mentions n b) : Mentions n k := by
  rcases of_alternative hk with ⟨-, -, ms, hms, rfl⟩ | hk
  · have hmember : ∃ m ∈ unionMembers a ++ unionMembers b, Mentions n m := by
      rcases hmention with hmention | hmention
      · obtain ⟨m, hm, hmention⟩ := exists_mem_unionMembers hmention
        exact ⟨m, List.mem_append_left _ hm, hmention⟩
      · obtain ⟨m, hm, hmention⟩ := exists_mem_unionMembers hmention
        exact ⟨m, List.mem_append_right _ hm, hmention⟩
    obtain ⟨m, hm, hmention⟩ := hmember
    have hm := List.mem_map_of_mem (f := typed) hm
    rw [typed_of_mentions hmention] at hm
    exact mentions_ofMembers (fun _ => rfl) (joins_distinctAlternatives hms) hm hmention
  · rcases hmention with hmention | hmention
    · exact mentions_of_unionOf hk (by simp) hmention
    · exact mentions_of_unionOf hk (by simp) hmention

/-- A union in the short spelling mentions what its hints do. -/
theorem mentions_of_alternativesOf (hk : alternativesOf hs = .ok k) (hmem : h ∈ hs)
    (hmention : Mentions n h) : Mentions n k := by
  have hfold : ∀ (rest : List Hint) (a : Hint), rest.foldlM alternative a = .ok k →
      (Mentions n a ∨ ∃ b ∈ rest, Mentions n b) → Mentions n k := by
    intro rest
    induction rest with
    | nil =>
      intro a hk hmention
      cases hk
      simpa using hmention
    | cons b rest ih =>
      intro a hk hmention
      rw [List.foldlM_cons, bind_eq_ok_iff] at hk
      obtain ⟨c, hc, hk⟩ := hk
      refine ih c hk ?_
      rcases hmention with hmention | ⟨d, hd, hmention⟩
      · exact .inl (mentions_of_alternative hc (.inl hmention))
      · rcases List.mem_cons.mp hd with rfl | hd
        · exact .inl (mentions_of_alternative hc (.inr hmention))
        · exact .inr ⟨d, hd, hmention⟩
  cases hs with
  | nil => cases hmem
  | cons a rest =>
    refine hfold rest a hk ?_
    rcases List.mem_cons.mp hmem with rfl | hmem
    · exact .inl hmention
    · exact .inr ⟨h, hmem, hmention⟩

end Hint

end RecordForge

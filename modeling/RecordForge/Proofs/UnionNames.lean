import Mathlib.Data.List.Basic
import RecordForge.Schema.HintText

/-!
# Names of unions

A union goes by the name of its one member other than the type of null; every other union goes by
its full text. The full text is longer than the name of any member, so the two never meet
(`typeName_eq_member_iff`).

Two relations say which types stand in a hint. `Encloses n h` holds if the hint is built around the
one type `n`, out of notes and unions with null: then `h` goes by the name of `n`
(`typeName_of_encloses`). `Mentions n h` holds if the type stands somewhere in a nest of notes and
unions: a hint that mentions two different types goes by the name of neither
(`typeName_ne_of_mentions`).
-/

namespace RecordForge

/-! ## Lengths of texts -/

/-- A text with marks between its parts holds each part and all of the marks. -/
theorem length_add_marks_le_intercalate (mark : String) {s : String} {ss : List String}
    (h : s ∈ ss) :
    s.length + mark.length * (ss.length - 1) ≤ (mark.intercalate ss).length := by
  induction ss generalizing s with
  | nil => cases h
  | cons t rest ih =>
    cases rest with
    | nil =>
      obtain rfl := List.mem_singleton.mp h
      simp
    | cons u rest =>
      have hmarks : mark.length * ((t :: u :: rest).length - 1)
          = mark.length * ((u :: rest).length - 1) + mark.length := rfl
      rw [String.intercalate_cons_cons, String.length_append, String.length_append, hmarks]
      rcases List.mem_cons.mp h with rfl | h
      · have hrest := ih (List.mem_cons_self ..)
        omega
      · have hrest := ih h
        omega

theorem length_le_of_mem_cutAt {mark : Char} {cs part : List Char}
    (h : part ∈ Text.cutAt mark cs) : part.length ≤ cs.length := by
  induction cs generalizing part with
  | nil =>
    obtain rfl := List.mem_singleton.mp h
    exact Nat.le_refl _
  | cons c rest ih =>
    rw [Text.cutAt] at h
    split at h
    next =>
      rcases List.mem_cons.mp h with rfl | h
      · exact Nat.zero_le _
      · exact Nat.le_succ_of_le (ih h)
    next =>
      split at h
      next first parts hcut =>
        rcases List.mem_cons.mp h with rfl | h
        · exact Nat.succ_le_succ (ih (hcut ▸ List.mem_cons_self ..))
        · exact Nat.le_succ_of_le (ih (hcut ▸ List.mem_cons_of_mem _ h))
      next hcut => exact absurd hcut (Text.cutAt_ne_nil mark rest)

theorem quotedChar_ne_nil (q c : Char) : Text.quotedChar q c ≠ [] := by
  unfold Text.quotedChar Text.codeEscape
  dsimp only
  split_ifs <;> exact List.cons_ne_nil _ _

/-- Quoting a text does not make it shorter. -/
theorem length_le_quoted (s : String) : s.length ≤ (Text.quoted s).length := by
  have hbody : ∀ (q : Char) (cs : List Char),
      cs.length ≤ (cs.flatMap (Text.quotedChar q)).length := by
    intro q cs
    induction cs with
    | nil => exact Nat.le_refl _
    | cons c cs ih =>
      have hc := List.length_pos_of_ne_nil (quotedChar_ne_nil q c)
      rw [List.flatMap_cons, List.length_append, List.length_cons]
      omega
  have hchars := hbody (Text.quoteFor s.toList) s.toList
  rw [String.length_toList] at hchars
  simp only [Text.quoted, Text.quotedChars, Text.quotedBody, String.length_ofList,
    List.length_cons, List.length_append]
  omega

/-- A type goes by its name or by the end of it. -/
theorem TypeName.length_own_le (n : TypeName) : n.own.length ≤ n.shown.length := by
  have hshown : n.name.length ≤ n.shown.length := by
    rw [TypeName.shown]
    split
    next => exact Nat.le_refl _
    next => simp
  have hown : n.own.length ≤ n.name.length := by
    rw [TypeName.own]
    split
    next =>
      cases hlast : (Text.parts '.' n.name).getLast? with
      | none => simp
      | some last =>
        obtain ⟨part, hpart, rfl⟩ := List.mem_map.mp (List.mem_of_getLast? hlast)
        simpa [← String.length_toList] using length_le_of_mem_cutAt hpart
    next => exact Nat.le_refl _
  exact Nat.le_trans hown hshown

namespace Hint

variable {h inner m : Hint} {ms : List Hint} {n k : TypeName}

/-! ## Members -/

theorem members?_eq_some_iff : h.members? = some ms ↔ h = .union ms ∨ h = .alternatives ms := by
  cases h <;> simp [members?]

/-- The members other than the type of null. -/
def besidesNull (ms : List Hint) : List Hint :=
  ms.filter fun m => !m.isNullType

theorem mem_besidesNull : m ∈ besidesNull ms ↔ m ∈ ms ∧ m.isNullType = false := by
  simp [besidesNull]

theorem memberNames_eq (ms : List Hint) : memberNames ms = (besidesNull ms).map typeName := by
  induction ms with
  | nil => rfl
  | cons m ms ih => cases hm : m.isNullType <;> simp [memberNames, besidesNull, hm, ih]

/-- A union goes by the name of a single member besides null. -/
theorem typeName_of_single (hms : h.members? = some ms) (hone : besidesNull ms = [inner]) :
    h.typeName = inner.typeName := by
  obtain rfl | rfl := members?_eq_some_iff.mp hms <;> simp [typeName, memberNames_eq, hone]

/-- Without a single member besides null it goes by its full text. -/
theorem typeName_eq_shown (hms : h.members? = some ms) (hone : (besidesNull ms).length ≠ 1) :
    h.typeName = h.shown := by
  have hnames : ∀ name, memberNames ms ≠ [name] := by
    intro name heq
    rw [memberNames_eq] at heq
    exact hone (by simpa using congrArg List.length heq)
  obtain rfl | rfl := members?_eq_some_iff.mp hms
  all_goals
    rw [typeName]
    split
    next name heq => exact absurd heq (hnames name)
    next => rfl

theorem texts_eq (ms : List Hint) : texts ms = ms.map shown := by
  induction ms with
  | nil => rfl
  | cons m ms ih => rw [texts, ih, List.map_cons]

theorem alternativeTexts_eq (ms : List Hint) :
    alternativeTexts ms = ms.map fun m => if m.isNullType then "None" else m.shown := by
  induction ms with
  | nil => rfl
  | cons m ms ih => rw [alternativeTexts, ih, List.map_cons]

theorem shown_union_pair (a b : Hint) :
    (union [a, b]).shown = if a.isNullType then "typing.Optional[" ++ b.shown ++ "]"
      else if b.isNullType then "typing.Optional[" ++ a.shown ++ "]"
      else "typing.Union[" ++ a.shown ++ ", " ++ b.shown ++ "]" := rfl

theorem shown_union (hlength : ms.length ≠ 2) :
    (union ms).shown = "typing.Union[" ++ ", ".intercalate (ms.map shown) ++ "]" := by
  rw [← texts_eq]
  match ms with
  | [] => rfl
  | [_] => rfl
  | [_, _] => exact absurd rfl hlength
  | _ :: _ :: _ :: _ => rfl

theorem shown_alternatives (ms : List Hint) :
    (alternatives ms).shown = " | ".intercalate (alternativeTexts ms) := rfl

theorem shown_annotated (inner : Hint) (notes : List HintNote) :
    (annotated inner notes).shown = "typing.Annotated["
      ++ ", ".intercalate (inner.shown :: notes.map HintNote.shown) ++ "]" := rfl

/-- A union of two members is written with the text of each of them, except for the type of null. -/
theorem length_shown_pair {a b : Hint} (hm : m = a ∨ m = b) (hnull : m.isNullType = false) :
    m.shown.length + 1 ≤ (union [a, b]).shown.length := by
  have hend : "]".length = 1 := rfl
  rw [shown_union_pair]
  split
  next ha =>
    obtain rfl : m = b := hm.resolve_left (by rintro rfl; simp [ha] at hnull)
    simp only [String.length_append]
    omega
  next ha =>
    split
    next hb =>
      obtain rfl : m = a := hm.resolve_right (by rintro rfl; simp [hb] at hnull)
      simp only [String.length_append]
      omega
    next hb =>
      simp only [String.length_append]
      rcases hm with rfl | rfl <;> omega

/-- The full text of a union holds those of its members besides null and the marks between them. -/
theorem length_shown_member (hms : h.members? = some ms) (hm : m ∈ besidesNull ms) :
    m.shown.length + (ms.length - 1) ≤ h.shown.length := by
  obtain ⟨hmem, hnull⟩ := mem_besidesNull.mp hm
  obtain rfl | rfl := members?_eq_some_iff.mp hms
  · by_cases htwo : ms.length = 2
    · obtain ⟨a, b, rfl⟩ := List.length_eq_two.mp htwo
      exact length_shown_pair (by simpa using hmem) hnull
    · have hin : m.shown ∈ ms.map shown := List.mem_map_of_mem hmem
      have hlength := length_add_marks_le_intercalate ", " hin
      have hmark : ", ".length = 2 := rfl
      rw [hmark, List.length_map] at hlength
      rw [shown_union htwo, String.length_append, String.length_append]
      omega
  · have hin : m.shown ∈ alternativeTexts ms := by
      rw [alternativeTexts_eq]
      exact List.mem_map.mpr ⟨m, hmem, by simp [hnull]⟩
    have hlength := length_add_marks_le_intercalate " | " hin
    have hmark : " | ".length = 3 := rfl
    have htexts : (alternativeTexts ms).length = ms.length := by
      rw [alternativeTexts_eq, List.length_map]
    rw [hmark, htexts] at hlength
    rw [shown_alternatives]
    omega

theorem length_shown_inner (inner : Hint) (notes : List HintNote) :
    inner.shown.length ≤ (annotated inner notes).shown.length := by
  have hlength := length_add_marks_le_intercalate ", "
    (List.mem_cons_self (a := inner.shown) (l := notes.map HintNote.shown))
  rw [shown_annotated, String.length_append, String.length_append]
  omega

/-! ## The name of a union -/

theorem length_typeName_union_le (hms : h.members? = some ms)
    (hnames : ∀ m ∈ ms, m.typeName.length ≤ m.shown.length) :
    h.typeName.length ≤ h.shown.length := by
  by_cases hone : (besidesNull ms).length = 1
  · obtain ⟨m, hone⟩ := List.length_eq_one_iff.mp hone
    have hm : m ∈ besidesNull ms := hone ▸ List.mem_singleton_self m
    have hname := hnames m (mem_besidesNull.mp hm).1
    have hshown := length_shown_member hms hm
    rw [typeName_of_single hms hone]
    omega
  · exact Nat.le_of_eq (congrArg String.length (typeName_eq_shown hms hone))

mutual

/-- The name that a hint goes by is not longer than its full text. -/
theorem length_typeName_le : ∀ h : Hint, h.typeName.length ≤ h.shown.length
  | .named n => n.length_own_le
  | .text s => length_le_quoted s
  | .annotated inner notes =>
    Nat.le_trans (length_typeName_le inner) (length_shown_inner inner notes)
  | .union ms => length_typeName_union_le rfl (length_typeName_members_le ms)
  | .alternatives ms => length_typeName_union_le rfl (length_typeName_members_le ms)
  | .null | .bare _ | .generic _ _ | .literal _ | .classVar _ | .initVar _ _ | .reference _
  | .value _ => Nat.le_refl _

theorem length_typeName_members_le :
    ∀ ms : List Hint, ∀ m ∈ ms, m.typeName.length ≤ m.shown.length
  | [] => fun _ hm => absurd hm List.not_mem_nil
  | m :: ms => List.forall_mem_cons.mpr ⟨length_typeName_le m, length_typeName_members_le ms⟩

end

/-- Of several members besides null each has a text that is shorter than that of the union. -/
theorem length_shown_member_lt (hms : h.members? = some ms) (hm : m ∈ besidesNull ms)
    (hlength : 2 ≤ (besidesNull ms).length) : m.shown.length < h.shown.length := by
  have hall : (besidesNull ms).length ≤ ms.length := List.length_filter_le ..
  have hshown := length_shown_member hms hm
  omega

/-- A union goes by the name of one of its members besides null exactly if there is just one. -/
theorem typeName_eq_member_iff (hms : h.members? = some ms) :
    (∃ m ∈ besidesNull ms, h.typeName = m.typeName) ↔ (besidesNull ms).length = 1 := by
  constructor
  · rintro ⟨m, hm, heq⟩
    by_contra hone
    have hpos := List.length_pos_of_mem hm
    have hlt := length_shown_member_lt hms hm (by omega)
    rw [← typeName_eq_shown hms hone, heq] at hlt
    exact absurd (length_typeName_le m) (by omega)
  · intro hone
    obtain ⟨m, hone⟩ := List.length_eq_one_iff.mp hone
    exact ⟨m, hone ▸ List.mem_singleton_self m, typeName_of_single hms hone⟩

/-! ## Types inside a hint -/

/-- The hint is built around one type, with notes and in unions with null. -/
inductive Encloses (n : TypeName) : Hint → Prop
  | type : Encloses n (.named n)
  | annotated {inner : Hint} {notes : List HintNote} (hinner : Encloses n inner) :
      Encloses n (.annotated inner notes)
  | union {h inner : Hint} {ms : List Hint} (hms : h.members? = some ms)
      (hone : besidesNull ms = [inner]) (hinner : Encloses n inner) : Encloses n h

/-- The type stands in the hint, under notes and among the members of unions. -/
inductive Mentions (n : TypeName) : Hint → Prop
  | type : Mentions n (.named n)
  | annotated {inner : Hint} {notes : List HintNote} (hinner : Mentions n inner) :
      Mentions n (.annotated inner notes)
  | union {h m : Hint} {ms : List Hint} (hms : h.members? = some ms) (hm : m ∈ ms)
      (hmentions : Mentions n m) : Mentions n h

/-- A hint that is built around a type goes by its name. -/
theorem typeName_of_encloses (he : Encloses n h) : h.typeName = n.own := by
  induction he with
  | type => rfl
  | annotated _ ih => exact ih
  | union hms hone _ ih => rw [typeName_of_single hms hone, ih]

/-- The type of null only mentions itself. -/
theorem isNullType_eq_false_of_mentions (hn : (named n).isNullType = false)
    (hmentions : Mentions n m) : m.isNullType = false := by
  cases hmentions with
  | type => exact hn
  | annotated _ => rfl
  | union hms _ _ => obtain rfl | rfl := members?_eq_some_iff.mp hms <;> rfl

/-- The full text of a hint is not shorter than the name of a type in it. -/
theorem length_own_le_of_mentions (hn : (named n).isNullType = false) (hmentions : Mentions n h) :
    n.own.length ≤ h.shown.length := by
  induction hmentions with
  | type => exact n.length_own_le
  | annotated _ ih => exact Nat.le_trans ih (length_shown_inner ..)
  | union hms hm hmentions ih =>
    have hbesides := mem_besidesNull.mpr ⟨hm, isNullType_eq_false_of_mentions hn hmentions⟩
    have hshown := length_shown_member hms hbesides
    omega

/-- **No choice between types.** A hint in which two types stand goes by the name of neither. -/
theorem typeName_ne_of_mentions (hn : (named n).isNullType = false)
    (hk : (named k).isNullType = false) (hne : k ≠ n) (hmentions : Mentions n h)
    (hother : Mentions k h) : h.typeName ≠ n.own := by
  induction hmentions with
  | type =>
    cases hother with
    | type => exact absurd rfl hne
    | union hms _ _ => cases hms
  | annotated _ ih =>
    cases hother with
    | annotated hother => exact ih hother
    | union hms _ _ => cases hms
  | @union h a ms hms ha hmentions ih =>
    cases hother with
    | type => cases hms
    | annotated _ => cases hms
    | @union _ b _ hms' hb hother =>
      cases hms.symm.trans hms'
      have ha := mem_besidesNull.mpr ⟨ha, isNullType_eq_false_of_mentions hn hmentions⟩
      have hb := mem_besidesNull.mpr ⟨hb, isNullType_eq_false_of_mentions hk hother⟩
      by_cases hone : (besidesNull ms).length = 1
      · -- Both types stand in the same member.
        obtain ⟨m, hone⟩ := List.length_eq_one_iff.mp hone
        rw [hone, List.mem_singleton] at ha hb
        subst ha hb
        rw [typeName_of_single hms hone]
        exact ih hother
      · intro heq
        have hpos := List.length_pos_of_mem ha
        have hlt := length_shown_member_lt hms ha (by omega)
        rw [← typeName_eq_shown hms hone, heq] at hlt
        exact absurd (length_own_le_of_mentions hn hmentions) (by omega)

end Hint

end RecordForge

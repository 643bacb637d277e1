import RecordForge.Declaration
import RecordForge.Proofs.Steps
import RecordForge.Proofs.ValueTexts

/-!
# Hashes of annotations

Annotations are compared by what was written in them, but the flags enter the hash by their texts.
Equal values may have different texts: a truth value equals a number, the two zeros equal each
other, and entries may come in any order. So equal annotations have the same hash exactly if their
flags are written from the same parts (`ColumnAnnotation.Content.sameHash_of_equals`); flags of the
declared kinds, texts and truth values, always are.
-/

namespace RecordForge

namespace Value

/-! ## Texts of equal values -/

variable {v w : Value}

/-- A text equals that text only. -/
theorem eq_of_equals_text_left {s : String} (h : (Value.text s).equals w = true) :
    w = .text s := by
  cases w with
  | text t => rw [of_decide_eq_true h]
  | _ => exact absurd h Bool.false_ne_true

theorem eq_of_equals_text_right {t : String} (h : v.equals (.text t) = true) : v = .text t := by
  cases v with
  | text s => rw [of_decide_eq_true h]
  | _ => exact absurd h Bool.false_ne_true

/-- **Equal values have the same text** exactly if they are written from the same parts. -/
theorem plain_eq_iff_of_equals (h : v.equals w = true) :
    v.plain = w.plain ↔ v.alike w = true := by
  -- Only a text stands for itself, and it equals no other value.
  by_cases hv : ∃ s, v = .text s
  · obtain ⟨s, rfl⟩ := hv
    rw [eq_of_equals_text_left h]
    exact iff_of_true rfl (decide_eq_true rfl)
  · have hw : ¬ ∃ t, w = .text t := by
      rintro ⟨t, rfl⟩
      exact hv ⟨t, eq_of_equals_text_right h⟩
    have hplain : ∀ {u : Value}, (¬ ∃ s, u = .text s) → u.plain = u.shown := by
      intro u hu
      cases u with
      | text s => exact absurd ⟨s, rfl⟩ hu
      | _ => rfl
    rw [hplain hv, hplain hw, shown_eq_iff]

/-- A flag as it is declared: a text or a truth value. -/
def isDeclaredFlag : Value → Bool
  | .text _ => true
  | .bool _ => true
  | _ => false

/-- Equal flags of the declared kinds are written alike. -/
theorem alike_of_equals_of_declared (hv : v.isDeclaredFlag = true) (hw : w.isDeclaredFlag = true)
    (h : v.equals w = true) : v.alike w = true := by
  cases v with
  | text s =>
    rw [eq_of_equals_text_left h]
    exact decide_eq_true rfl
  | bool b =>
    cases w with
    | text t => exact absurd (eq_of_equals_text_right h) (by simp)
    | bool c =>
      have hsame : b = c := by
        revert h
        cases b <;> cases c <;> decide
      exact decide_eq_true hsame
    | _ => exact absurd hw Bool.false_ne_true
  | _ => exact absurd hv Bool.false_ne_true

end Value

namespace ColumnAnnotation.Content

/-! ## Keys -/

variable {a b : Content}

/-- An annotation has a hash. -/
def IsHashable (a : Content) : Prop :=
  ∃ key, a.hashKey = .ok key

theorem eq_of_keyText_eq_ok {v : Value} {text : String} (h : v.keyText = .ok text) :
    text = v.plain := by
  unfold Value.keyText at h
  split at h
  next => exact (Except.ok.inj h).symm
  next => cases h

/-- The key of an annotation holds what was written, the flags by their texts. -/
theorem eq_of_hashKey_eq_ok {key : HashKey} (h : a.hashKey = .ok key) :
    key = ⟨a.name, a.allowNull.plain, a.primary.plain, a.version⟩ := by
  obtain ⟨allowNull, hallowNull, h⟩ := bind_eq_ok_iff.mp h
  obtain ⟨primary, hprimary, h⟩ := bind_eq_ok_iff.mp h
  obtain ⟨-, -, h⟩ := bind_eq_ok_iff.mp h
  obtain ⟨-, -, h⟩ := bind_eq_ok_iff.mp h
  rw [← eq_of_keyText_eq_ok hallowNull, ← eq_of_keyText_eq_ok hprimary]
  exact (Except.ok.inj h).symm

/-- Of equal annotations that have hashes, only the texts of the flags may differ in the hash. -/
theorem sameHash_eq (hequal : a.equals b = true) (ha : a.IsHashable) (hb : b.IsHashable) :
    a.sameHash b = .ok (a.allowNull.plain = b.allowNull.plain && a.primary.plain = b.primary.plain)
    := by
  obtain ⟨key, hkey⟩ := ha
  obtain ⟨key', hkey'⟩ := hb
  simp only [equals, Bool.and_eq_true] at hequal
  obtain ⟨⟨⟨hname, -⟩, -⟩, hversion⟩ := hequal
  have hsame : a.sameHash b = .ok (key.equals key') := by
    rw [sameHash, hkey, hkey']
    rfl
  rw [hsame, eq_of_hashKey_eq_ok hkey, eq_of_hashKey_eq_ok hkey', HashKey.equals]
  simp only [hname, hversion, Bool.true_and, Bool.and_true]

/-- **When equal annotations have the same hash**: exactly if their flags are written from the same
parts, as flags of the declared kinds are. -/
theorem sameHash_of_equals (hequal : a.equals b = true) (ha : a.IsHashable) (hb : b.IsHashable) :
    a.sameHash b = .ok (a.allowNull.alike b.allowNull && a.primary.alike b.primary)
      ∧ ((∀ flag ∈ [a.allowNull, a.primary, b.allowNull, b.primary],
          flag.isDeclaredFlag = true) → a.sameHash b = .ok true) := by
  have hflags : a.allowNull.equals b.allowNull = true ∧ a.primary.equals b.primary = true := by
    simp only [equals, Bool.and_eq_true] at hequal
    exact ⟨hequal.1.1.2, hequal.1.2⟩
  have htext : ∀ {v w : Value}, v.equals w = true → decide (v.plain = w.plain) = v.alike w := by
    intro v w h
    rw [Bool.eq_iff_iff, decide_eq_true_eq, Value.plain_eq_iff_of_equals h]
  have hsame : a.sameHash b = .ok (a.allowNull.alike b.allowNull && a.primary.alike b.primary) := by
    rw [sameHash_eq hequal ha hb, htext hflags.1, htext hflags.2]
  refine ⟨hsame, fun hdeclared => ?_⟩
  simp only [List.forall_mem_cons] at hdeclared
  obtain ⟨hallowNull, hprimary, hallowNull', hprimary', -⟩ := hdeclared
  rw [hsame, Value.alike_of_equals_of_declared hallowNull hallowNull' hflags.1,
    Value.alike_of_equals_of_declared hprimary hprimary' hflags.2]
  rfl

/-- Equal annotations one of which has the truth value for its version, and the other the number. -/
theorem sameHash_of_equals_version :
    (⟨.text "", .bool true, .text "false", .int 1⟩ : Content).sameHash
        ⟨.text "", .bool true, .text "false", .bool true⟩ = .ok true :=
  (sameHash_of_equals (by decide) ⟨_, rfl⟩ ⟨_, rfl⟩).2 (by decide)

/-- If a flag has the truth value and the number, the annotations are equal, and their hashes are
not. -/
theorem not_forall_sameHash_of_equals :
    (⟨.text "", .bool true, .text "false", .int 1⟩ : Content).equals
        ⟨.text "", .int 1, .text "false", .int 1⟩ = true
      ∧ (⟨.text "", .bool true, .text "false", .int 1⟩ : Content).sameHash
        ⟨.text "", .int 1, .text "false", .int 1⟩ = .ok false
      ∧ ¬ ∀ a b : Content, a.IsHashable → b.IsHashable → a.equals b = true →
        a.sameHash b = .ok true := by
  have hequal : (⟨.text "", .bool true, .text "false", .int 1⟩ : Content).equals
      ⟨.text "", .int 1, .text "false", .int 1⟩ = true := by decide
  have hdiffer : (⟨.text "", .bool true, .text "false", .int 1⟩ : Content).sameHash
      ⟨.text "", .int 1, .text "false", .int 1⟩ = .ok false := rfl
  refine ⟨hequal, hdiffer, fun hall => ?_⟩
  have hsame := hall _ _ ⟨_, rfl⟩ ⟨_, rfl⟩ hequal
  rw [hdiffer] at hsame
  exact Bool.false_ne_true (Except.ok.inj hsame)

end ColumnAnnotation.Content

end RecordForge

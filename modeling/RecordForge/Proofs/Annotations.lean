import Mathlib.Data.Bool.AllAny
import RecordForge.Proofs.Reports
import RecordForge.Proofs.Specification

/-!
# What becomes of an annotation

A flag is declared by a truth value or by a word, in any case and with blanks around it
(`DeclaresFlag`), a version by an integer from one on (`DeclaresVersion`). Anything else is malformed:
it is reported, and the default takes its place. `outcome_ofField` says of every field what its
specification makes of the annotation and what is reported on the way, in order.
-/

namespace RecordForge

open RecordForge.Text RecordForge.Naming

variable {c d : Char} {cs word : List Char}

/-! ## Words with blanks around them -/

/-- The text is the word, in any case and with blanks around it. -/
def Reads (text word : List Char) : Prop :=
  ∃ before letters after, text = before ++ (letters ++ after)
    ∧ (∀ c ∈ before, isBlank c = true) ∧ (∀ c ∈ after, isBlank c = true)
    ∧ letters.map Char.toLower = word

theorem toLower_eq_self (h : c.isUpper = false) : c.toLower = c := by
  have hdef : c.isUpper = decide (c.val ≥ 'A'.val ∧ c.val ≤ 'Z'.val) := rfl
  rw [hdef, decide_eq_false_iff_not] at h
  exact dif_neg h

theorem toNat_lt_of_toLower (h : c.toLower.toNat < 0x80) : c.toNat < 0x80 := by
  cases hc : c.isUpper with
  | true => exact toNat_lt_of_isUpper hc
  | false => rwa [toLower_eq_self hc] at h

/-- Capitals are no blanks, and neither are the letters that they become. -/
theorem isBlank_toLower (c : Char) : isBlank c.toLower = isBlank c := by
  cases hc : c.isUpper with
  | true =>
    have hall : ∀ n : Fin 128, (Char.ofNat n).isUpper = true →
        isBlank (Char.ofNat n).toLower = isBlank (Char.ofNat n) := by
      decide
    exact forall_ascii (p := fun c => c.isUpper = true → isBlank c.toLower = isBlank c) hall
      (toNat_lt_of_isUpper hc) hc
  | false => rw [toLower_eq_self hc]

theorem map_toLower_of_lowerAfter (hword : ∀ d ∈ word, hasAsciiSource d = true)
    (before : List Char) (h : lowerAfter before cs = word) : cs.map Char.toLower = word := by
  induction cs generalizing word before with
  | nil => exact h
  | cons c cs ih =>
    obtain ⟨d, rest, rfl⟩ : ∃ d rest, word = d :: rest :=
      List.exists_cons_of_ne_nil fun hnil =>
        List.cons_ne_nil c cs (lowerAfter_eq_nil_iff.mp (h.trans hnil))
    obtain ⟨hd, hrest⟩ := List.forall_mem_cons.mp hword
    -- The first character of the word can only come from the ASCII range, where a character becomes
    -- one character.
    have hc : c.toNat < 0x80 := by
      cases hcase : c.isUpper with
      | true => exact toNat_lt_of_isUpper hcase
      | false =>
        rw [eq_of_head?_lowerAfter hd hcase (by rw [h, List.head?_cons])]
        exact toNat_lt_of_hasAsciiSource hd
    rw [← List.singleton_append, lowerAfter_append_of_ascii (by simpa [isAscii] using hc)] at h
    obtain ⟨hhead, htail⟩ := List.cons.inj h
    rw [List.map_cons, hhead, ih hrest _ htail]

/-- A text is lower-cased to a word of such characters exactly if its letters are. -/
theorem lower_eq_iff (hword : ∀ d ∈ word, hasAsciiSource d = true) :
    lower cs = word ↔ cs.map Char.toLower = word := by
  refine ⟨map_toLower_of_lowerAfter hword [], ?_⟩
  rintro rfl
  apply lower_eq_map
  rw [isAscii, List.all_eq_true]
  intro c hc
  have hd := hword _ (List.mem_map_of_mem hc)
  exact decide_eq_true (toNat_lt_of_toLower (toNat_lt_of_hasAsciiSource hd))

/-- **What is read as a word**: a text comes to a word of such characters, stripped of its blanks and
in lower case, exactly if it is that word, in any case and with blanks around it. -/
theorem lower_strip_eq_iff (hword : ∀ d ∈ word, hasAsciiSource d = true ∧ isBlank d = false) :
    lower (strip isBlank cs) = word ↔ Reads cs word := by
  rw [lower_eq_iff fun d hd => (hword d hd).1]
  constructor
  · intro h
    obtain ⟨before, after, hsplit, hbefore, hafter⟩ := exists_strip isBlank cs
    exact ⟨before, _, after, hsplit, hbefore, hafter, h⟩
  · rintro ⟨before, letters, after, rfl, hbefore, hafter, rfl⟩
    have hletters : ∀ c ∈ letters, isBlank c = false := by
      intro c hc
      rw [← isBlank_toLower]
      exact (hword _ (List.mem_map_of_mem hc)).2
    rw [strip_append hbefore (fun c hc => hletters c (List.mem_of_mem_head? hc))
      (fun c hc => hletters c (List.mem_of_mem_getLast? hc)) hafter]

/-! ## Declared flags and versions -/

/-- The truth value that a written one declares. -/
inductive DeclaresFlag : Value → Bool → Prop where
  | value (b : Bool) : DeclaresFlag (.bool b) b
  | yes (s : String) (h : Reads s.toList "true".toList) : DeclaresFlag (.text s) true
  | no (s : String) (h : Reads s.toList "false".toList) : DeclaresFlag (.text s) false

/-- The version that a written one declares. A truth value is none. -/
inductive DeclaresVersion : Value → Int → Prop where
  | number (n : Int) (h : 1 ≤ n) : DeclaresVersion (.int n) n

namespace ColumnSpec

/-- A flag is read exactly as it is declared. -/
theorem flag?_eq_some_iff {raw : Value} {b : Bool} : flag? raw = some b ↔ DeclaresFlag raw b := by
  have hyes {s : String} : lower (strip isBlank s.toList) = "true".toList
      ↔ Reads s.toList "true".toList :=
    lower_strip_eq_iff (List.all_iff_forall_prop.mp (by decide))
  have hno {s : String} : lower (strip isBlank s.toList) = "false".toList
      ↔ Reads s.toList "false".toList :=
    lower_strip_eq_iff (List.all_iff_forall_prop.mp (by decide))
  constructor
  · intro h
    cases raw with
    | bool a => exact Option.some.inj h ▸ .value a
    | text s =>
      simp only [flag?] at h
      split at h
      next hword => exact Option.some.inj h ▸ .yes s (hyes.mp hword)
      next =>
        split at h
        next hword => exact Option.some.inj h ▸ .no s (hno.mp hword)
        next => exact absurd h (by simp)
    | _ => exact absurd h (by simp [flag?])
  · rintro (⟨b⟩ | ⟨s, hs⟩ | ⟨s, hs⟩)
    · rfl
    · rw [flag?, if_pos (hyes.mpr hs)]
    · rw [flag?, if_neg (by rw [hno.mpr hs]; decide), if_pos (hno.mpr hs)]

theorem positive?_eq_some_iff {raw : Value} {n : Int} :
    raw.positive? = some n ↔ DeclaresVersion raw n := by
  constructor
  · intro h
    cases raw with
    | int m =>
      simp only [Value.positive?] at h
      split at h
      next hm => exact Option.some.inj h ▸ .number m hm
      next => exact absurd h (by simp)
    | _ => exact absurd h (by simp [Value.positive?])
  · rintro ⟨_, hn⟩
    exact if_pos hn

instance (raw : Value) : Decidable (∃ b, DeclaresFlag raw b) :=
  decidable_of_iff ((flag? raw).isSome = true)
    (by simp only [Option.isSome_iff_exists, flag?_eq_some_iff])

instance (raw : Value) : Decidable (∃ n, DeclaresVersion raw n) :=
  decidable_of_iff (raw.positive?.isSome = true)
    (by simp only [Option.isSome_iff_exists, positive?_eq_some_iff])

example : DeclaresFlag (.text "\u2003 TRUE\n") true :=
  flag?_eq_some_iff.mp (by decide)

end ColumnSpec

/-- What is declared, or the default where nothing is. -/
def Settled {α : Type} (declares : α → Prop) (default settled : α) : Prop :=
  declares settled ∨ (∀ a, ¬ declares a) ∧ settled = default

theorem settled_getD {α : Type} {declares : α → Prop} {declared : Option α}
    (h : ∀ {a}, declared = some a ↔ declares a) (default : α) :
    Settled declares default (declared.getD default) := by
  cases hdeclared : declared with
  | none => exact Or.inr ⟨fun a ha => absurd (h.mpr ha) (by simp [hdeclared]), rfl⟩
  | some a => exact Or.inl (h.mp hdeclared)

namespace ColumnSpec

/-! ## Reports on what is malformed -/

/-- The warning about a flag, if it is malformed. -/
def flagFaults (flag identifier : String) (raw : Value) (default : Bool) : List Diagnostic :=
  if ∃ b, DeclaresFlag raw b then []
  else [⟨.warning, "parse %s for [%s] failed: %r, use default %s",
    [.text flag, .text identifier, raw, .bool default]⟩]

/-- The warning about a version, if it is malformed. -/
def versionFaults (identifier : String) (raw : Value) : List Diagnostic :=
  if ∃ n, DeclaresVersion raw n then []
  else [⟨.warning, "invalid version for [%s]: %r, use default %d",
    [.text identifier, raw, .int firstVersion]⟩]

/-- The warnings about an annotation. -/
def faults (identifier : String) (column : ColumnAnnotation) : List Diagnostic :=
  flagFaults "allow_null" identifier column.allowNull true
    ++ flagFaults "primary" identifier column.primary false
    ++ versionFaults identifier column.version

/-- What is noted of a field before its annotation is read. -/
def opening (identifier typeName : String) (column : ColumnAnnotation) : List Diagnostic :=
  [⟨.note, "dbfield: name = %s", [.text identifier]⟩,
    ⟨.note, "dbfield: type = %s", [.text typeName]⟩,
    ⟨.note, "dbfield: version = %s", [column.version]⟩]

/-- The warning about a field without identifier or type. -/
def lack (field : FieldDeclaration) : Diagnostic :=
  ⟨.warning, "field [%s] of type [%s] has no name or type. ignored!",
    [Value.ofText? field.identifier, Value.ofText? field.typeName]⟩

/-- The warning about a type that cannot be stored. -/
def unsupported (identifier typeName : String) : Diagnostic :=
  ⟨.warning, "[%s] of field [%s] is unsupported data type. ignored!",
    [.text typeName, .text identifier]⟩

@[simp] theorem diagnostics_readFlag (raw : Value) (default : Bool) (flag identifier : String) :
    (readFlag raw default flag identifier).diagnostics
      = flagFaults flag identifier raw default := by
  rw [readFlag, flagFaults]
  split
  next b hb => rw [if_pos ⟨b, flag?_eq_some_iff.mp hb⟩, Reported.diagnostics_pure]
  next hnone =>
    rw [if_neg fun ⟨b, hb⟩ => absurd (flag?_eq_some_iff.mpr hb) (by simp [hnone])]
    rfl

@[simp] theorem diagnostics_readVersion (raw : Value) (identifier : String) :
    (readVersion raw identifier).diagnostics = versionFaults identifier raw := by
  rw [readVersion, versionFaults]
  split
  next n hn => rw [if_pos ⟨n, positive?_eq_some_iff.mp hn⟩, Reported.diagnostics_pure]
  next hnone =>
    rw [if_neg fun ⟨n, hn⟩ => absurd (positive?_eq_some_iff.mpr hn) (by simp [hnone])]
    rfl

/-- What is reported of a field with an identifier and a type: the notes, the warnings about its
annotation, and at last that its type cannot be stored, if that is so. -/
theorem diagnostics_ofNamed (config : Config) (identifier typeName : String)
    (column : ColumnAnnotation) :
    (ofNamed config identifier typeName column).diagnostics
      = opening identifier typeName column ++ faults identifier column
        ++ if TypeMapping.ofType? typeName = none then [unsupported identifier typeName] else [] := by
  unfold ofNamed opening faults
  cases TypeMapping.ofType? typeName with
  | none => simp [unsupported]
  | some mapping => by_cases haccessors : config.generateAccessors <;> simp [haccessors]

end ColumnSpec

/-! ## What a specification follows from -/

/-- The field has an identifier and a type. -/
structure FieldDeclaration.Declares (field : FieldDeclaration) (identifier typeName : String) :
    Prop where
  identifier_eq : field.identifier = some identifier
  identifier_ne_empty : identifier ≠ ""
  typeName_eq : field.typeName = some typeName
  typeName_ne_empty : typeName ≠ ""

namespace ColumnSpec

variable {config : Config} {field : FieldDeclaration} {identifier typeName : String}

theorem ofField_of_declares (h : field.Declares identifier typeName) :
    ofField config field = ofNamed config identifier typeName field.column := by
  obtain ⟨hidentifier, hidentifier_ne, htypeName, htypeName_ne⟩ := h
  rw [ofField, hidentifier, htypeName]
  exact if_neg (not_or.mpr ⟨hidentifier_ne, htypeName_ne⟩)

theorem ofField_of_lacking (h : ¬ ∃ identifier typeName, field.Declares identifier typeName) :
    ofField config field = ofField.missing field := by
  unfold ofField
  split
  next identifier typeName hidentifier htypeName =>
    refine if_pos ?_
    by_contra hne
    obtain ⟨hidentifier_ne, htypeName_ne⟩ := not_or.mp hne
    exact h ⟨identifier, typeName, hidentifier, hidentifier_ne, htypeName, htypeName_ne⟩
  next => rfl

/-- An accessor of the column, for values of the type. -/
structure Serves (a : Accessor) (spec : ColumnSpec) (mapping : TypeMapping) : Prop where
  constantName : a.constantName = spec.constantName
  valueType : a.valueType = mapping.valueType
  retrieval : a.retrieval = mapping.retrieval
  boolean : a.boolean = mapping.boolean

/-- The specification says what the annotation declares, with the defaults where it declares
nothing. A primary key is never null, whatever is declared. The definition of the column repeats the
specification, and the accessors are there exactly if they are generated. -/
structure Follows (spec : ColumnSpec) (config : Config) (mapping : TypeMapping)
    (column : ColumnAnnotation) : Prop where
  primary : Settled (DeclaresFlag column.primary) false spec.primary
  allowNull : ∃ allowed, Settled (DeclaresFlag column.allowNull) true allowed
    ∧ spec.allowNull = (allowed && !spec.primary)
  key_not_null : ¬ (spec.primary = true ∧ spec.allowNull = true)
  version : Settled (DeclaresVersion column.version) 1 spec.version
  one_le_version : 1 ≤ spec.version
  kind : spec.kind = mapping.kind
  field : spec.field = some
    { constantName := spec.constantName, columnClass := spec.kind.columnClass,
      columnName := spec.columnName, allowNull := spec.allowNull, primary := spec.primary,
      version := spec.version }
  accessors : config.generateAccessors = true → ∃ names getter setter,
    spec.accessorNames = some names ∧ spec.getter = some getter ∧ spec.setter = some setter
      ∧ getter.name = names.getter ∧ Serves getter spec mapping
      ∧ setter.name = names.setter ∧ Serves setter spec mapping
  no_accessors : config.generateAccessors = false →
    spec.accessorNames = none ∧ spec.getter = none ∧ spec.setter = none

/-- What comes of a field, and what is reported about it. -/
inductive Outcome (config : Config) (field : FieldDeclaration) :
    Option ColumnSpec → List Diagnostic → Prop where
  | lacking (h : ¬ ∃ identifier typeName, field.Declares identifier typeName) :
    Outcome config field none [lack field]
  | unsupported {identifier typeName : String} (h : field.Declares identifier typeName)
    (htype : TypeMapping.ofType? typeName = none) :
    Outcome config field none (opening identifier typeName field.column
      ++ faults identifier field.column ++ [ColumnSpec.unsupported identifier typeName])
  | specified {identifier typeName : String} {mapping : TypeMapping} {spec : ColumnSpec}
    (h : field.Declares identifier typeName) (htype : TypeMapping.ofType? typeName = some mapping)
    (hspec : spec.Follows config mapping field.column) :
    Outcome config field (some spec)
      (opening identifier typeName field.column ++ faults identifier field.column)

theorem follows_specified (config : Config) (identifier : String) (mapping : TypeMapping)
    (column : ColumnAnnotation) :
    (specified config identifier mapping column).Follows config mapping column where
  primary := by
    rw [primary_specified]
    exact settled_getD flag?_eq_some_iff false
  allowNull := ⟨_, settled_getD flag?_eq_some_iff true, allowNull_specified ..⟩
  key_not_null := by
    rw [allowNull_specified]
    rintro ⟨hprimary, hnull⟩
    simp [hprimary] at hnull
  version := by
    rw [version_specified]
    exact settled_getD positive?_eq_some_iff firstVersion
  one_le_version := one_le_version_specified ..
  kind := kind_specified ..
  field := field_specified ..
  accessors := by
    intro haccessors
    obtain ⟨hnames, hgetter, hsetter⟩ :=
      accessors_specified config identifier mapping column haccessors
    exact ⟨_, _, _, hnames, hgetter, hsetter, rfl, ⟨rfl, rfl, rfl, rfl⟩, rfl, ⟨rfl, rfl, rfl, rfl⟩⟩
  no_accessors := no_accessors_specified config identifier mapping column

/-- **What comes of a field.** One without identifier or type is reported as such. Of any other the
notes come first and then the warnings about its annotation, one for each part that is malformed; if
its type can be stored there is a specification, and it follows from the annotation, and if it cannot
this is reported last. -/
theorem outcome_ofField (config : Config) (field : FieldDeclaration) :
    Outcome config field (ofField config field).result (ofField config field).diagnostics := by
  by_cases h : ∃ identifier typeName, field.Declares identifier typeName
  · obtain ⟨identifier, typeName, h⟩ := h
    rw [ofField_of_declares h, result_ofNamed, diagnostics_ofNamed]
    cases htype : TypeMapping.ofType? typeName with
    | none =>
      exact .unsupported h htype
    | some mapping =>
      rw [if_neg (by simp), List.append_nil]
      exact .specified h htype (follows_specified ..)
  · rw [ofField_of_lacking h]
    exact .lacking h

end ColumnSpec

end RecordForge

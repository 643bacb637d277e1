import RecordForge.Proofs.Keeping
import RecordForge.Proofs.Wording

/-!
# Every field is accounted for

A field is kept, or it is ignored and one warning says so. Reading a field warns that it is ignored
exactly if it gives no specification (`ignoredTexts_ofField`), and a specification is passed over
only with a warning of its own. Position by position this makes an account of the fields
(`Accounted`), and `select_accounts` says that it is complete: nothing is kept or ignored beside it,
so the kept columns and the warnings together are as many as the fields.
-/

namespace RecordForge

/-! ## Warnings that something is ignored -/

/-- The text of a warning that something is ignored. -/
def Diagnostic.ignoredText? (d : Diagnostic) : Option String :=
  match d.severity, d.message with
  | .warning, .ok text => if "ignored!".toList <:+ text.toList then some text else none
  | _, _ => none

namespace Reported

variable {α β : Type}

/-- The texts of the warnings that something is ignored, in order. -/
def ignoredTexts (x : Reported α) : List String :=
  x.diagnostics.filterMap Diagnostic.ignoredText?

@[simp] theorem ignoredTexts_pure (a : α) : (Pure.pure a : Reported α).ignoredTexts = [] := rfl

@[simp] theorem ignoredTexts_bind (x : Reported α) (f : α → Reported β) :
    (x >>= f).ignoredTexts = x.ignoredTexts ++ (f x.result).ignoredTexts := by
  rw [ignoredTexts, diagnostics_bind, List.filterMap_append]
  rfl

@[simp] theorem ignoredTexts_note (format : String) (values : List Value) :
    (note format values).ignoredTexts = [] := rfl

theorem ignoredTexts_warn {format text : String} {values : List Value}
    (h : Message.format format values = .ok text) :
    (warn format values).ignoredTexts
      = if "ignored!".toList <:+ text.toList then [text] else [] := by
  rw [ignoredTexts, diagnostics_warn, List.filterMap_cons, List.filterMap_nil,
    Diagnostic.ignoredText?, Diagnostic.message, h]
  by_cases hsuffix : "ignored!".toList <:+ text.toList
  · simp only [if_pos hsuffix]
  · simp only [if_neg hsuffix]

/-- A warning that ends so says that something is ignored. -/
theorem ignoredTexts_warn_of_suffix {format text : String} {values : List Value}
    (h : Message.format format values = .ok (text ++ "ignored!")) :
    (warn format values).ignoredTexts = [text ++ "ignored!"] := by
  rw [ignoredTexts_warn h, String.toList_append, if_pos (List.suffix_append _ _)]

/-- A warning that ends in another character does not, and neither does one without a text. -/
theorem ignoredTexts_warn_of_last {format text ending : String} {values : List Value} {c : Char}
    {readable : Bool} {e : MessageError}
    (h : Message.format format values = if readable then .ok (text ++ ending) else .error e)
    (hlast : ending.toList.getLast? = some c) (hc : c ≠ '!') :
    (warn format values).ignoredTexts = [] := by
  cases readable with
  | false =>
    rw [ignoredTexts, diagnostics_warn, List.filterMap_cons, Diagnostic.ignoredText?,
      Diagnostic.message, h]
    rfl
  | true =>
    rw [ignoredTexts_warn h, if_neg]
    rintro ⟨before, hbefore⟩
    have hsame := congrArg List.getLast? hbefore
    have hmark : "ignored!".toList.getLast? = some '!' := by decide
    rw [String.toList_append, List.getLast?_append, List.getLast?_append, hlast, hmark] at hsame
    exact hc (Option.some.inj hsame).symm

end Reported

/-! ## What reading a field reports -/

namespace FieldDeclaration

/-- How a warning mentions the field. -/
def mention (field : FieldDeclaration) : String :=
  "field [" ++ (Value.ofText? field.identifier).plain ++ "]"

/-- What a warning says of a field without identifier or type. -/
def lack (field : FieldDeclaration) : String :=
  field.mention ++ " of type [" ++ (Value.ofText? field.typeName).plain
    ++ "] has no name or type. ignored!"

/-- What a warning says of a field whose type cannot be stored. -/
def misfit (field : FieldDeclaration) : String :=
  "[" ++ (Value.ofText? field.typeName).plain ++ "] of " ++ field.mention
    ++ " is unsupported data type. ignored!"

/-- What a warning says of a field that has a name of another one. -/
def duplication (field : FieldDeclaration) (name : String) (owner : FieldDeclaration) : String :=
  field.mention ++ " duplicates " ++ name ++ " of " ++ owner.mention ++ ". ignored!"

/-- Whether the field has an identifier and a type. -/
def isNamed (field : FieldDeclaration) : Bool :=
  field.identifier.any (· ≠ "") && field.typeName.any (· ≠ "")

/-- What a warning says of a field without a specification. -/
def refusal (field : FieldDeclaration) : String :=
  if field.isNamed then field.misfit else field.lack

/-- Whatever the refusal, it mentions the field. -/
theorem mention_isInfix_refusal (field : FieldDeclaration) :
    field.mention.toList <:+: field.refusal.toList := by
  rw [refusal]
  split
  · rw [misfit, String.toList_append, String.toList_append]
    exact ⟨_, _, rfl⟩
  · rw [lack, String.append_assoc, String.append_assoc, String.toList_append]
    exact (List.prefix_append _ _).isInfix

end FieldDeclaration

namespace ColumnSpec

open Message (Part readings format format_parts format_parts_of_writable)

theorem ignoredTexts_readFlag (raw : Value) (default : Bool) (flag field : String) :
    (readFlag raw default flag field).ignoredTexts = [] := by
  unfold readFlag
  split
  next => rfl
  next =>
    have hformat : format "parse %s for [%s] failed: %r, use default %s"
        [.text flag, .text field, raw, .bool default]
        = if [.text flag, .text field, raw, .bool default].all Value.isWritable then
            .ok ("parse " ++ flag ++ " for [" ++ field ++ "] failed: " ++ raw.shown
              ++ ", use default " ++ (Value.bool default).plain)
          else .error .unwritable := by
      apply format_parts [.literal "parse ", .plain (.text flag), .literal " for [",
        .plain (.text field), .literal "] failed: ", .shown raw, .literal ", use default ",
        .plain (.bool default)] rfl rfl rfl rfl
      simp [readings, Part.reading, Value.plain, String.append_assoc]
    have hlast : (Value.bool default).plain.toList.getLast? = some 'e' := by
      cases default <;> decide
    simp [Reported.ignoredTexts_warn_of_last hformat hlast (by decide)]

theorem ignoredTexts_readVersion (raw : Value) (field : String) :
    (readVersion raw field).ignoredTexts = [] := by
  unfold readVersion
  split
  next => rfl
  next =>
    have hformat : format "invalid version for [%s]: %r, use default %d"
        [.text field, raw, .int firstVersion]
        = if [.text field, raw, .int firstVersion].all Value.isWritable then
            .ok ("invalid version for [" ++ field ++ "]: " ++ raw.shown ++ ", use default "
              ++ toString firstVersion)
          else .error .unwritable := by
      apply format_parts [.literal "invalid version for [", .plain (.text field), .literal "]: ",
        .shown raw, .literal ", use default ", .integer firstVersion] rfl rfl rfl rfl
      simp [readings, Part.reading, Value.plain, String.append_assoc]
    have hlast : (toString firstVersion).toList.getLast? = some '1' := by decide
    simp [Reported.ignoredTexts_warn_of_last hformat hlast (by decide)]

theorem ignoredTexts_missing (field : FieldDeclaration) :
    (ofField.missing field).ignoredTexts = [field.lack] := by
  have hformat : format "field [%s] of type [%s] has no name or type. ignored!"
      [Value.ofText? field.identifier, Value.ofText? field.typeName]
      = .ok (field.mention ++ " of type [" ++ (Value.ofText? field.typeName).plain
          ++ "] has no name or type. " ++ "ignored!") := by
    apply format_parts_of_writable [.literal "field [",
      .plain (Value.ofText? field.identifier), .literal "]", .literal " of type [",
      .plain (Value.ofText? field.typeName), .literal "] has no name or type. ",
      .literal "ignored!"] rfl rfl rfl rfl (by simp [Part.value?])
    simp [readings, Part.reading, FieldDeclaration.mention, String.append_assoc,
      -String.reduceAppend]
  rw [ofField.missing, Reported.ignoredTexts_bind, Reported.ignoredTexts_warn_of_suffix hformat]
  simp [FieldDeclaration.lack, String.append_assoc]

/-- A field that is named is ignored exactly if its type cannot be stored; what it is warned of
before, its flags and its version, does not say so. -/
theorem ignoredTexts_ofNamed (config : Config) (field : FieldDeclaration)
    {identifier typeName : String} (hidentifier : field.identifier = some identifier)
    (htype : field.typeName = some typeName) :
    (ofNamed config identifier typeName field.column).ignoredTexts
      = if (ofNamed config identifier typeName field.column).result.isSome then []
        else [field.misfit] := by
  rw [result_ofNamed, ofNamed]
  cases hmapping : TypeMapping.ofType? typeName with
  | some mapping =>
    by_cases haccessors : config.generateAccessors
    · simp [ignoredTexts_readFlag, ignoredTexts_readVersion, haccessors]
    · simp [ignoredTexts_readFlag, ignoredTexts_readVersion, haccessors]
  | none =>
    have hformat : format "[%s] of field [%s] is unsupported data type. ignored!"
        [.text typeName, .text identifier]
        = .ok ("[" ++ typeName ++ "] of " ++ field.mention ++ " is unsupported data type. "
            ++ "ignored!") := by
      apply format_parts_of_writable [.literal "[", .plain (.text typeName), .literal "] of ",
        .literal "field [", .plain (.text identifier), .literal "]",
        .literal " is unsupported data type. ", .literal "ignored!"] rfl rfl rfl rfl
        (by simp [Part.value?])
      rw [FieldDeclaration.mention, hidentifier]
      simp [readings, Part.reading, Value.ofText?, Value.plain, String.append_assoc,
        -String.reduceAppend]
    simp [ignoredTexts_readFlag, ignoredTexts_readVersion,
      Reported.ignoredTexts_warn_of_suffix hformat, FieldDeclaration.misfit, htype, Value.ofText?,
      Value.plain, String.append_assoc]

/-- **Reading a field says that it is ignored exactly if it has no specification**, and then in one
warning. -/
theorem ignoredTexts_ofField (config : Config) (field : FieldDeclaration) :
    (ofField config field).ignoredTexts
      = if (ofField config field).result.isSome then [] else [field.refusal] := by
  -- A lacking identifier or type is found in three ways, all of which report the same.
  have hmissing : field.isNamed = false → (ofField.missing field).ignoredTexts
      = if (ofField.missing field).result.isSome then [] else [field.refusal] := by
    intro hnamed
    rw [ignoredTexts_missing, FieldDeclaration.refusal, hnamed]
    rfl
  unfold ofField
  split
  next identifier typeName hidentifier htype =>
    split
    next hempty =>
      apply hmissing
      simpa [FieldDeclaration.isNamed, hidentifier, htype, or_iff_not_imp_left] using hempty
    next hempty =>
      have hnamed : field.isNamed = true := by
        simpa [FieldDeclaration.isNamed, hidentifier, htype] using hempty
      rw [ignoredTexts_ofNamed config field hidentifier htype, FieldDeclaration.refusal,
        if_pos hnamed]
  next hnone =>
    apply hmissing
    rw [FieldDeclaration.isNamed]
    cases hidentifier : field.identifier with
    | none => rfl
    | some identifier =>
      cases htype : field.typeName with
      | none => simp
      | some typeName => exact absurd htype (hnone identifier typeName hidentifier)

/-! ## What a position adds -/

/-- What selecting from the fields up to a position reports beyond what it reports for those before
it. -/
def reportsAt (config : Config) (fields : List FieldDeclaration) (i : Nat) : List Diagnostic :=
  (select config (fields.take (i + 1))).diagnostics.drop
    (select config (fields.take i)).diagnostics.length

/-- The warnings of a position that something is ignored. -/
def ignoredAt (config : Config) (fields : List FieldDeclaration) (i : Nat) : List String :=
  (reportsAt config fields i).filterMap Diagnostic.ignoredText?

variable {config : Config} {fields : List FieldDeclaration} {i : Nat} {field : FieldDeclaration}

theorem reportsAt_eq (config : Config) (fields : List FieldDeclaration) (i : Nat) :
    reportsAt config fields i = (selectAt config fields i).diagnostics := by
  rw [reportsAt, select_take_succ]
  simp

theorem ignoredAt_eq (config : Config) (fields : List FieldDeclaration) (i : Nat) :
    ignoredAt config fields i = (selectAt config fields i).ignoredTexts := by
  rw [ignoredAt, reportsAt_eq]
  rfl

/-- The first of the names that has an owner: those before it have none. -/
theorem exists_eq_of_clash? {owners : Owners} {names : List String} {name : String}
    {owner : Option String} (h : clash? owners names = some (name, owner)) :
    ∃ before after, names = before ++ name :: after ∧ clash? owners before = none
      ∧ contentAt? owners name = some owner := by
  induction names with
  | nil => exact absurd h (by simp [clash?])
  | cons first rest ih =>
    rw [clash?] at h
    cases hfirst : contentAt? owners first with
    | some found =>
      rw [hfirst] at h
      obtain ⟨rfl, rfl⟩ := Prod.mk.inj (Option.some.inj h)
      exact ⟨[], rest, rfl, rfl, hfirst⟩
    | none =>
      rw [hfirst] at h
      obtain ⟨before, after, rfl, hbefore, howner⟩ := ih h
      exact ⟨first :: before, after, rfl, by rw [clash?, hfirst]; exact hbefore, howner⟩

/-- Of the names of the field at a position, `name` is the first that belongs to an earlier kept
field, and `owner` is that field. -/
def FirstClash (config : Config) (fields : List FieldDeclaration) (i : Nat) (names : List String)
    (name : String) (owner : FieldDeclaration) : Prop :=
  (∃ before after, names = before ++ name :: after
    ∧ ∀ j < i, ∀ earlier, keptAt? config fields j = some earlier →
        ∀ other ∈ before, other ∉ earlier.names)
  ∧ ∃ j < i, fields[j]? = some owner
    ∧ ∃ earlier, keptAt? config fields j = some earlier ∧ name ∈ earlier.names

/-- A warning about a duplicate says that the field is ignored. -/
theorem ignoredTexts_duplication (field owner : FieldDeclaration) (name : String) :
    (Reported.warn "field [%s] duplicates %s of field [%s]. ignored!"
      [Value.ofText? field.identifier, .text name, Value.ofText? owner.identifier]).ignoredTexts
        = [field.duplication name owner] := by
  have hformat : format "field [%s] duplicates %s of field [%s]. ignored!"
      [Value.ofText? field.identifier, .text name, Value.ofText? owner.identifier]
      = .ok (field.mention ++ " duplicates " ++ name ++ " of " ++ owner.mention ++ ". "
          ++ "ignored!") := by
    apply format_parts_of_writable [.literal "field [",
      .plain (Value.ofText? field.identifier), .literal "]", .literal " duplicates ",
      .plain (.text name), .literal " of ", .literal "field [",
      .plain (Value.ofText? owner.identifier), .literal "]", .literal ". ", .literal "ignored!"]
      rfl rfl rfl rfl (by simp [Part.value?])
    simp [readings, Part.reading, FieldDeclaration.mention, Value.plain, String.append_assoc,
      -String.reduceAppend]
  rw [Reported.ignoredTexts_warn_of_suffix hformat]
  simp [FieldDeclaration.duplication, String.append_assoc]

/-- A position at which nothing is kept because the field has no specification. -/
theorem ignoredAt_of_none (hfield : fields[i]? = some field)
    (hspec : (ofField config field).result = none) :
    ignoredAt config fields i = [field.refusal] := by
  rw [ignoredAt_eq, selectAt, hfield, Option.toList_some, selectFrom, Reported.ignoredTexts_bind,
    ignoredTexts_ofField, hspec]
  rfl

/-- A position at which a field is kept. -/
theorem ignoredAt_of_keptAt? {spec : ColumnSpec} (hkept : keptAt? config fields i = some spec) :
    ignoredAt config fields i = [] := by
  obtain ⟨field, hfield, hspec⟩ := exists_field_of_keptAt? hkept
  have hi : i < fields.length := (List.getElem?_eq_some_iff.mp hfield).1
  have hclash : clash? (takenBefore config fields i) spec.names = none := by
    rw [keptAt?_eq_of_fit (fit_takenBefore (Nat.le_of_lt hi)) hfield, hspec] at hkept
    simpa using (Option.filter_eq_some_iff.mp hkept).2
  have hcomplete := isComplete_of_result_ofField hspec
  rw [ignoredAt_eq, selectAt, hfield, Option.toList_some, selectFrom, Reported.ignoredTexts_bind,
    ignoredTexts_ofField, hspec]
  simp [hcomplete, hclash, selectFrom]

/-- A position at which a field is passed over although it has a specification. -/
theorem ignoredAt_of_not_kept {spec : ColumnSpec} (hfield : fields[i]? = some field)
    (hspec : (ofField config field).result = some spec) (hkept : keptAt? config fields i = none) :
    ∃ name owner, FirstClash config fields i spec.names name owner
      ∧ ignoredAt config fields i = [field.duplication name owner] := by
  have hi : i < fields.length := (List.getElem?_eq_some_iff.mp hfield).1
  have hfit : Fit config fields (takenBefore config fields i) i := fit_takenBefore (Nat.le_of_lt hi)
  cases hclash : clash? (takenBefore config fields i) spec.names with
  | none =>
    rw [keptAt?_eq_of_fit hfit hfield, hspec] at hkept
    simp [Option.filter_some, hclash] at hkept
  | some found =>
    obtain ⟨name, identifier⟩ := found
    -- What the table says of the clash is said in positions, as the table fits them.
    obtain ⟨before, after, hnames, hbefore, howner⟩ := exists_eq_of_clash? hclash
    obtain ⟨j, hj, owner, earlier, hj', rfl, hearlier, hname⟩ := (hfit name identifier).mp howner
    refine ⟨name, owner, ⟨⟨before, after, hnames, ?_⟩, j, hj, hj', earlier, hearlier, hname⟩, ?_⟩
    · exact (clash?_eq_none_iff_of_fit hfit).mp hbefore
    · have hcomplete := isComplete_of_result_ofField hspec
      rw [ignoredAt_eq, selectAt, hfield, Option.toList_some, selectFrom,
        Reported.ignoredTexts_bind, ignoredTexts_ofField, hspec]
      simp [hcomplete, hclash, ignoredTexts_duplication, selectFrom]

/-! ## The account -/

/-- The names that a specification takes: its constant, and its accessors if they are on. -/
def TakesNames (config : Config) (spec : ColumnSpec) : Prop :=
  if config.generateAccessors then
    ∃ getter setter, spec.getter = some getter ∧ spec.setter = some setter
      ∧ spec.names = [spec.constantName, getter.name, setter.name]
  else spec.names = [spec.constantName]

theorem takesNames_of_result_ofField {spec : ColumnSpec}
    (h : (ofField config field).result = some spec) : TakesNames config spec := by
  obtain ⟨identifier, typeName, mapping, -, -, -, -, -, rfl⟩ := result_ofField_eq_some_iff.mp h
  rw [TakesNames]
  split
  next haccessors =>
    obtain ⟨hnames, hgetter, hsetter⟩ :=
      accessors_specified config identifier mapping field.column haccessors
    refine ⟨_, _, hgetter, hsetter, ?_⟩
    rw [names, hnames]
    rfl
  next haccessors =>
    obtain ⟨hnames, -, -⟩ := no_accessors_specified config identifier mapping field.column
      (Bool.not_eq_true _ ▸ haccessors)
    rw [names, hnames]

/-- The account of the field at a position: it is kept exactly if it has a specification none of
whose names belongs to an earlier kept field; then nothing says that it is ignored, and otherwise
exactly one warning does, which mentions it and, if it is a duplicate, the first name that clashes
and the owner of that name. -/
structure Accounted (config : Config) (fields : List FieldDeclaration) (i : Nat)
    (field : FieldDeclaration) : Prop where
  kept_iff : ∀ spec, keptAt? config fields i = some spec
    ↔ (ofField config field).result = some spec
      ∧ ∀ j < i, ∀ earlier, keptAt? config fields j = some earlier →
          ∀ name ∈ spec.names, name ∉ earlier.names
  /-- The gate that a specification passes lets every one of them through. -/
  specified : ∀ spec, (ofField config field).result = some spec →
    TakesNames config spec ∧ spec.isComplete config.generateAccessors = true
  kept : ∀ spec, keptAt? config fields i = some spec → ignoredAt config fields i = []
  refused : (ofField config field).result = none → ignoredAt config fields i = [field.refusal]
  ignored : keptAt? config fields i = none →
    ∃ text, ignoredAt config fields i = [text] ∧ field.mention.toList <:+: text.toList
  duplicate : ∀ spec, (ofField config field).result = some spec →
    keptAt? config fields i = none →
      ∃ name owner, FirstClash config fields i spec.names name owner
        ∧ ignoredAt config fields i = [field.duplication name owner]

theorem accounted (hfield : fields[i]? = some field) : Accounted config fields i field where
  kept_iff spec := by rw [keptAt?_eq_some_iff, specAt?, hfield, Option.bind_some]
  specified spec hspec :=
    ⟨takesNames_of_result_ofField hspec, isComplete_of_result_ofField hspec⟩
  kept spec hkept := ignoredAt_of_keptAt? hkept
  refused hspec := ignoredAt_of_none hfield hspec
  ignored hkept := by
    cases hspec : (ofField config field).result with
    | none => exact ⟨_, ignoredAt_of_none hfield hspec, field.mention_isInfix_refusal⟩
    | some spec =>
      obtain ⟨name, owner, -, htext⟩ := ignoredAt_of_not_kept hfield hspec hkept
      refine ⟨_, htext, ?_⟩
      simp only [FieldDeclaration.duplication, String.append_assoc, String.toList_append]
      exact (List.prefix_append _ _).isInfix
  duplicate spec hspec hkept := ignoredAt_of_not_kept hfield hspec hkept

/-- At every position of a field either one is kept or one is ignored. -/
theorem length_ignoredAt_add (hi : i < fields.length) :
    (ignoredAt config fields i).length + (keptAt? config fields i).toList.length = 1 := by
  have haccount : Accounted config fields i fields[i] := accounted (List.getElem?_eq_getElem hi)
  cases hkept : keptAt? config fields i with
  | none =>
    obtain ⟨text, htext, -⟩ := haccount.ignored hkept
    rw [htext]
    rfl
  | some spec =>
    rw [haccount.kept spec hkept]
    rfl

/-- Up to every position, the kept fields and the warnings are as many as the fields. -/
theorem length_kept_add_length_ignored {n : Nat} (hn : n ≤ fields.length) :
    ((List.range n).filterMap (keptAt? config fields)).length
      + ((List.range n).flatMap (ignoredAt config fields)).length = n := by
  induction n with
  | zero => rfl
  | succ n ih =>
    have hbefore := ih (Nat.le_of_succ_le hn)
    have hhere : (ignoredAt config fields n).length + (keptAt? config fields n).toList.length = 1 :=
      length_ignoredAt_add hn
    rw [filterMap_keptAt?_succ, List.range_succ, List.flatMap_append, List.flatMap_singleton,
      List.length_append, List.length_append]
    omega

/-- **Every field is kept or accounted for, exactly once.** The kept specifications are those of the
kept positions, in order; the reports are those of all positions, in order, each position with its
account; and no field goes without either. -/
theorem select_accounts (config : Config) (fields : List FieldDeclaration) :
    (select config fields).result = (List.range fields.length).filterMap (keptAt? config fields)
      ∧ (select config fields).diagnostics
        = (List.range fields.length).flatMap (reportsAt config fields)
      ∧ (∀ i field, fields[i]? = some field → Accounted config fields i field)
      ∧ (select config fields).result.length + (select config fields).ignoredTexts.length
        = fields.length := by
  have hresult := result_select_eq_filterMap config fields
  have hreports : (select config fields).diagnostics
      = (List.range fields.length).flatMap (reportsAt config fields) := by
    rw [diagnostics_select_eq_flatMap]
    exact List.flatMap_congr fun i _ => (reportsAt_eq config fields i).symm
  refine ⟨hresult, hreports, fun i field hfield => accounted hfield, ?_⟩
  have hignored : (select config fields).ignoredTexts
      = (List.range fields.length).flatMap (ignoredAt config fields) := by
    rw [Reported.ignoredTexts, hreports, List.filterMap_flatMap]
    rfl
  rw [hresult, hignored]
  exact length_kept_add_length_ignored (Nat.le_refl _)

end ColumnSpec

end RecordForge

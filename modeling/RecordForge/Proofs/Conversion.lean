import Mathlib.Data.List.Basic
import RecordForge.Proofs.FloatRange
import RecordForge.Record.Basic

/-!
# Conversion

What a column stores has the shape of its kind, and converting it again changes nothing
(`hasKind_of_convertTo`, `convertTo_of_hasKind`). A value that cannot be stored is refused, with
three exceptions: an infinity has no integer, an integer may be beyond the range of floating-point
numbers, and a refusal cannot be worded if the value has no text. These go through to the caller,
and nothing else does (`settled_iff`).
-/

namespace RecordForge

/-! ## Stored values -/

/-- The shape of what columns of a kind store. -/
def Value.HasKind (v : Value) : StorageKind → Prop
  | .integer => ∃ n, v = .int n
  | .long => ∃ n, v = .int n
  | .text => ∃ s, v = .text s
  | .double => ∃ x, v = .float x

namespace Column

variable {column : String} {kind : StorageKind} {c : Column} {v stored : Value}

/-- What converting gives has the shape of the kind. -/
theorem hasKind_of_convertTo (h : convertTo column kind v = .ok stored) : stored.HasKind kind := by
  have hmap : ∀ {α : Type} {f : α → Value} {x : Except ColumnError α},
      x.map f = .ok stored → ∃ a, stored = f a := by
    intro α f x hx
    cases x with
    | error e => exact nomatch hx
    | ok a => exact ⟨a, (Except.ok.inj hx).symm⟩
  cases kind with
  | integer => exact hmap h
  | long => exact hmap h
  | double => exact hmap h
  | text =>
    rw [convertTo] at h
    split at h
    next => exact ⟨v.plain, (Except.ok.inj h).symm⟩
    next => exact nomatch h

/-- What has the shape of the kind stays as it is. -/
theorem convertTo_of_hasKind (h : v.HasKind kind) : convertTo column kind v = .ok v := by
  cases kind <;> obtain ⟨x, rfl⟩ := h <;> rfl

/-- A value fits a column: the column takes it as it is, it is null only if the column takes null,
and otherwise it has the shape of the column's kind. -/
structure Fits (c : Column) (v : Value) : Prop where
  fixed : c.convert v = .ok v
  null : v = .null → c.allowNull.truth = true
  shape : v ≠ .null → ∃ kind, c.kind = some kind ∧ v.HasKind kind

@[simp] theorem convert_null (c : Column) : c.convert .null = .ok .null := rfl

/-- A value other than null is converted to the kind of the column. -/
theorem convert_of_ne_null (hv : v ≠ .null) :
    c.convert v = match c.kind with
      | some kind => convertTo c.name kind v
      | none => .error (.invalid c.name v) := by
  cases v with
  | null => exact absurd rfl hv
  | _ => rfl

/-- What a column that may be null makes of a value fits it. -/
theorem fits_of_convert (h : c.convert v = .ok stored)
    (hnull : v = .null → c.allowNull.truth = true) : c.Fits stored := by
  by_cases hv : v = .null
  · subst hv
    obtain rfl := Except.ok.inj h
    exact ⟨rfl, hnull, fun hne => absurd rfl hne⟩
  · rw [convert_of_ne_null hv] at h
    cases hkind : c.kind with
    | none =>
      rw [hkind] at h
      exact nomatch h
    | some kind =>
      rw [hkind] at h
      have hshape := hasKind_of_convertTo h
      -- Nothing of the shape of a kind is null, so converting again goes the same way.
      have hne : stored ≠ .null := by
        rintro rfl
        cases kind <;> exact nomatch hshape
      refine ⟨?_, fun heq => absurd heq hne, fun _ => ⟨kind, hkind, hshape⟩⟩
      rw [convert_of_ne_null hne, hkind]
      exact convertTo_of_hasKind hshape

end Column

/-! ## Outcomes -/

/-- A list or a dictionary that has no text. -/
def Value.IsUnshowable (v : Value) : Prop :=
  match v with
  | .list items => (Value.list items).isWritable = false
  | .dict entries => (Value.dict entries).isWritable = false
  | _ => False

/-- The values that a column of a kind neither stores nor refuses: infinities where an integer is
asked for, integers that are too large where a floating-point number is, and values without a text
where the text is asked for or would have to be shown. -/
def Value.Overruns (v : Value) : StorageKind → Prop
  | .text => v.isWritable = false
  | .double => (∃ n, v = .int n ∧ Binary64.overflowBound ≤ n.natAbs) ∨ v.IsUnshowable
  | .integer | .long => (∃ negative, v = .float (.infinite negative)) ∨ v.IsUnshowable

namespace ColumnError

variable {α β : Type}

/-- The outcome is a value, or an error that is expected of a column. -/
def Settled (outcome : Except ColumnError α) : Prop :=
  (∃ a, outcome = .ok a) ∨ ∃ e, outcome = .error e ∧ e.escapes = false

theorem settled_ok (a : α) : Settled (.ok a : Except ColumnError α) := Or.inl ⟨a, rfl⟩

theorem settled_error_iff {e : ColumnError} :
    Settled (.error e : Except ColumnError α) ↔ e.escapes = false := by
  simp [Settled]

theorem settled_map_iff {outcome : Except ColumnError α} {f : α → β} :
    Settled (outcome.map f) ↔ Settled outcome := by
  cases outcome <;> simp [Settled, Except.map]

/-- Refusing a value is expected exactly if the value has a text. -/
theorem settled_invalid_iff {column : String} {v : Value} :
    Settled (.error (.invalid column v) : Except ColumnError α) ↔ v.isWritable = true := by
  simp [settled_error_iff, escapes, isUnwritable, subject?]

end ColumnError

open ColumnError

namespace Column

/-- Converting to an integer is settled unless the value is an infinity, or a container that cannot
be shown. -/
theorem settled_toInteger_iff (column : String) (v : Value) :
    Settled (toInteger column v)
      ↔ ¬ ((∃ negative, v = .float (.infinite negative)) ∨ v.IsUnshowable) := by
  cases v with
  | null => simp [toInteger, settled_invalid_iff, Value.IsUnshowable, Value.isWritable]
  | bool b => simp [toInteger, settled_ok, Value.IsUnshowable]
  | int n => simp [toInteger, settled_ok, Value.IsUnshowable]
  | float x =>
    cases x with
    | infinite s => simp [toInteger, settled_error_iff, escapes]
    | nan =>
      simp [toInteger, Binary64.truncate?, settled_invalid_iff, Value.IsUnshowable,
        Value.isWritable]
    | finite s m e => simp [toInteger, Binary64.truncate?, settled_ok, Value.IsUnshowable]
  | text s =>
    -- A text is always shown, whether a numeral is read from it or not.
    simp only [toInteger, Value.IsUnshowable]
    cases Numeral.integer? s <;> simp [settled_ok, settled_invalid_iff, Value.isWritable]
  | list items => simp [toInteger, settled_invalid_iff, Value.IsUnshowable]
  | dict entries => simp [toInteger, settled_invalid_iff, Value.IsUnshowable]

/-- An integer has a floating-point number unless it is beyond the range. -/
theorem settled_floatOfInt_iff (n : Int) :
    Settled (floatOfInt n) ↔ ¬ Binary64.overflowBound ≤ n.natAbs := by
  rw [← Binary64.ofInt_infinite_iff, floatOfInt]
  cases Binary64.ofInt n with
  | infinite s => simp [settled_error_iff, escapes]
  | nan => simp [settled_ok]
  | finite s m e => simp [settled_ok]

/-- Converting to a floating-point number is settled unless the value is an integer beyond the range,
or a container that cannot be shown. -/
theorem settled_toFloat_iff (column : String) (v : Value) :
    Settled (toFloat column v)
      ↔ ¬ ((∃ n, v = .int n ∧ Binary64.overflowBound ≤ n.natAbs) ∨ v.IsUnshowable) := by
  cases v with
  | null => simp [toFloat, settled_invalid_iff, Value.IsUnshowable, Value.isWritable]
  | bool b => simp [toFloat, settled_ok, Value.IsUnshowable]
  | int n => simp [toFloat, settled_floatOfInt_iff, Value.IsUnshowable]
  | float x => simp [toFloat, settled_ok, Value.IsUnshowable]
  | text s =>
    simp only [toFloat, Value.IsUnshowable]
    cases Numeral.float? s <;> simp [settled_ok, settled_invalid_iff, Value.isWritable]
  | list items => simp [toFloat, settled_invalid_iff, Value.IsUnshowable]
  | dict entries => simp [toFloat, settled_invalid_iff, Value.IsUnshowable]

/-- Converting to a kind is settled unless the value overruns it. -/
theorem settled_convertTo_iff (column : String) (kind : StorageKind) (v : Value) :
    Settled (convertTo column kind v) ↔ ¬ v.Overruns kind := by
  cases kind with
  | integer => rw [convertTo, settled_map_iff, settled_toInteger_iff, Value.Overruns]
  | long => rw [convertTo, settled_map_iff, settled_toInteger_iff, Value.Overruns]
  | double => rw [convertTo, settled_map_iff, settled_toFloat_iff, Value.Overruns]
  | text =>
    rw [convertTo, Value.Overruns]
    cases hwritable : v.isWritable with
    | true => simp [settled_ok]
    | false => simp [settled_invalid_iff, hwritable]

/-- Null overruns no kind. -/
theorem not_overruns_null (kind : StorageKind) : ¬ Value.null.Overruns kind := by
  cases kind <;> simp [Value.Overruns, Value.IsUnshowable, Value.isWritable]

/-- Converting to the kind of a column is settled unless the value overruns it. -/
theorem settled_convert_iff {c : Column} {kind : StorageKind} (hkind : c.kind = some kind)
    (v : Value) : Settled (c.convert v) ↔ ¬ v.Overruns kind := by
  by_cases hv : v = .null
  · subst hv
    simp [settled_ok, not_overruns_null]
  · rw [convert_of_ne_null hv, hkind]
    exact settled_convertTo_iff c.name kind v

end Column

/-! ## Records -/

namespace Record

variable {r : Record} {c : Column} {v : Value}

theorem accept_of_not_contains (hc : r.template.contains c = false) (v : Value) :
    r.accept c v = .error (.undefined c.name r.version) := by
  unfold accept
  rw [hc, if_neg Bool.false_ne_true]

/-- Null is taken as the flag of the column says. -/
theorem accept_null (hc : r.template.contains c = true) :
    r.accept c .null = if c.allowNull.truth then .ok .null else .error (.null c.name) := by
  rw [accept, if_pos hc]

/-- Any other value is taken as the column converts it. -/
theorem accept_of_ne_null (hc : r.template.contains c = true) (hv : v ≠ .null) :
    r.accept c v = c.convert v := by
  unfold accept
  rw [if_pos hc]
  cases v with
  | null => exact absurd rfl hv
  | _ => rfl

/-- A record takes a value exactly if the column is registered, null is not handed to a column that
does not take it, and the column can convert the value; it takes what the column makes of it. -/
theorem accept_eq_ok_iff {stored : Value} :
    r.accept c v = .ok stored
      ↔ r.template.contains c = true ∧ (v = .null → c.allowNull.truth = true)
        ∧ c.convert v = .ok stored := by
  cases hc : r.template.contains c with
  | false => simp [accept_of_not_contains hc]
  | true =>
    by_cases hv : v = .null
    · subst hv
      rw [accept_null hc]
      cases c.allowNull.truth <;> simp
    · simp [accept_of_ne_null hc hv, hv]

/-- Setting a value stores what the record takes under the name of the column. -/
theorem setValue_eq (r : Record) (c : Column) (v : Value) :
    r.setValue c v
      = (r.accept c v).map fun stored =>
          { r with values := putEntry r.values c.name stored } := by
  rw [setValue]
  cases r.accept c v <;> rfl

theorem setValue_eq_ok_iff {r' : Record} :
    r.setValue c v = .ok r'
      ↔ ∃ stored, r.accept c v = .ok stored
          ∧ { r with values := putEntry r.values c.name stored } = r' := by
  rw [setValue_eq]
  cases r.accept c v <;> simp [Except.map]

/-- A value is set exactly if it is taken. -/
theorem settled_setValue_iff : Settled (r.setValue c v) ↔ Settled (r.accept c v) := by
  rw [setValue_eq, settled_map_iff]

/-- **What cannot be stored is refused, unless the value overruns the kind of the column.** For
every column of a kind, every record and every value, converting the value and setting it each end
in success or in a refusal that can be worded, exactly if the value does not overrun the kind of the
column; a column that is not registered is refused whatever the value is, if the version of the
record can be shown. -/
theorem settled_iff (r : Record) {c : Column} {kind : StorageKind} (hkind : c.kind = some kind)
    (v : Value) :
    (Settled (c.convert v) ↔ ¬ v.Overruns kind)
      ∧ (Settled (r.setValue c v)
        ↔ if r.template.contains c then ¬ v.Overruns kind else r.version.isWritable = true) := by
  refine ⟨Column.settled_convert_iff hkind v, ?_⟩
  rw [settled_setValue_iff]
  cases hc : r.template.contains c with
  | false =>
    -- The refusal names the column and shows the version, but not the value.
    rw [accept_of_not_contains hc, settled_error_iff]
    simp [escapes, isUnwritable, subject?]
  | true =>
    by_cases hv : v = .null
    · subst hv
      rw [accept_null hc]
      cases c.allowNull.truth <;>
        simp [settled_ok, settled_error_iff, escapes, isUnwritable, subject?,
          Column.not_overruns_null]
    · simpa [accept_of_ne_null hc hv] using Column.settled_convert_iff hkind v

/-- A column of floating-point numbers. -/
def rate : Column where
  label := "rate"
  kind := some .double
  name := "rate"

/-- A record with one column. -/
def ofColumn (c : Column) : Record :=
  ({ context := .null } : Record).addColumns [c]

/-- An integer that has a floating-point number is stored, or at least refused, and one beyond the
range is neither. -/
theorem settled_rate :
    rate.kind = some .double
      ∧ Settled ((ofColumn rate).setValue rate (.int (Binary64.overflowBound - 1 : Nat)))
      ∧ ¬ Settled (rate.convert (.int Binary64.overflowBound))
      ∧ ¬ Settled ((ofColumn rate).setValue rate (.int Binary64.overflowBound)) := by
  have hpos := Binary64.overflowBound_pos
  have hcontains : (ofColumn rate).template.contains rate = true := rfl
  have hfits : ¬ (Value.int (Binary64.overflowBound - 1 : Nat)).Overruns .double := by
    rintro (⟨n, hn, hle⟩ | hshow)
    · obtain rfl := Value.int.inj hn
      rw [Int.natAbs_natCast] at hle
      omega
    · exact hshow
  have hoverruns : (Value.int Binary64.overflowBound).Overruns .double :=
    Or.inl ⟨_, rfl, Int.natAbs_natCast _ ▸ Nat.le_refl _⟩
  obtain ⟨-, hset⟩ := settled_iff (ofColumn rate) (c := rate) rfl
    (.int (Binary64.overflowBound - 1 : Nat))
  obtain ⟨hconvert', hset'⟩ := settled_iff (ofColumn rate) (c := rate) rfl
    (.int Binary64.overflowBound)
  rw [if_pos hcontains] at hset hset'
  exact ⟨rfl, hset.mpr hfits, fun h => hconvert'.mp h hoverruns, fun h => hset'.mp h hoverruns⟩

/-- A column of integers. -/
def count : Column where
  label := "count"
  kind := some .integer
  name := "count"

/-- An infinity is neither stored in a column of integers nor refused by it. -/
theorem not_settled_infinite :
    count.convert (.float (.infinite false)) = .error .infinite
      ∧ ¬ Settled (count.convert (.float (.infinite false)))
      ∧ ¬ Settled ((ofColumn count).setValue count (.float (.infinite false))) := by
  have hescapes : ¬ Settled (.error .infinite : Except ColumnError Value) := by
    simp [settled_error_iff, escapes]
  refine ⟨rfl, hescapes, ?_⟩
  rw [settled_setValue_iff]
  exact hescapes

end Record

end RecordForge

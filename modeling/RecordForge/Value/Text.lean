import RecordForge.Number.Numeral
import RecordForge.Text.Quoted
import RecordForge.Value.Basic

/-!
# The text of a value

A value has two texts. `shown` writes text in quotes, so that the kind of a value can be read off;
`plain` writes a text as itself and agrees with `shown` on everything else. Inside a list or a
dictionary values are always shown. An integer of very many digits has no text, and neither has a
value that holds one (`isWritable`): for such a value the two are what its texts would be. Whatever
writes values into a text fails on those without one (`writing`).
-/

namespace RecordForge

/-- A value has no text. -/
structure Unwritable where
deriving DecidableEq, Repr, Inhabited

/-- The kind of the error. -/
def Unwritable.kind (_ : Unwritable) : String :=
  "ValueError"

/-- The wording of the error. -/
def Unwritable.message (_ : Unwritable) : String :=
  "Exceeds the limit (" ++ toString Numeral.maxIntegerDigits
    ++ " digits) for integer string conversion; "
    ++ "use sys.set_int_max_str_digits() to increase the limit"

namespace Value

/-- The text of a truth value. -/
def boolText (b : Bool) : String :=
  if b then "True" else "False"

mutual

/-- The text of a value with its texts in quotes. -/
def shown : Value → String
  | .null => "None"
  | .bool b => boolText b
  | .int n => toString n
  | .float x => Numeral.floatText x
  | .text s => Text.quoted s
  | .list items => "[" ++ shownItems items ++ "]"
  | .dict entries => "\x7b" ++ shownEntries entries ++ "\x7d"

/-- The items of a list, separated by commas. -/
def shownItems : List Value → String
  | [] => ""
  | [v] => v.shown
  | v :: rest => v.shown ++ ", " ++ shownItems rest

/-- The entries of a dictionary, separated by commas. -/
def shownEntries : List (String × Value) → String
  | [] => ""
  | [(k, v)] => Text.quoted k ++ ": " ++ v.shown
  | (k, v) :: rest => Text.quoted k ++ ": " ++ v.shown ++ ", " ++ shownEntries rest

end

/-- The text of a value, a text standing for itself. -/
def plain : Value → String
  | .text s => s
  | v => v.shown

@[simp] theorem plain_text (s : String) : (Value.text s).plain = s := rfl

/-! ## Values without a text -/

/-- The number of decimal digits of an integer. -/
def digitCount (n : Int) : Nat :=
  (Nat.toDigits 10 n.natAbs).length

mutual

/-- Whether a value has a text: no integer in it has more digits than a numeral may have. -/
def isWritable : Value → Bool
  | .int n => digitCount n ≤ Numeral.maxIntegerDigits
  | .list items => areWritable items
  | .dict entries => haveWritable entries
  | _ => true

/-- Whether all items of a list have a text. -/
def areWritable : List Value → Bool
  | [] => true
  | v :: rest => v.isWritable && areWritable rest

/-- Whether the contents of all entries have a text. -/
def haveWritable : List (String × Value) → Bool
  | [] => true
  | (_, v) :: rest => v.isWritable && haveWritable rest

end

/-- The text into which values are written, unless one of them has no text. -/
def writing (values : List Value) (text : String) : Except Unwritable String :=
  if areWritable values then .ok text else .error {}

/-- The plain text of a value, if it has one. -/
def write (v : Value) : Except Unwritable String :=
  writing [v] v.plain

theorem areWritable_iff {values : List Value} :
    areWritable values = true ↔ ∀ v ∈ values, v.isWritable = true := by
  induction values with
  | nil => simp [areWritable]
  | cons v rest ih => simp [areWritable, ih]

theorem writing_eq_ok_iff {values : List Value} {text written : String} :
    writing values text = .ok written
      ↔ (∀ v ∈ values, v.isWritable = true) ∧ written = text := by
  rw [writing, ← areWritable_iff]
  split
  next h => exact ⟨fun heq => ⟨h, (Except.ok.inj heq).symm⟩, fun heq => congrArg _ heq.2.symm⟩
  next h => exact ⟨fun heq => (nomatch heq), fun heq => absurd heq.1 h⟩

theorem write_eq_ok_iff {v : Value} {written : String} :
    v.write = .ok written ↔ v.isWritable = true ∧ written = v.plain := by
  rw [write, writing_eq_ok_iff, List.forall_mem_singleton]

theorem digitCount_le_iff {n : Int} {k : Nat} (hk : 0 < k) :
    digitCount n ≤ k ↔ n.natAbs < Numeral.firstBeyond k :=
  Nat.length_toDigits_le_iff (by decide) hk

theorem isWritable_int_iff {n : Int} :
    (Value.int n).isWritable = true ↔ n.natAbs < Numeral.firstBeyond Numeral.maxIntegerDigits :=
  decide_eq_true_iff.trans (digitCount_le_iff (by decide))

@[simp] theorem isWritable_text (s : String) : (Value.text s).isWritable = true := rfl

@[simp] theorem isWritable_bool (b : Bool) : (Value.bool b).isWritable = true := rfl

@[simp] theorem isWritable_null : Value.null.isWritable = true := rfl

@[simp] theorem isWritable_ofText? (s : Option String) : (Value.ofText? s).isWritable = true := by
  cases s <;> rfl

end Value

end RecordForge

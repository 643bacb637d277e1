import RecordForge.Value.Text

/-!
# Messages

A message is a format and the values that its directives take in order: `%s` the plain text of a
value, `%r` its shown text, `%d` its integer part in decimal, `%%` a percent sign. Where the operand
is a dictionary, a directive with a key in brackets, as in `%(key)s`, takes the entry under it. There
are no other directives, and no flags, widths or precisions.

Too few or too many values, an unknown directive, a `%d` of something that is not a finite number, a
key where there is no dictionary or no such entry, and a value without a text are errors. They are
found in the order of the format (`Message.fill`), which is read into pieces first
(`Message.pieces`).
-/

namespace RecordForge

/-- Why a message cannot be formatted. -/
inductive MessageError where
  /-- A directive found no value. -/
  | tooFewValues
  /-- Some values were left over. -/
  | tooManyValues
  /-- The format ends before the letter of a directive. -/
  | unfinished
  /-- The format ends within a key. -/
  | unclosedKey
  /-- A directive has a key, but the operand is no dictionary. -/
  | notKeyed
  /-- The dictionary has no entry under the key of a directive. -/
  | missingKey (key : String)
  /-- There is no such directive; `position` is where its letter stands. -/
  | unknownDirective (letter : Char) (position : Nat)
  /-- An integer directive met a value of a kind that is not numeric. -/
  | notNumeric (kind : String)
  /-- An integer directive met not-a-number. -/
  | notANumber
  /-- An integer directive met an infinity. -/
  | infinity
  /-- A directive met a value that has no text. -/
  | unwritable
deriving DecidableEq, Repr

namespace MessageError

/-- How the letter of an unknown directive is written: itself if it is an ASCII character that
shows, and a question mark otherwise. -/
def letterText (c : Char) : Char :=
  if 31 ≤ c.toNat ∧ c.toNat ≤ 126 then c else '?'

/-- A number in hexadecimal, without zeros in front. -/
def hexText (n : Nat) : String :=
  String.ofList (Nat.toDigits 16 n)

/-- The wording of the error. -/
def text : MessageError → String
  | .tooFewValues => "not enough arguments for format string"
  | .tooManyValues => "not all arguments converted during string formatting"
  | .unfinished => "incomplete format"
  | .unclosedKey => "incomplete format key"
  | .notKeyed => "format requires a mapping"
  | .missingKey key => Text.quoted key
  | .unknownDirective c i =>
    "unsupported format character '" ++ String.ofList [letterText c] ++ "' (0x" ++ hexText c.toNat
      ++ ") at index " ++ toString i
  | .notNumeric kind => "%d format: a real number is required, not " ++ kind
  | .notANumber => "cannot convert float NaN to integer"
  | .infinity => "cannot convert float infinity to integer"
  | .unwritable => Unwritable.message {}

end MessageError

namespace Message

/-! ## Reading a format -/

/-- A piece of a format. -/
inductive Piece where
  /-- A character that stands for itself. -/
  | literal (c : Char)
  /-- A key: the entry under it is the next value. -/
  | entry (key : String)
  /-- The letter of a directive, which takes the next value. -/
  | value (letter : Char) (position : Nat)
  /-- The format ends before the letter of a directive. -/
  | unfinished
  /-- The format ends within a key. -/
  | unclosedKey
deriving DecidableEq, Repr

/-- Where in a format a character stands. -/
inductive Place where
  | text
  /-- Behind the percent sign of a directive. -/
  | opened
  /-- In a key, within `depth` brackets of its own, behind the characters `read`, last one first. -/
  | key (depth : Nat) (read : List Char)
  /-- Behind the key of a directive. -/
  | keyed

/-- The pieces of the rest of a format, which begins at `position`. Brackets within a key belong to
it if they are balanced. -/
def piecesFrom : (position : Nat) → Place → List Char → List Piece
  | _, .text, [] => []
  | _, .opened, [] => [.unfinished]
  | _, .key _ _, [] => [.unclosedKey]
  | _, .keyed, [] => [.unfinished]
  | i, .text, c :: rest =>
    if c = '%' then piecesFrom (i + 1) .opened rest
    else .literal c :: piecesFrom (i + 1) .text rest
  | i, .opened, c :: rest =>
    if c = '%' then .literal c :: piecesFrom (i + 1) .text rest
    else if c = '(' then piecesFrom (i + 1) (.key 0 []) rest
    else .value c i :: piecesFrom (i + 1) .text rest
  | i, .key 0 read, c :: rest =>
    if c = ')' then .entry (String.ofList read.reverse) :: piecesFrom (i + 1) .keyed rest
    else piecesFrom (i + 1) (.key (if c = '(' then 1 else 0) (c :: read)) rest
  | i, .key (depth + 1) read, c :: rest =>
    let depth := if c = ')' then depth else if c = '(' then depth + 2 else depth + 1
    piecesFrom (i + 1) (.key depth (c :: read)) rest
  | i, .keyed, c :: rest => .value c i :: piecesFrom (i + 1) .text rest

/-- The pieces of a format. -/
def pieces (format : String) : List Piece :=
  piecesFrom 0 .text format.toList

/-! ## Filling in values -/

/-- The values that a format may take: those of a list in order, or of a dictionary the one that is
next, at first the dictionary itself. Of a dictionary nothing is ever left over. -/
inductive Operands where
  | values (rest : List Value)
  | keyed (entries : List (String × Value)) (next : Option Value)
deriving Inhabited

namespace Operands

/-- A dictionary as the operand itself. -/
def ofEntries (entries : List (String × Value)) : Operands :=
  .keyed entries (some (.dict entries))

/-- Takes the next value. -/
def next : Operands → Except MessageError (Value × Operands)
  | .values (v :: rest) => .ok (v, .values rest)
  | .values [] => .error .tooFewValues
  | .keyed entries (some v) => .ok (v, .keyed entries none)
  | .keyed _ none => .error .tooFewValues

/-- Makes the entry under a key the next value. -/
def entry (key : String) : Operands → Except MessageError Operands
  | .values _ => .error .notKeyed
  | .keyed entries _ =>
    match contentAt? entries key with
    | some v => .ok (.keyed entries (some v))
    | none => .error (.missingKey key)

/-- The error of a format that ends within a key. -/
def unclosed : Operands → MessageError
  | .values _ => .notKeyed
  | .keyed _ _ => .unclosedKey

/-- Fails if a listed value has not been taken. -/
def finish : Operands → Except MessageError Unit
  | .values (_ :: _) => .error .tooManyValues
  | _ => .ok ()

end Operands

/-- A text of a value, if values of its digits have one. -/
def written (v : Value) (text : String) : Except MessageError String :=
  if v.isWritable then .ok text else .error .unwritable

/-- The text of a value under an integer directive. -/
def integerText : Value → Except MessageError String
  | .bool b => .ok (if b then "1" else "0")
  | .int n => written (.int n) (toString n)
  | .float .nan => .error .notANumber
  | .float (.infinite _) => .error .infinity
  | .float x => .ok (toString (x.truncate?.getD 0))
  | v => .error (.notNumeric v.kindName)

/-- The text that a directive makes of a value. -/
def directiveText (letter : Char) (position : Nat) (v : Value) : Except MessageError String :=
  if letter = 's' then written v v.plain
  else if letter = 'r' then written v v.shown
  else if letter = 'd' then integerText v
  else .error (.unknownDirective letter position)

/-- Fills values into pieces. -/
def fill : List Piece → Operands → Except MessageError String
  | [], ops => do
    ops.finish
    return ""
  | .literal c :: rest, ops => do
    return String.ofList [c] ++ (← fill rest ops)
  | .entry key :: rest, ops => do
    fill rest (← ops.entry key)
  | .value letter position :: rest, ops => do
    let (v, ops) ← ops.next
    let text ← directiveText letter position v
    return text ++ (← fill rest ops)
  | .unfinished :: _, _ => .error .unfinished
  | .unclosedKey :: _, ops => .error ops.unclosed

/-- A format with its values; without any value the format stands for itself. -/
def format (fmt : String) (values : List Value) : Except MessageError String :=
  if values.isEmpty then .ok fmt else fill (pieces fmt) (.values values)

end Message

end RecordForge

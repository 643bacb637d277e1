import RecordForge.Text.Literal

/-!
# Numbers in a source

Where the number at the start of a text ends: digits with single underscores between them, in one of
four bases, with a fraction, an exponent and an imaginary unit in the decimal one. What follows a
number must not look like a part of it, except for the operators that are words.
-/

namespace RecordForge

/-- The kinds of numbers. -/
inductive NumberKind where
  | decimal
  | hexadecimal
  | octal
  | binary
  | imaginary
deriving DecidableEq, Repr

/-- Why the start of a text is no number. -/
inductive NumberFault where
  | malformed (kind : NumberKind)
  /-- A digit is too large for the base. -/
  | badDigit (digit : Char) (kind : NumberKind)
  /-- A decimal number other than zero begins with zeros. -/
  | leadingZeros
deriving DecidableEq, Repr

namespace NumberKind

/-- The word for the kind. -/
def word : NumberKind → String
  | .decimal => "decimal"
  | .hexadecimal => "hexadecimal"
  | .octal => "octal"
  | .binary => "binary"
  | .imaginary => "imaginary"

/-- Whether the character is a digit of the kind. -/
def isDigit : NumberKind → Char → Bool
  | .hexadecimal, c => (Text.hexValue? c).isSome
  | .octal, c => (Text.octalValue? c).isSome
  | .binary, c => c = '0' || c = '1'
  | _, c => c.isDigit

end NumberKind

/-- The wording of the fault. -/
def NumberFault.message : NumberFault → String
  | .malformed kind => "invalid " ++ kind.word ++ " literal"
  | .badDigit digit kind =>
    "invalid digit " ++ Text.quoted (toString digit) ++ " in " ++ kind.word ++ " literal"
  | .leadingZeros =>
    "leading zeros in decimal integer literals are not permitted; "
      ++ "use an 0o prefix for octal integers"

namespace NumberToken

open NumberKind

/-- Whether the character can be a part of a name. -/
def isNameChar (c : Char) : Bool :=
  c.isAlphanum || c = '_' || 0x80 ≤ c.toNat

/-- The words that may follow a number without a blank. -/
def followers : List (List Char) :=
  ["and", "else", "for", "not", "or"].map String.toList

/-- Whether a text begins with a word that may follow a number. Two letters are enough to tell those
that begin with an `i`. -/
def startsFollower : List Char → Bool
  | 'i' :: c :: _ => c = 'f' || c = 'n' || c = 's'
  | cs => followers.contains (cs.takeWhile isNameChar)

/-- Checks what follows a number. -/
def finish (kind : NumberKind) (rest : List Char) : Except NumberFault (List Char) :=
  match rest with
  | [] => .ok rest
  | c :: _ =>
    if isNameChar c && !startsFollower rest then .error (.malformed kind) else .ok rest

/-- Drops digits. An underscore among them must stand before another one. -/
def digits : List Char → Except NumberFault (List Char)
  | '_' :: c :: rest => if c.isDigit then digits rest else .error (.malformed .decimal)
  | ['_'] => .error (.malformed .decimal)
  | c :: rest => if c.isDigit then digits rest else .ok (c :: rest)
  | [] => .ok []

/-- Drops the exponent and the imaginary unit of a decimal number. -/
def exponent : List Char → Except NumberFault (List Char)
  | e :: rest =>
    if e = 'e' ∨ e = 'E' then
      match rest with
      | c :: d :: more =>
        if c = '+' ∨ c = '-' then
          if d.isDigit then digits more >>= unit else .error (.malformed .decimal)
        else if c.isDigit then digits (d :: more) >>= unit
        else finish .decimal (e :: rest)
      | [c] =>
        if c.isDigit then .ok []
        else if c = '+' ∨ c = '-' then .error (.malformed .decimal)
        else finish .decimal (e :: rest)
      | [] => finish .decimal (e :: rest)
    else unit (e :: rest)
  | [] => .ok []
where
  /-- Drops the imaginary unit. -/
  unit : List Char → Except NumberFault (List Char)
    | c :: rest =>
      if c = 'j' ∨ c = 'J' then finish .imaginary rest else finish .decimal (c :: rest)
    | [] => .ok []

/-- Drops what follows the point of a decimal number. -/
def fraction (rest : List Char) : Except NumberFault (List Char) :=
  match rest with
  | c :: more => if c.isDigit then digits more >>= exponent else exponent rest
  | [] => .ok []

/-- Drops what follows the digits before the point. -/
def afterDigits : List Char → Except NumberFault (List Char)
  | '.' :: rest => fraction rest
  | rest => exponent rest

/-- Drops the digits of a number of another base. -/
def baseDigits (kind : NumberKind) : (started : Bool) → List Char → Except NumberFault (List Char)
  | _, '_' :: c :: rest =>
    if kind.isDigit c then baseDigits kind true rest else bad kind c
  | started, c :: rest =>
    if kind.isDigit c then baseDigits kind true rest
    else if !started || c = '_' || c.isDigit then bad kind c
    else finish kind (c :: rest)
  | started, [] => if started then .ok [] else .error (.malformed kind)
where
  /-- The fault of a character that is no digit. -/
  bad (kind : NumberKind) (c : Char) : Except NumberFault (List Char) :=
    .error (if c.isDigit && kind != .hexadecimal then .badDigit c kind else .malformed kind)

/-- Drops zeros. An underscore among them must stand before a digit. -/
def zeros : List Char → Except NumberFault (List Char)
  | '_' :: c :: rest =>
    if c = '0' then zeros rest
    else if c.isDigit then .ok (c :: rest) else .error (.malformed .decimal)
  | ['_'] => .error (.malformed .decimal)
  | '0' :: rest => zeros rest
  | rest => .ok rest

/-- Drops a decimal number after its first zero. -/
def afterZero (rest : List Char) : Except NumberFault (List Char) := do
  match ← zeros rest with
  | c :: more =>
    if c.isDigit then
      match ← digits more with
      | d :: more =>
        if d ∈ ['.', 'e', 'E', 'j', 'J'] then afterDigits (d :: more) else .error .leadingZeros
      | [] => .error .leadingZeros
    else afterDigits (c :: more)
  | [] => return []

/-- The rest of a text after the number whose first digit is given. -/
def rest (first : Char) (cs : List Char) : Except NumberFault (List Char) :=
  if first = '0' then
    match cs with
    | c :: more =>
      if c = 'x' ∨ c = 'X' then baseDigits .hexadecimal false more
      else if c = 'o' ∨ c = 'O' then baseDigits .octal false more
      else if c = 'b' ∨ c = 'B' then baseDigits .binary false more
      else afterZero cs
    | [] => .ok []
  else digits cs >>= afterDigits

end NumberToken

end RecordForge

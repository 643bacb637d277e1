import RecordForge.Number.Numeral
import RecordForge.Source.Fault
import RecordForge.Source.Tree
import RecordForge.Text.CharacterName

/-!
# The values of literals

A number has digits in one of four bases, with underscores between them that count for nothing. A
text stands between single or threefold quotes, behind letters that say how it is to be read: as it
is or with escapes, as characters or as bytes, with values in it or without.
-/

namespace RecordForge.Source

open RecordForge.Text

/-! ## Numbers -/

/-- The number of digits in a base. -/
def digitsIn (base : Nat) (cs : List Char) : Nat :=
  cs.foldl (fun n c => base * n + (hexValue? c).getD 0) 0

/-- The value of a number. -/
def numberOf (s : String) : Except LiteralFault Constant :=
  let cs := s.toList.filter (· ≠ '_')
  match cs with
  | '0' :: b :: digits =>
    if b = 'x' ∨ b = 'X' then .ok (.int (digitsIn 16 digits))
    else if b = 'o' ∨ b = 'O' then .ok (.int (digitsIn 8 digits))
    else if b = 'b' ∨ b = 'B' then .ok (.int (digitsIn 2 digits))
    else decimal cs
  | _ => decimal cs
where
  /-- The value of a decimal number. -/
  decimal (cs : List Char) : Except LiteralFault Constant :=
    if cs.all Char.isDigit then
      if cs.all (· = '0') then .ok (.int 0)
      else if LiteralFault.maxDigits < cs.length then .error (.manyDigits cs.length)
      else .ok (.int (Numeral.digitsValue cs))
    else
      let number (cs : List Char) : Binary64 :=
        (Numeral.decimal? false cs).getD (Binary64.zero false)
      match cs.getLast? with
      | some last =>
        if last = 'j' ∨ last = 'J' then .ok (.imaginary (number cs.dropLast))
        else .ok (.float (number cs))
      | none => .ok (.int 0)

/-! ## Texts -/

/-- The parts of a written text: how it is to be read, and what stands between its quotes. -/
structure Writing where
  /-- Escapes are not read. -/
  raw : Bool
  bytes : Bool
  /-- There are values in the text. -/
  mixed : Bool
  body : List Char
deriving DecidableEq, Repr

/-- The parts of a token that is a text. -/
def Writing.ofToken (s : String) : Writing :=
  let letters := (s.toList.take (stringMarkLength s.toList)).map Char.toLower
  let cs := s.toList.drop letters.length
  let width := match cs with
    | a :: b :: c :: _ :: _ :: _ :: _ => if a = b ∧ b = c then 3 else 1
    | _ => 1
  { raw := letters.contains 'r', bytes := letters.contains 'b', mixed := letters.contains 'f'
    body := (cs.drop width).take (cs.length - 2 * width) }

/-- The characters with an escape of one letter. -/
def letterEscapes : List (Char × Char) :=
  [(backslash, backslash), (singleQuote, singleQuote), (doubleQuote, doubleQuote), ('a', '\x07'),
    ('b', '\x08'), ('f', '\x0c'), ('n', '\n'), ('r', '\r'), ('t', '\t'), ('v', '\x0b')]

/-- The letters of escapes by code, with the number of their digits. -/
def codeEscapes : List (Char × Nat) :=
  [('x', 2), ('u', 4), ('U', 8)]

/-- Reads at most so many digits in a base behind a value: the value, the digits that are missing,
and the rest. -/
def readDigits (base : Nat) : (count value : Nat) → List Char → Nat × Nat × List Char
  | 0, value, cs => (value, 0, cs)
  | count + 1, value, [] => (value, count + 1, [])
  | count + 1, value, c :: cs =>
    match hexValue? c with
    | some d =>
      if d < base then readDigits base count (base * value + d) cs else (value, count + 1, c :: cs)
    | none => (value, count + 1, c :: cs)

/-- The width of a character in a text whose characters outside of ASCII are written as escapes. -/
def escapedWidth (c : Char) : Nat :=
  if c.toNat < 0x80 then 1 else 10

/-- A name in braces at the start of a text, as far as it goes: the name and the rest, if the braces
are closed; its width; and whether it is a name that only is not known. -/
def bracedName (cs : List Char) : Option (String × List Char) × Nat :=
  match cs with
  | '\x7b' :: more =>
    let name := more.takeWhile (· ≠ '\x7d')
    let width := name.foldl (fun n c => n + escapedWidth c) 1
    match more.drop name.length with
    | [] => (none, width)
    | _ :: rest => if name = [] then (none, 1) else (some (String.ofList name, rest), width + 1)
  | _ => (none, 0)

/-- The code point of a number, or the sign for a character that cannot be shown. -/
def charOf (n : Nat) : Char :=
  (charOf? n).getD '\ufffd'

/-- Reads the escapes of a text, in at most so many steps. Positions are counted as if every
character outside of ASCII were written as an escape of ten characters. -/
def readEscapes : (fuel position : Nat) → List Char → Except LiteralFault (List Char)
  | 0, _, _ => .ok []
  | _, _, [] => .ok []
  | fuel + 1, position, '\\' :: c :: rest =>
    if c = '\n' then readEscapes fuel (position + 2) rest
    else
      match letterEscapes.lookup c with
      | some e => (readEscapes fuel (position + 2) rest).map (e :: ·)
      | none =>
        match codeEscapes.lookup c with
        | some count => code fuel position c count rest
        | none =>
          if (octalValue? c).isSome then
            let (value, missing, after) := readDigits 8 3 0 (c :: rest)
            (readEscapes fuel (position + 4 - missing) after).map (charOf value :: ·)
          else if c = 'N' then
            let (named, width) := bracedName rest
            let fault (reason : String) := .error (.badEscape position (position + 1 + width) reason)
            match named with
            | none => fault "malformed \\N character escape"
            | some (name, after) =>
              match codeOfName? name with
              | none => fault "unknown Unicode character name"
              | some n => (readEscapes fuel (position + 2 + width) after).map (charOf n :: ·)
          else if c.toNat < 0x80 then
            (readEscapes fuel (position + 2) rest).map (['\\', c] ++ ·)
          else (readEscapes fuel (position + 6) (c :: rest)).map ('\\' :: ·)
  | fuel + 1, position, c :: rest =>
    (readEscapes fuel (position + escapedWidth c) rest).map (c :: ·)
where
  /-- Reads an escape by code, behind its letter. -/
  code (fuel position : Nat) (letter : Char) (count : Nat) (rest : List Char) :
      Except LiteralFault (List Char) :=
    let (value, missing, after) := readDigits 16 count 0 rest
    let last := position + 1 + (count - missing)
    if missing ≠ 0 then
      .error (.badEscape position last ("truncated \\" ++ String.ofList
        (letter :: List.replicate count 'X') ++ " escape"))
    else if 0x10ffff < value then .error (.badEscape position last "illegal Unicode character")
    else (readEscapes fuel (last + 1) after).map (charOf value :: ·)

/-- Reads the escapes of bytes, in at most so many steps. -/
def readByteEscapes : (fuel position : Nat) → List Char → Except LiteralFault (List UInt8)
  | 0, _, _ => .ok []
  | _, _, [] => .ok []
  | fuel + 1, position, '\\' :: c :: rest =>
    if c = '\n' then readByteEscapes fuel (position + 2) rest
    else
      match letterEscapes.lookup c with
      | some e => (readByteEscapes fuel (position + 2) rest).map (e.toNat.toUInt8 :: ·)
      | none =>
        if c = 'x' then
          match readDigits 16 2 0 rest with
          | (value, 0, after) =>
            (readByteEscapes fuel (position + 4) after).map (value.toUInt8 :: ·)
          | _ => .error (.badByteEscape position)
        else if (octalValue? c).isSome then
          let (value, missing, after) := readDigits 8 3 0 (c :: rest)
          (readByteEscapes fuel (position + 4 - missing) after).map (value.toUInt8 :: ·)
        else
          (readByteEscapes fuel (position + 2) rest).map ([0x5c, c.toNat.toUInt8] ++ ·)
  | fuel + 1, position, c :: rest =>
    (readByteEscapes fuel (position + 1) rest).map (c.toNat.toUInt8 :: ·)

/-- The characters of a text. -/
def textOf (raw : Bool) (body : List Char) : Except LiteralFault String :=
  if raw || !body.contains '\\' then .ok (String.ofList body)
  else String.ofList <$> readEscapes body.length 0 body

/-- The bytes of a text. -/
def bytesOf (raw : Bool) (body : List Char) : Except LiteralFault (List UInt8) :=
  if body.any (0x80 ≤ ·.toNat) then .error .wideBytes
  else if raw || !body.contains '\\' then .ok (body.map (·.toNat.toUInt8))
  else readByteEscapes body.length 0 body

/-! ## Values in texts -/

/-- What stands in front of a value in a text, and what is behind that. -/
structure Lead where
  body : List Char
  rest : List Char
  /-- A doubled brace ends what stands in front; it goes on there. -/
  doubled : Bool := false
deriving DecidableEq, Repr

/-- The text before the next value. In the layout of a value, doubled braces are no text. -/
def leadOf (raw inner : Bool) : (fuel : Nat) → List Char → Except LiteralFault Lead
  | 0, cs => .ok ⟨[], cs, false⟩
  | _, [] => .ok ⟨[], [], false⟩
  | fuel + 1, '\\' :: c :: rest =>
    if raw then prepend ['\\'] (leadOf raw inner fuel (c :: rest))
    else if c = 'N' then
      match rest with
      | '\x7b' :: more =>
        let name := more.takeWhile (· ≠ '\x7d')
        let length := min more.length (name.length + 1)
        prepend ('\\' :: c :: '\x7b' :: more.take length)
          (leadOf raw inner fuel (more.drop length))
      | x :: more => prepend ['\\', c, x] (leadOf raw inner fuel more)
      | [] => .ok ⟨['\\', c], [], false⟩
    else if c = '\x7b' ∨ c = '\x7d' then prepend ['\\'] (brace c rest)
    else prepend ['\\', c] (leadOf raw inner fuel rest)
  | fuel + 1, c :: rest =>
    if c = '\x7b' ∨ c = '\x7d' then brace c rest
    else prepend [c] (leadOf raw inner fuel rest)
where
  /-- Puts characters in front. -/
  prepend (cs : List Char) (lead : Except LiteralFault Lead) : Except LiteralFault Lead :=
    lead.map fun l => { l with body := cs ++ l.body }
  /-- What a brace ends. -/
  brace (c : Char) (rest : List Char) : Except LiteralFault Lead :=
    if inner then .ok ⟨[], c :: rest, false⟩
    else if rest.head? = some c then .ok ⟨[c], rest.drop 1, true⟩
    else if c = '\x7d' then .error .loneBrace
    else .ok ⟨[], c :: rest, false⟩

/-- The marks that end a value in a text. -/
def valueEnds : List Char :=
  ['!', ':', '\x7d', '=', '>', '<']

/-- The text of a value up to the mark that ends it, and the rest from the mark on. A mark within
quotes or brackets ends nothing, and neither does one that is a part of a comparison. -/
def valueText : (quote : Option (Char × Bool)) → (brackets taken : List Char) → List Char →
    Except LiteralFault (List Char × List Char)
  | some _, _, _, [] => .error .openTextInValue
  | none, b :: _, _, [] => .error (.unmatchedInValue b)
  | none, [], _, [] => .error .unclosedValue
  | quote, brackets, taken, c :: rest =>
    if c = '\\' then .error .escapeInValue
    else
      let threefold := match rest with
        | a :: b :: _ => a = c && b = c
        | _ => false
      match quote with
      | some (q, false) => valueText (if c = q then none else quote) brackets (c :: taken) rest
      | some (q, true) =>
        match rest with
        | a :: b :: more =>
          if c = q && threefold then valueText none brackets (b :: a :: c :: taken) more
          else valueText quote brackets (c :: taken) (a :: b :: more)
        | more => valueText quote brackets (c :: taken) more
      | none =>
        if c = singleQuote ∨ c = doubleQuote then
          match rest with
          | a :: b :: more =>
            if threefold then valueText (some (c, true)) brackets (b :: a :: c :: taken) more
            else valueText (some (c, false)) brackets (c :: taken) (a :: b :: more)
          | more => valueText (some (c, false)) brackets (c :: taken) more
        else if (closingOf c).isSome then
          if 200 ≤ brackets.length then .error .bracketsTooDeep
          else valueText none (c :: brackets) (c :: taken) rest
        else if c = '#' then .error .commentInValue
        else
          match brackets with
          | [] =>
            if valueEnds.contains c then
              match rest with
              | '=' :: more =>
                if c ≠ ':' ∧ c ≠ '\x7d' then valueText none [] ('=' :: c :: taken) more
                else .ok (taken.reverse, c :: '=' :: more)
              | more =>
                if c = '>' ∨ c = '<' then valueText none [] (c :: taken) more
                else .ok (taken.reverse, c :: more)
            else if isClosing c then .error (.unmatchedInValue c)
            else valueText none [] (c :: taken) rest
          | b :: outer =>
            if isClosing c then
              if closingOf b = some c then valueText none outer (c :: taken) rest
              else .error (.mismatchedInValue c b)
            else valueText none (b :: outer) (c :: taken) rest

/-- Whether the character means nothing in an expression. -/
def isSpace (c : Char) : Bool :=
  c = ' ' || c = '\t' || c = '\n' || c = '\x0c'

end RecordForge.Source

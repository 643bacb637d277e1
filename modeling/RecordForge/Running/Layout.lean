import RecordForge.Running.Attribute

/-!
# Values within texts

A value is laid out in a text by a short description of its width and form. Which descriptions a
value takes depends on its type, and every other one is refused.
-/

namespace RecordForge.Running

/-- A description of how a value is laid out. -/
structure Layout where
  fill : Char := ' '
  align : Option Char := none
  sign : Option Char := none
  coerced : Bool := false
  alternate : Bool := false
  width : Nat := 0
  group : Option Char := none
  precision : Option Nat := none
  form : Option Char := none

namespace Layout

/-- The number at the start of a description. -/
def number (cs : List Char) : Running (Option Nat × List Char) := do
  let digits := cs.takeWhile Char.isDigit
  let rest := cs.dropWhile Char.isDigit
  if digits.isEmpty then return (none, rest)
  let n := digits.foldl (fun n c => 10 * n + (c.toNat - '0'.toNat)) 0
  if Nat.pow 2 63 ≤ n then wrongValue "Too many decimal digits in format string"
  return (some n, rest)

/-- Whether a character says how a text is aligned. -/
def isAlign (c : Char) : Bool :=
  c = '<' || c = '>' || c = '=' || c = '^'

/-- The filling and the alignment at the start of a description. -/
def alignment : List Char → Layout × List Char
  | c :: a :: rest =>
    if isAlign a then ({ fill := c, align := some a }, rest)
    else if isAlign c then ({ align := some c }, a :: rest)
    else ({}, c :: a :: rest)
  | [c] => if isAlign c then ({ align := some c }, []) else ({}, [c])
  | [] => ({}, [])

/-- Takes a character that is one of the given ones off a description. -/
def takeOne (allowed : List Char) : List Char → Option Char × List Char
  | c :: rest => if c ∈ allowed then (some c, rest) else (none, c :: rest)
  | [] => (none, [])

/-- Reads a description for a value of a type. -/
def ofText (kind spec : String) : Running Layout := do
  let (l, rest) := alignment spec.toList
  let (sign, rest) := takeOne ['+', '-', ' '] rest
  let (coerced, rest) := takeOne ['z'] rest
  let (alternate, rest) := takeOne ['#'] rest
  let zero := rest.head? = some '0' && l.align.isNone
  let l := if zero then { l with fill := '0', align := if kind = "str" then none else some '=' }
    else l
  let (width, rest) ← number rest
  let (comma, rest) := takeOne [','] rest
  let (line, rest) := takeOne ['_'] rest
  if comma.isSome && (line.isSome || rest.head? = some '_') then
    wrongValue "Cannot specify both ',' and '_'."
  let (precision, rest) ← match rest with
    | '.' :: rest => do
      let (n, rest) ← number rest
      if n.isNone then wrongValue "Format specifier missing precision"
      pure (n, rest)
    | rest => pure (none, rest)
  if 1 < rest.length then
    wrongValue ("Invalid format specifier '" ++ spec ++ "' for object of type '" ++ kind ++ "'")
  let l := { l with
    sign, coerced := coerced.isSome, alternate := alternate.isSome, width := width.getD 0
    group := comma.or line, precision, form := rest.head? }
  if let some g := l.group then
    let allowed := ['d', 'e', 'f', 'g', 'E', 'G', '%', 'F'] ++ (if g = '_' then ['b', 'o', 'x', 'X']
      else [])
    if let some f := l.form then
      if f ∉ allowed then
        wrongValue ("Cannot specify '" ++ g.toString ++ "' with '" ++ f.toString ++ "'.")
  return l

/-- A text with the filling of a description. -/
def filled (l : Layout) (usual : Char) (s : String) : String :=
  let missing := l.width - s.length
  let pad := fun n => String.ofList (List.replicate n l.fill)
  match l.align.getD usual with
  | '>' => pad missing ++ s
  | '^' => pad (missing / 2) ++ s ++ pad (missing - missing / 2)
  | '=' =>
    if s.startsWith "-" then "-" ++ pad missing ++ (s.drop 1).toString else pad missing ++ s
  | _ => s ++ pad missing

/-- Refuses the form that a description asks for. -/
def unknownForm {α : Type} (kind : String) (c : Char) : Running α :=
  let told := if '!' ≤ c && c.toNat < 128 then c.toString
    else "\\x" ++ String.ofList (Nat.toDigits 16 c.toNat)
  wrongValue ("Unknown format code '" ++ told ++ "' for object of type '" ++ kind ++ "'")

/-- Lays out a text. -/
def text (l : Layout) (kind s : String) : Running Datum := do
  if let some g := l.group then
    if l.form.isNone then wrongValue ("Cannot specify '" ++ g.toString ++ "' with 's'.")
  if let some c := l.form then
    if c ≠ 's' then unknownForm kind c
  match l.sign with
  | some ' ' => wrongValue "Space not allowed in string format specifier"
  | some _ => wrongValue "Sign not allowed in string format specifier"
  | none => pure ()
  if l.coerced then
    wrongValue "Negative zero coercion (z) not allowed in string format specifier"
  if l.alternate then wrongValue "Alternate form (#) not allowed in string format specifier"
  if l.align = some '=' then wrongValue "'=' alignment not allowed in string format specifier"
  let s := match l.precision with
    | some n => (s.take n).toString
    | none => s
  return .text (l.filled '<' s)

/-- The digits of an integer in a base. -/
def based (base : Nat) (n : Int) : String :=
  (if n < 0 then "-" else "") ++ String.ofList (Nat.toDigits base n.natAbs)

/-- Lays out an integer. -/
def integer (l : Layout) (kind : String) (n : Int) : Running Datum := do
  let form := l.form.getD 'd'
  if form ∈ ['e', 'E', 'f', 'F', 'g', 'G', '%'] then return .unknown
  if form ∉ ['b', 'c', 'd', 'o', 'x', 'X', 'n'] then unknownForm kind form
  if l.precision.isSome then wrongValue "Precision not allowed in integer format specifier"
  if l.coerced then
    wrongValue "Negative zero coercion (z) not allowed in integer format specifier"
  if form = 'c' then
    if l.sign.isSome then wrongValue "Sign not allowed with integer format specifier 'c'"
    if l.alternate then
      wrongValue "Alternate form (#) not allowed with integer format specifier 'c'"
    if n < 0 ∨ 0x110000 ≤ n then fail "OverflowError" "%c arg not in range(0x110000)"
    return .text (l.filled '<' (Char.ofNat n.toNat).toString)
  if l.group.isSome || l.sign.isSome || l.alternate then return .unknown
  match form with
  | 'b' => return .text (l.filled '>' (based 2 n))
  | 'o' => return .text (l.filled '>' (based 8 n))
  | 'x' => return .text (l.filled '>' (based 16 n))
  | 'X' => return .text (l.filled '>' (based 16 n).toUpper)
  | _ => return .text (l.filled '>' (← integerText n))

/-- Lays out a number that is no integer. -/
def real (l : Layout) (kind : String) : Running Datum := do
  if let some c := l.form then
    if c ∉ ['e', 'E', 'f', 'F', 'g', 'G', 'n', '%'] then unknownForm kind c
  return .unknown

end Layout

/-- The text of a value by a description. -/
def layOut (d : Datum) (spec : String) : Running Datum := do
  if spec = "" then
    if d == .unknown then return .unknown
    return .text (← plain d)
  let kind ← kindOf d
  match d, integral? d with
  | .text s, _ => (← Layout.ofText kind spec).text kind s
  | _, some n => (← Layout.ofText kind spec).integer kind n
  | .float _, _ | .complex, _ => (← Layout.ofText kind spec).real kind
  | .unknown, _ => return .unknown
  | _, _ =>
    if ← isOpen d then return .unknown
    wrongType ("unsupported format string passed to " ++ kind ++ ".__format__")

/-! ## Marks in a text -/

/-- What is left to be put into a text. -/
structure Filling where
  /-- The values that are put in one after the other. -/
  rest : List Datum
  /-- The value that names are looked up in. -/
  source : Datum
  /-- Whether the only value is looked up in and need not be used. -/
  keyed : Bool

/-- The next value of a filling. -/
def Filling.next (f : Filling) : Running (Datum × Filling) :=
  match f.rest with
  | d :: rest => return (d, { f with rest })
  | [] => wrongType "not enough arguments for format string"

/-- The text of a value by the letter of a mark. -/
def markText (letter : Char) (position : Nat) (d : Datum) : Running String := do
  let kind ← kindOf d
  let number := isReal d || d == .unknown
  match letter with
  | 's' => plain d
  | 'r' | 'a' => shown d
  | 'd' | 'i' | 'u' =>
    if !number then
      wrongType ("%" ++ letter.toString ++ " format: a real number is required, not " ++ kind)
    match d with
    | .float x => return (x.truncate?.map toString).getD ""
    | d =>
      match integral? d with
      | some n => integerText n
      | none => return ""
  | 'x' | 'X' | 'o' =>
    match integral? d with
    | some n => return Layout.based (if letter = 'o' then 8 else 16) n
    | none =>
      if d == .unknown then return ""
      wrongType ("%" ++ letter.toString ++ " format: an integer is required, not " ++ kind)
  | 'e' | 'E' | 'f' | 'F' | 'g' | 'G' =>
    if !number then wrongType ("must be real number, not " ++ kind)
    return ""
  | 'c' =>
    match d, integral? d with
    | .text s, _ => if s.length = 1 then return s else wrongType "%c requires int or char"
    | _, some n =>
      if n < 0 ∨ 0x110000 ≤ n then fail "OverflowError" "%c arg not in range(0x110000)"
      return (Char.ofNat n.toNat).toString
    | _, none => wrongType "%c requires int or char"
  | c =>
    let told := if ' ' ≤ c && c.toNat < 127 then c else '?'
    wrongValue ("unsupported format character '" ++ told.toString ++ "' (0x"
      ++ String.ofList (Nat.toDigits 16 c.toNat) ++ ") at index " ++ toString position)

/-- A number in a mark, or a star for the next value. -/
def markNumber (f : Filling) : List Char → Running (Filling × List Char)
  | '*' :: rest => do
    let (d, f) ← f.next
    if (integral? d).isNone then wrongType "* wants int"
    return (f, rest)
  | cs => return (f, cs.dropWhile Char.isDigit)

/-- Puts values into the marks of a text. -/
def fillFrom (size : Nat) : (steps : Nat) → Filling → List Char → Running (List String)
  | 0, _, _ => return []
  | _, f, [] => do
    if f.rest.isEmpty || f.keyed then return []
    wrongType "not all arguments converted during string formatting"
  | n + 1, f, '%' :: cs => do
    let ((f, cs), named) ← match cs with
      | '(' :: rest => do
        let key := rest.takeWhile (· ≠ ')')
        match rest.dropWhile (· ≠ ')') with
        | [] => wrongValue "incomplete format key"
        | _ :: after =>
          match f.source with
          | .object _ =>
            pure (({ f with rest := [← itemAt f.source (.text (String.ofList key))] }, after), true)
          | .unknown => pure (({ f with rest := [.unknown] }, after), true)
          | _ => wrongType "format requires a mapping"
      | cs => pure ((f, cs), false)
    let cs := cs.dropWhile fun c => c ∈ ['-', '+', ' ', '#', '0']
    let (f, cs) ← markNumber f cs
    let (f, cs) ← match cs with
      | '.' :: cs => markNumber f cs
      | cs => pure (f, cs)
    let cs := match cs with
      | c :: rest => if c ∈ ['h', 'l', 'L'] then rest else c :: rest
      | [] => []
    match cs with
    | [] => wrongValue "incomplete format"
    | '%' :: rest => return "%" :: (← fillFrom size n f rest)
    | letter :: rest =>
      let (d, f) ← f.next
      let text ← markText letter (size - rest.length - 1) d
      let f := if named then { f with rest := [] } else f
      return text :: (← fillFrom size n f rest)
  | n + 1, f, c :: cs => return c.toString :: (← fillFrom size n f cs)

/-- Puts a value, or the items of a tuple, into the marks of a text. -/
def fill (s : String) (d : Datum) : Running Datum := do
  let keyed ← match d with
    | .object place => do
      match ← thing place with
      | .dict _ | .list _ | .frame _ => pure true
      | _ => pure false
    | .bytes _ | .range .. | .unknown => pure true
    | _ => pure false
  let rest := match d with
    | .tuple items => items
    | d => [d]
  return .text (String.join (← fillFrom s.length (s.length + 1) ⟨rest, d, keyed⟩ s.toList))

end RecordForge.Running

import RecordForge.Running.Layout
import RecordForge.Text.DecimalDigit

/-!
# Values within the braces of a text

A text can hold fields in braces, which values are put into: a field names a value, by its position
or by a name, and goes on to its attributes and items; it can say how the value is shown and how it
is laid out, and that description can hold fields in turn. Fields without a name take the positions
one after the other.
-/

namespace RecordForge.Running

/-- A field within a text. -/
structure Placeholder where
  name : List Char := []
  /-- How the value is shown. -/
  conversion : Option Char := none
  spec : List Char := []
  /-- Whether the description holds fields. -/
  nested : Bool := false

/-- How the fields of a text choose positions. -/
inductive Numbering where
  | open
  | automatic (next : Nat)
  | given

namespace Placeholder

/-! ## Reading -/

/-- The name of a field, with the sign behind it, if there is one, and the rest. An index can hold
any sign. -/
def readName (inIndex : Bool) (name : List Char) :
    List Char → Running (List Char × Option Char × List Char)
  | [] => return (name.reverse, none, [])
  | c :: rest =>
    if inIndex then readName (c ≠ ']') (c :: name) rest
    else if c ∈ ['\x7d', ':', '!'] then return (name.reverse, some c, rest)
    else if c = '\x7b' then wrongValue "unexpected '\x7b' in field name"
    else readName (c = '[') (c :: name) rest

/-- The description of a field up to the brace that closes it, and the rest. -/
def readSpec : (depth : Nat) → List Char → List Char → Running (List Char × List Char)
  | _, _, [] => wrongValue "unmatched '\x7b' in format spec"
  | depth, spec, '\x7b' :: rest => readSpec (depth + 1) ('\x7b' :: spec) rest
  | 0, spec, '\x7d' :: rest => return (spec.reverse, rest)
  | depth + 1, spec, '\x7d' :: rest => readSpec depth ('\x7d' :: spec) rest
  | depth, spec, c :: rest => readSpec depth (c :: spec) rest

/-- Reads the field behind an opening brace. -/
def read (cs : List Char) : Running (Placeholder × List Char) := do
  let withSpec (name : List Char) (conversion : Option Char) (cs : List Char) := do
    let (spec, rest) ← readSpec 0 [] cs
    return ({ name, conversion, spec, nested := '\x7b' ∈ spec : Placeholder }, rest)
  match ← readName false [] cs with
  | (name, some '\x7d', rest) => return ({ name }, rest)
  | (name, some ':', rest) => withSpec name none rest
  | (name, some _, rest) =>
    match rest with
    | [] => wrongValue "end of string while looking for conversion specifier"
    | [_] => wrongValue "unmatched '\x7b' in format spec"
    | c :: '\x7d' :: rest => return ({ name, conversion := some c }, rest)
    | c :: ':' :: rest => withSpec name (some c) rest
    | _ => wrongValue "expected ':' after conversion specifier"
  | (_, none, _) => wrongValue "expected '\x7d' before end of string"

/-! ## Values -/

/-- The position that a name stands for, if it is one. -/
def position? (cs : List Char) : Option Nat :=
  if cs.isEmpty then none
  else cs.foldlM (fun n c => (Text.decimalDigit? c).map (10 * n + ·)) 0

/-- Whether a character ends a part of a name. -/
def endsPart (c : Char) : Bool :=
  c = '.' || c = '['

/-- Goes on to an attribute or an item of a value. -/
def follow : (steps : Nat) → Datum → List Char → Running Datum
  | 0, d, _ | _, d, [] => return d
  | n + 1, d, '.' :: rest => do
    let part := rest.takeWhile (!endsPart ·)
    if part.isEmpty then wrongValue "Empty attribute in format string"
    follow n (← attributeOf d (String.ofList part)) (rest.drop part.length)
  | n + 1, d, '[' :: rest => do
    let part := rest.takeWhile (· ≠ ']')
    match rest.drop part.length with
    | [] => wrongValue "Missing ']' in format string"
    | _ :: after =>
      if part.isEmpty then wrongValue "Empty attribute in format string"
      let index := match position? part with
        | some i => Datum.int i
        | none => Datum.text (String.ofList part)
      follow n (← itemAt d index) after
  | _, _, _ => wrongValue "Only '.' or '[' may follow ']' in format field specifier"

/-- The value that a field names, and how the fields behind it choose positions. -/
def value (arguments : List Datum) (keyed : String → Running Datum) (numbering : Numbering)
    (name : List Char) : Running (Datum × Numbering) := do
  let first := name.takeWhile (!endsPart ·)
  let rest := name.drop first.length
  let number := position? first
  if !first.isEmpty && number.isNone then
    let d ← keyed (String.ofList first)
    return (← follow (rest.length + 1) d rest, numbering)
  let (i, numbering) ← match numbering, number with
    | .open, none => pure (0, Numbering.automatic 1)
    | .automatic i, none => pure (i, Numbering.automatic (i + 1))
    | .given, none =>
      wrongValue ("cannot switch from manual field specification to automatic field numbering")
    | .automatic _, some _ =>
      wrongValue ("cannot switch from automatic field numbering to manual field specification")
    | _, some i => pure (i, Numbering.given)
  match arguments[i]? with
  | some d => return (← follow (rest.length + 1) d rest, numbering)
  | none =>
    fail "IndexError"
      ("Replacement index " ++ toString i ++ " out of range for positional args tuple")

/-- A value as a conversion shows it. -/
def convert (conversion : Option Char) (d : Datum) : Running Datum := do
  match conversion with
  | none => return d
  | some 's' => if d == .unknown then return .unknown else return .text (← plain d)
  | some 'r' | some 'a' => if d == .unknown then return .unknown else return .text (← shown d)
  | some c =>
    let told := if ' ' < c && c.toNat < 127 then c.toString
      else "\\x" ++ String.ofList (Nat.toDigits 16 c.toNat)
    wrongValue ("Unknown conversion specifier " ++ told)

end Placeholder

/-- Puts values into the fields of a text; `none` stands for a text that is not known. -/
def putInto (arguments : List Datum) (keyed : String → Running Datum) :
    (steps : Nat) → (levels : Nat) → Numbering → List Char →
      Running (Option (List Char) × Numbering)
  | 0, _, numbering, _ => return (some [], numbering)
  | _, 0, _, _ => wrongValue "Max string recursion exceeded"
  | _, _, numbering, [] => return (some [], numbering)
  | n + 1, levels + 1, numbering, c :: cs => do
    let go (numbering : Numbering) := putInto arguments keyed n (levels + 1) numbering
    let literal (cs : List Char) := do
      let (rest, numbering) ← go numbering cs
      return (rest.map (c :: ·), numbering)
    if c = '\x7d' then
      match cs with
      | '\x7d' :: cs => literal cs
      | _ => wrongValue "Single '\x7d' encountered in format string"
    else if c = '\x7b' then
      match cs with
      | [] => wrongValue "Single '\x7b' encountered in format string"
      | '\x7b' :: cs => literal cs
      | cs =>
        let (field, cs) ← Placeholder.read cs
        let (d, numbering) ← Placeholder.value arguments keyed numbering field.name
        let d ← Placeholder.convert field.conversion d
        let (spec, numbering) ←
          if field.nested then putInto arguments keyed n levels numbering field.spec
          else pure (some field.spec, numbering)
        let text ← match spec with
          | some spec => layOut d (String.ofList spec)
          | none => pure .unknown
        let (rest, numbering) ← go numbering cs
        return match text, rest with
          | .text s, some rest => (some (s.toList ++ rest), numbering)
          | _, _ => (none, numbering)
    else literal cs

/-- A text with values in its fields. -/
def putValues (s : String) (arguments : List Datum) (keyed : String → Running Datum) :
    Running Datum := do
  match ← putInto arguments keyed (s.length + 1) 2 .open s.toList with
  | (some cs, _) => return .text (String.ofList cs)
  | (none, _) => return .unknown

end RecordForge.Running

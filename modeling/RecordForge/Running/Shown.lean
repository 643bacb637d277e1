import RecordForge.Number.Numeral
import RecordForge.Running.Kind
import RecordForge.Text.Quoted
import RecordForge.Value.Text

/-!
# Values as texts

The text that shows a value as it would be written, and the plain text of a value. Things can hold
themselves, so both are worked out to a certain depth.
-/

namespace RecordForge.Running

/-- The text between the quotes of bytes. -/
def quotedByte (q : Char) (code : UInt8) : List Char :=
  let c := Char.ofNat code.toNat
  if code.toNat < 127 then Text.quotedChar q c
  else if code.toNat = 127 then "\\x7f".toList
  else Text.backslash :: 'x' :: Text.hexDigits 2 code.toNat

/-- Bytes as they are written. -/
def bytesText (codes : List UInt8) : String :=
  let q := Text.quoteFor (codes.map fun code => Char.ofNat code.toNat)
  String.ofList ('b' :: q :: codes.flatMap (quotedByte q) ++ [q])

/-- An object without a text of its own. -/
def objectText (kind : String) : String :=
  "<" ++ kind ++ " object>"

/-- Items with commas between them. -/
def listed (items : List String) : String :=
  ", ".intercalate items

/-- The text of an integer, if it has one. -/
def integerText (n : Int) : Running String :=
  match (Value.int n).write with
  | .ok text => return text
  | .error e => fail e.kind e.message

/-- The depth to which things are shown. -/
def shownDepth : Nat := 50

/-- The text that shows a value. -/
def shownWithin : (depth : Nat) → Datum → Running String
  | 0, _ => return "..."
  | n + 1, d => do
    let all := fun (items : List Datum) => items.mapM (shownWithin n)
    match d with
    | .none => return "None"
    | .ellipsis => return "Ellipsis"
    | .notImplemented => return "NotImplemented"
    | .bool b => return if b then "True" else "False"
    | .int i => integerText i
    | .float x => return Numeral.floatText x
    | .complex => return "(0+0j)"
    | .text s => return Text.quoted s
    | .bytes codes => return bytesText codes
    | .tuple items =>
      match ← all items with
      | [item] => return "(" ++ item ++ ",)"
      | items => return "(" ++ listed items ++ ")"
    | .range first last step =>
      let bounds := if step = 1 then [first, last] else [first, last, step]
      return "range(" ++ listed (← bounds.mapM integerText) ++ ")"
    | .slice first last step => return "slice(" ++ listed (← all [first, last, step]) ++ ")"
    | .builtin name => return "<built-in function " ++ name ++ ">"
    | .type name => return "<class '" ++ name ++ "'>"
    | .operation .. | .bound .. => return objectText "method"
    | .module path => return "<module " ++ Text.quoted path ++ ">"
    | .error type arguments => return type ++ "(" ++ listed (← all arguments) ++ ")"
    | .unknown => return objectText rootType
    | .object place =>
      match ← thing place with
      | .list items => return "[" ++ listed (← all items) ++ "]"
      | .set [] frozen => return if frozen then "frozenset()" else "set()"
      | .set items frozen =>
        let text := "\x7b" ++ listed (← all items) ++ "\x7d"
        return if frozen then "frozenset(" ++ text ++ ")" else text
      | .dict entries =>
        let shown ← entries.mapM fun (key, value) => do
          return (← shownWithin n key) ++ ": " ++ (← shownWithin n value)
        return "\x7b" ++ listed shown ++ "\x7d"
      | .type t => return "<class '" ++ t.name ++ "'>"
      | .made type _ arguments =>
        if ← isError d then
          return (← nameOfType type) ++ "(" ++ listed (← all arguments) ++ ")"
        return objectText (← kindOf d)
      | _ => return objectText (← kindOf d)

/-- The text that shows a value. -/
def shown (d : Datum) : Running String :=
  shownWithin shownDepth d

/-- The arguments of an error. -/
def argumentsOf : Datum → Running (List Datum)
  | .error _ arguments => return arguments
  | .object place => do
    match ← thing place with
    | .made _ _ arguments => return arguments
    | _ => return []
  | _ => return []

/-- The plain text of a value. An error is told by its arguments. -/
def plainWithin : (depth : Nat) → Datum → Running String
  | 0, _ => return "..."
  | _, .text s => return s
  | n + 1, d => do
    if !(← isError d) then return ← shown d
    let told : Datum → Datum → Running String := fun code reason => do
      return "[Errno " ++ (← plainWithin n code) ++ "] " ++ (← plainWithin n reason)
    let fromSystem ← isOfType d "OSError"
    match ← argumentsOf d with
    | [] => return ""
    | [argument] =>
      if ← isOfType d "KeyError" then shown argument else plainWithin n argument
    | [code, reason] => if fromSystem then told code reason else shown (.tuple [code, reason])
    | [code, reason, file] =>
      if fromSystem then return (← told code reason) ++ ": " ++ (← shown file)
      shown (.tuple [code, reason, file])
    | arguments => shown (.tuple arguments)

/-- The plain text of a value. -/
def plain (d : Datum) : Running String :=
  plainWithin shownDepth d

end RecordForge.Running

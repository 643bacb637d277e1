import RecordForge.Arity
import RecordForge.Record.Basic
import RecordForge.Source.Fault

/-!
# Errors of generated classes

Why a class cannot be loaded, why no object of it can be made, and why a call on an object fails.
-/

namespace RecordForge

/-- Why a class cannot be loaded or a call on it fails. -/
inductive RunError where
  | source (e : Source.SourceError)
  /-- The run of the source ended with an error of a kind, in these words. -/
  | raised (kind wording : String)
  | column (e : ColumnError)
  | unknownVersion (e : UnknownVersion)
  /-- A value that is to be shown has no text. -/
  | unwritable (e : Unwritable)
  /-- No value is bound to the name. -/
  | unbound (name : String)
  /-- A value of the kind `owner` has no such attribute. -/
  | noAttribute (owner name : String)
  /-- A class has no such attribute. -/
  | noClassAttribute (owner name : String)
  /-- A method was called with too many or too few arguments. -/
  | arity (e : ArityError)
  /-- A value that is no sequence was given for one. -/
  | notIterable (kind : String)
  /-- A class makes objects of itself without end. -/
  | endless
  /-- A value is not one that can be called. -/
  | notFunction (kind : String)
  /-- The method is not one that an object of the class can be asked for. -/
  | notCallable (method : String)
deriving Inhabited

namespace RunError

/-- The longest part of a text that fits into a number of bytes. A character that fits in part is
shown by the replacement character. -/
def clip : Nat → List Char → List Char
  | _, [] => []
  | bytes, c :: rest =>
    if c.utf8Size ≤ bytes then c :: clip (bytes - c.utf8Size) rest
    else if bytes = 0 then [] else ['\ufffd']

/-- A text between quotes, written as it is. -/
def plainQuoted (cs : List Char) : String :=
  String.ofList (Text.singleQuote :: cs ++ [Text.singleQuote])

/-- The name of a kind of values, as an error about an attribute shows it. -/
def owner (name : String) : String :=
  plainQuoted (clip 50 name.toList)

/-- The wording of the error. -/
def message : RunError → String
  | .source e => e.message
  | .raised _ wording => wording
  | .column e => e.message
  | .unknownVersion e => e.message
  | .unwritable e => e.message
  | .unbound name => "name " ++ Text.quoted name ++ " is not defined"
  | .noAttribute kind name =>
    owner kind ++ " object has no attribute " ++ plainQuoted name.toList
  | .noClassAttribute kind name =>
    "type object " ++ owner kind ++ " has no attribute " ++ plainQuoted name.toList
  | .arity e => e.message
  | .notIterable kind => Text.quoted kind ++ " object is not iterable"
  | .endless => "maximum recursion depth exceeded"
  | .notFunction kind => Text.quoted kind ++ " object is not callable"
  | .notCallable method => method ++ "() cannot be called"

end RunError

end RecordForge

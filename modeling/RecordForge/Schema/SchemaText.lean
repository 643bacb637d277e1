import RecordForge.Number.Numeral
import RecordForge.Schema.Describe
import RecordForge.Text.Cut

/-!
# The text of schema modules

A module can be written down line by line. A line `class NAME` begins a class, with `latest=VERSION`
behind it if the class has a latest version of its own. Each line `IDENTIFIER TYPE` after it is a
field that declares a column; `name=`, `allow_null=`, `primary=` and `version=` behind it make up
the column's annotation. Blank lines and lines that begin with a number sign are passed over.
-/

namespace RecordForge.SchemaText

/-- Why a text is not a schema module. -/
inductive TextError where
  /-- A field comes before any class. -/
  | noClass (line : Nat)
  /-- A class without a name or a field without a type. -/
  | incomplete (line : Nat)
  /-- A setting that there is none of. -/
  | unknownSetting (line : Nat) (setting : String)
deriving DecidableEq, Repr, Inhabited

/-- The wording of the error. -/
def TextError.message : TextError → String
  | .noClass line => "line " ++ toString line ++ ": field without a class"
  | .incomplete line => "line " ++ toString line ++ ": name or type is missing"
  | .unknownSetting line setting =>
    "line " ++ toString line ++ ": unknown setting " ++ Text.quoted setting

/-- A class as it is written: its name, its mark and its fields. -/
structure ClassText where
  name : String
  mark : ClassMark := .version (.int 1)
  hints : List (String × Hint) := []
deriving Inhabited

/-- The words of a line. -/
def words (line : String) : List String :=
  (Text.parts ' ' (line.map fun c => if c = '\t' ∨ c = '\r' then ' ' else c)).filter (· ≠ "")

/-- The value of a setting: an integer if it reads as one, and a text otherwise. -/
def settingValue (s : String) : Value :=
  match Numeral.integer? s with
  | some n => .int n
  | none => .text s

/-- A setting's name and value. -/
def splitSetting (word : String) : String × String :=
  let cs := word.toList
  (String.ofList (cs.takeWhile (· ≠ '=')), String.ofList ((cs.dropWhile (· ≠ '=')).drop 1))

/-- Applies the settings of a column. -/
def columnOf (line : Nat) (c : ColumnAnnotation) : List String → Except TextError ColumnAnnotation
  | [] => .ok c
  | word :: rest =>
    match splitSetting word with
    | ("name", v) => columnOf line { c with name := some v } rest
    | ("allow_null", v) => columnOf line { c with allowNull := .text v } rest
    | ("primary", v) => columnOf line { c with primary := .text v } rest
    | ("version", v) => columnOf line { c with version := settingValue v } rest
    | _ => .error (.unknownSetting line word)

/-- Applies the settings of a class. -/
def markOf (line : Nat) (m : ClassMark) : List String → Except TextError ClassMark
  | [] => .ok m
  | word :: rest =>
    match splitSetting word with
    | ("latest", v) => markOf line (.version (settingValue v)) rest
    | _ => .error (.unknownSetting line word)

/-- The hint of a field: a type that is only known by its name, with the column as a note. -/
def fieldHint (type : String) (c : ColumnAnnotation) : Hint :=
  .annotated (Hint.builtin type) [.column c]

/-- Adds a line to the classes so far, the last of which comes first. -/
def addLine (line : Nat) (classes : List ClassText) (ws : List String) :
    Except TextError (List ClassText) :=
  match ws, classes with
  | [], _ => .ok classes
  | "class" :: name :: settings, _ => do
    return { name, mark := ← markOf line (.version (.int 1)) settings } :: classes
  | ["class"], _ => .error (.incomplete line)
  | _, [] => .error (.noClass line)
  | identifier :: type :: settings, c :: rest => do
    let column ← columnOf line {} settings
    return { c with hints := c.hints ++ [(identifier, fieldHint type column)] } :: rest
  | [_], _ => .error (.incomplete line)

/-- Reads lines, the first of which has the given number. -/
def readLines (line : Nat) (classes : List ClassText) :
    List String → Except TextError (List ClassText)
  | [] => .ok classes.reverse
  | l :: rest => do
    let ws := words l
    let classes ← if (ws.head?.getD "").toList.head? = some '#' then .ok classes
      else addLine line classes ws
    readLines (line + 1) classes rest

/-- The classes of a module, with serial numbers from the given one on. -/
def classesOf (module : String) (serial : Nat) : List ClassText → List SchemaClass
  | [] => []
  | c :: rest =>
    let layer : Layer :=
      { serial, name := c.name, module, hints := putEntries [] c.hints, mark := c.mark }
    ⟨layer, []⟩ :: classesOf module (serial + 1) rest

/-- The module that a text denotes. -/
def readModule (name text : String) : Except TextError SchemaModule := do
  let classes ← readLines 1 [] (Text.parts '\n' text)
  return { name
           bindings := putEntries [] ((classesOf name 1 classes).map fun c =>
             (c.own.name, Item.schema c)) }

/-- The file that holds a module. -/
def moduleFile (name : String) : String :=
  Text.joined '/' (Text.parts '.' name) ++ ".schema"

end RecordForge.SchemaText

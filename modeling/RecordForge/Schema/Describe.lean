import RecordForge.Schema.Class

/-!
# Reading declarations off classes

A class declares a column for every field whose hint carries a column annotation. The fields of a
model class are those of its table; all others are read off the resolved hints, of which a record
class keeps the ones in its own table. A hint that fails to resolve makes the class unreadable, and
so does a type name that cannot be written.
-/

namespace RecordForge

/-- Something that a class may be generated for, or that is offered in place of one. -/
inductive Item where
  | schema (c : SchemaClass)
  | declaration (d : TypeDeclaration)
  | value (v : Value)
  /-- An object of a class. -/
  | object (c : SchemaClass)
deriving Inhabited

/-- The text of an item. -/
def Item.shown : Item → String
  | .schema c => c.shown
  | .declaration d => d.shown
  | .value v => v.shown
  | .object c => c.objectShown

/-- The values that the text of an item shows. -/
def Item.values : Item → List Value
  | .schema _ => []
  | .declaration d => d.values
  | .value v => [v]
  | .object _ => []

/-- The plain text of an item, a text standing for itself. -/
def Item.plain : Item → String
  | .value v => v.plain
  | .object c => c.objectPlain
  | item => item.shown

/-- Why no declaration can be read off an item. -/
inductive ReadError where
  /-- The item with this text is not a class. -/
  | notClass (shown : String)
  /-- The hints of a class do not resolve. -/
  | unresolved (className : String) (failure : HintFailure)
  /-- The name of a type or an item that is not a class has no text. -/
  | unwritable (e : Unwritable)
deriving DecidableEq, Repr, Inhabited

namespace ReadError

/-- The wording of the error. -/
def message : ReadError → String
  | .notClass shown => shown ++ " is not a class"
  | .unresolved className failure =>
    if failure.isExpected then
      "Cannot resolve type hints of " ++ className ++ ": " ++ failure.message
    else failure.message
  | .unwritable e => e.message

/-- Whether the error is of a kind that is not expected of a class and goes through to the
caller. -/
def escapes : ReadError → Bool
  | .unresolved _ failure => !failure.isExpected
  | .notClass _ => false
  | .unwritable _ => true

/-- The kind of the error. -/
def kind : ReadError → String
  | .unresolved _ failure => if failure.isExpected then "IntrospectionError" else failure.kind
  | .notClass _ => "IntrospectionError"
  | .unwritable e => e.kind

end ReadError

namespace SchemaClass

/-- The resolved hints of the whole chain; of several that fail the first one of the most basic
class counts. -/
def resolvedHints (c : SchemaClass) : Except ReadError (List (String × Hint)) := do
  let hints ← (allHints c.layers).mapM fun (name, h) =>
    match h.resolve with
    | .ok h => .ok (name, h.typed)
    | .error failure => .error (.unresolved c.own.name failure)
  return putEntries [] hints

/-- The fields of a class that is not a model class, with their hints. -/
def hintedFields (c : SchemaClass) : Except ReadError (List (String × Hint)) := do
  let hints ← c.resolvedHints
  match c.recordTable? with
  | some table =>
    return (table.filter (·.2 = .field)).filterMap fun (name, _) =>
      (contentAt? hints name).map fun h => (name, h)
  | none => return hints

/-- The declaration of a field whose notes hold a column. -/
def declare? (name : String) (h : Hint) (notes : List HintNote) :
    Except ReadError (Option FieldDeclaration) :=
  match Hint.columnOf? notes with
  | none => .ok none
  | some column => do
    let typeName ← h.writeName.mapError ReadError.unwritable
    return some ⟨some name, some typeName, column⟩

/-- The declarations that fields of these names, hints and notes make. -/
def declarations (fields : List (String × Hint × List HintNote)) :
    Except ReadError (List FieldDeclaration) := do
  let found ← fields.mapM fun (name, h, notes) => declare? name h notes
  return found.filterMap id

/-- The columns that a class declares. -/
def fieldDeclarations (c : SchemaClass) : Except ReadError (List FieldDeclaration) :=
  match c.modelTable?, c.validates with
  | some (.fields entries), true =>
    declarations (entries.map fun (name, f) => (name, f.hint, f.notes))
  | _, _ => do
    declarations ((← c.hintedFields).map fun (name, h) => (name, h, h.split.2))

/-- The latest version that a class is marked with itself. -/
def markedVersion? (c : SchemaClass) : Option Value :=
  match c.own.mark with
  | .version v => some v
  | _ => none

/-- The declaration of a class, which gets the default version if it is not marked. -/
def describe (c : SchemaClass) (defaultVersion : Value) : Except ReadError TypeDeclaration := do
  let fields ← c.fieldDeclarations
  return { package := c.own.module, name := c.own.name
           latestVersion := c.markedVersion?.getD defaultVersion, fields }

end SchemaClass

/-- The declaration of an item that must be a class. -/
def Item.describe (item : Item) (defaultVersion : Value) : Except ReadError TypeDeclaration :=
  match item with
  | .schema c => c.describe defaultVersion
  | item => do
    let shown ← (Value.writing item.values item.shown).mapError ReadError.unwritable
    throw (.notClass shown)

/-! ## Discovery -/

/-- A module: its name and what its names are bound to, in order. -/
structure SchemaModule where
  name : String
  bindings : List (String × Item) := []
deriving Inhabited

namespace SchemaModule

/-- The class of an item that is a marked one. -/
def markedClass? : Item → Option SchemaClass
  | .schema c => if c.markedVersion?.isSome then some c else none
  | _ => none

/-- The marked classes that a module defines, once for each binding. -/
def discover (m : SchemaModule) : List SchemaClass :=
  (m.bindings.filterMap fun e => markedClass? e.2).filter (·.own.module = m.name)

end SchemaModule

/-- The text of the mark of a class, if its version has one. -/
def writeMark (latest : Value) : Except Unwritable String :=
  Value.writing [latest] ("DBObject(latest_version=" ++ latest.shown ++ ")")

end RecordForge

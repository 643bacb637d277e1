import RecordForge.Record.Template

/-!
# Records

A stored record: a context and a version that are kept as given, a template of columns, and a value
under the name of each column that has been set. A value is stored only under a registered column,
only as that column converts it, and a failed write leaves the record as it was.

Setting a value is there twice: as a step on a record that goes on to exist whatever comes of it
(`assign`), and as a function to the record afterwards, if there is one (`setValue`).
-/

namespace RecordForge

/-- A stored record. -/
structure Record where
  context : Value
  version : Value := .int 1
  template : Template := {}
  values : List (String × Value) := []
deriving Inhabited

namespace Record

/-- Registers columns in turn. -/
def addColumns (r : Record) (cs : List Column) : Record :=
  { r with template := r.template.addColumns cs }

/-- The value that a column takes for another one, or why it takes none. -/
def accept (r : Record) (c : Column) (v : Value) : Except ColumnError Value :=
  if r.template.contains c then
    match v with
    | .null => if c.allowNull.truth then .ok .null else .error (.null c.name)
    | v => c.convert v
  else .error (.undefined c.name r.version)

/-- Sets the value of a column. -/
def setValue (r : Record) (c : Column) (v : Value) : Except ColumnError Record := do
  let stored ← r.accept c v
  return { r with values := putEntry r.values c.name stored }

/-- What is done to a record. It may fail, and leaves what it has made of the record by then. -/
abbrev Action (α : Type) := ExceptT ColumnError (StateM Record) α

/-- What an action comes to, and the record that it leaves. -/
def Action.on {α : Type} (action : Action α) (r : Record) : Except ColumnError α × Record :=
  action.run.run r

/-- Sets the value of a column step by step: the column has to be registered, it has to take null if
that is the value, and what it makes of the value is stored last. -/
def assign (c : Column) (v : Value) : Action Unit := do
  let r ← get
  if r.template.contains c then
    match v, c.allowNull.truth with
    | .null, false => throw (.null c.name)
    | v, _ => do
      let stored ← c.convert v
      modify fun r => { r with values := putEntry r.values c.name stored }
  else throw (.undefined c.name r.version)

/-- The value under the name of a column, null if there is none. -/
def value (r : Record) (c : Column) : Value :=
  (contentAt? r.values c.name).getD .null

/-- The names and values of the registered columns. -/
def toEntries (r : Record) : List (String × Value) :=
  r.template.columns.map fun c => (c.name, r.value c)

end Record

/-! ## Unknown versions -/

/-- A version without columns was asked for; `known` are the versions that have some. -/
structure UnknownVersion where
  version : Value
  known : List Value := []
deriving Inhabited

/-- The text of the known versions; one without characters says that there is none. -/
def UnknownVersion.knownText (e : UnknownVersion) : String :=
  let text := ", ".intercalate (e.known.map Value.plain)
  if text = "" then "none" else text

/-- The wording of the error as it would be if every value had a text. -/
def UnknownVersion.message (e : UnknownVersion) : String :=
  "No columns defined for version " ++ e.version.plain ++ " (known versions: " ++ e.knownText ++ ")"

/-- The wording of the error, which is made together with the error: there is no error about a
version that has no text. -/
def UnknownVersion.write (e : UnknownVersion) : Except Unwritable String :=
  Value.writing (e.version :: e.known) e.message

end RecordForge

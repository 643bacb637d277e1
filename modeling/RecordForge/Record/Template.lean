import RecordForge.Entries
import RecordForge.Record.Column

/-!
# Templates

The columns of a record, by name. A column registered under a name that is taken replaces the one
that is there and keeps its place, so of all columns of one name only the last belongs to the
template.
-/

namespace RecordForge

/-- The columns of a record in the order in which their names were first registered. -/
structure Template where
  entries : List (String × Column) := []
deriving Inhabited

namespace Template

/-- The registered columns. -/
def columns (t : Template) : List Column :=
  t.entries.map Prod.snd

/-- The column registered under a name. -/
def column? (t : Template) (name : String) : Option Column :=
  contentAt? t.entries name

/-- Whether this very column is registered. -/
def contains (t : Template) (c : Column) : Bool :=
  (t.column? c.name).any fun d => d.label = c.label

/-- No value other than a column is ever registered. -/
def containsValue (_ : Template) (_ : Value) : Bool :=
  false

/-- The number of registered columns. -/
def size (t : Template) : Nat :=
  t.entries.length

/-- Registers columns in turn. -/
def addColumns (t : Template) (cs : List Column) : Template :=
  ⟨putEntries t.entries (cs.map fun c => (c.name, c))⟩

/-- How the columns are spread over calls makes no difference. -/
theorem addColumns_append (t : Template) (a b : List Column) :
    t.addColumns (a ++ b) = (t.addColumns a).addColumns b := by
  simp [addColumns, putEntries_append]

end Template

end RecordForge

import RecordForge.ModuleName
import RecordForge.Schema.Describe

/-!
# Finding modules

Modules are found by their qualified names; none of them is a package.
-/

namespace RecordForge.SchemaModule

/-- The module of a name. -/
def find? (modules : List SchemaModule) (name : String) : Option SchemaModule :=
  modules.find? (·.name = name)

/-- The module of a name, or why it cannot be had. -/
def import? (modules : List SchemaModule) (name : String) : Except ImportError SchemaModule :=
  if name = "" then .error .emptyName
  else if name.toList.head? = some '.' then .error (.relativeName name)
  else
    match find? modules name with
    | some m => .ok m
    | none => .error (.ofName (fun parent => (find? modules parent).map fun _ => false) name)

end RecordForge.SchemaModule

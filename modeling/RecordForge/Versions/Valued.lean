import RecordForge.Sorting
import RecordForge.Value.Order
import RecordForge.Value.Text
import RecordForge.Versions

/-!
# Versions of any kind

Groups by versions that need not be integers. Versions that are equal are one, under the name of the
first; versions that cannot be told apart or put in order cannot be grouped.
-/

namespace RecordForge

variable {α : Type}

/-- Groups of columns by versions of any kind. -/
abbrev ValuedGroups (α : Type) := List (Value × List α)

/-- The constant of a generated class that holds the columns of a version of any kind. -/
structure ValuedGroup where
  name : String
  version : Value
  members : List String
deriving Inhabited

namespace ValuedGroups

/-- Changes the group of a version, which is empty if it is new. -/
def alter (version : Value) (change : List α → List α) : ValuedGroups α → ValuedGroups α
  | [] => [(version, change [])]
  | (v, items) :: rest =>
    if v.equals version then (v, change items) :: rest
    else (v, items) :: alter version change rest

/-- Groups by version, of which a later one takes the place of an earlier one. -/
def ofEntries (entries : List (Value × List α)) : Except KeyError (ValuedGroups α) :=
  entries.foldlM (fun groups (version, items) => do
    version.checkKey
    return groups.alter version fun _ => items) []

/-- The groups in ascending order of their versions. -/
def sorted (groups : ValuedGroups α) : Except KeyError (ValuedGroups α) :=
  Sorting.sort (fun a b => a.1.less b.1) groups

/-- Groups items by version: versions ascend, and items keep their order inside a group. -/
def partition (version : α → Value) (items : List α) : Except KeyError (ValuedGroups α) := do
  let groups ← items.foldlM (fun groups item => do
    (version item).checkKey
    return alter (version item) (· ++ [item]) groups) []
  groups.sorted

/-- The items of each version: its own and those of all earlier versions. -/
def cumulative (groups : ValuedGroups α) : Except KeyError (ValuedGroups α) :=
  VersionGroups.accumulate [] <$> groups.sorted

/-- The constant for a version and its columns. -/
def constantOf (constant : α → String) (group : Value × List α) : Except KeyError ValuedGroup := do
  let name ← (Naming.versionColumnsName group.1).mapError fun _ => .unwritable
  return ⟨name, group.1, group.2.map constant⟩

/-- The constants for all versions, where `constant` names the constant of a column. -/
def constants (constant : α → String) (groups : ValuedGroups α) :
    Except KeyError (List ValuedGroup) := do
  (← groups.cumulative).mapM (constantOf constant)

end ValuedGroups

end RecordForge

import RecordForge.Entries
import RecordForge.Naming

/-!
# Versions

Columns are grouped by the version that introduced them. The columns of a version are those of its
own group and of all earlier groups, earlier groups first.
-/

namespace RecordForge

variable {α : Type}

/-- Groups of columns by version. -/
abbrev VersionGroups (α : Type) := List (Int × List α)

namespace VersionGroups

/-- Adds an item to the end of the group of its version. -/
def insert (groups : VersionGroups α) (version : Int) (item : α) : VersionGroups α :=
  putEntry groups version ((contentAt? groups version).getD [] ++ [item])

/-- The groups in ascending order of their versions. -/
def sorted (groups : VersionGroups α) : VersionGroups α :=
  groups.mergeSort fun a b => a.1 ≤ b.1

/-- Groups items by version: versions ascend, and items keep their order inside a group. -/
def partition (version : α → Int) (items : List α) : VersionGroups α :=
  sorted (items.foldl (fun groups item => insert groups (version item) item) [])

/-- The groups with all earlier items in front, where `before` are the items so far. -/
def accumulate {κ : Type} (before : List α) : List (κ × List α) → List (κ × List α)
  | [] => []
  | (version, items) :: rest => (version, before ++ items) :: accumulate (before ++ items) rest

/-- The items of each version: its own and those of all earlier versions. -/
def cumulative (groups : VersionGroups α) : VersionGroups α :=
  accumulate [] (sorted groups)

end VersionGroups

/-- The constant of a generated class that holds the columns of a version. -/
structure VersionGroup where
  name : String
  version : Int
  members : List String
deriving DecidableEq, Repr

namespace VersionGroup

/-- The constant for a version and its columns. -/
def ofVersion (constant : α → String) (group : Int × List α) : Except Unwritable VersionGroup := do
  return ⟨← Naming.versionColumnsName (.int group.1), group.1, group.2.map constant⟩

/-- The constants for all versions, where `constant` names the constant of a column. There are none
if a version has no text. -/
def ofGroups (constant : α → String) (groups : VersionGroups α) :
    Except Unwritable (List VersionGroup) :=
  groups.cumulative.mapM (ofVersion constant)

end VersionGroup

end RecordForge

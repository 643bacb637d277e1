import RecordForge.ColumnSpec
import RecordForge.Entries

/-!
# Selection of columns

The specifications that a generated class keeps: those of its fields in order, without the ones that
would define a name a second time. A name belongs to the first kept field that takes it; a field
that is passed over takes no name.
-/

namespace RecordForge.ColumnSpec

/-- The identifiers of the fields that own names. -/
abbrev Owners := List (String × Option String)

/-- The first of the names that has an owner, with that owner. -/
def clash? (owners : Owners) : List String → Option (String × Option String)
  | [] => none
  | name :: rest =>
    match contentAt? owners name with
    | some owner => some (name, owner)
    | none => clash? owners rest

/-- Keeps the specifications of the fields, given the owners of names so far. -/
def selectFrom (config : Config) (owners : Owners) :
    List FieldDeclaration → Reported (List ColumnSpec)
  | [] => pure []
  | field :: rest => do
    match ← ofField config field with
    | none => selectFrom config owners rest
    | some spec =>
      if spec.isComplete config.generateAccessors then
        match clash? owners spec.names with
        | some (name, owner) => do
          Reported.warn "field [%s] duplicates %s of field [%s]. ignored!"
            [Value.ofText? field.identifier, .text name, Value.ofText? owner]
          selectFrom config owners rest
        | none => do
          let owners := putEntries owners (spec.names.map (·, field.identifier))
          let kept ← selectFrom config owners rest
          return spec :: kept
      else selectFrom config owners rest

/-- The specifications that are kept of a type's fields. -/
def select (config : Config) (fields : List FieldDeclaration) : Reported (List ColumnSpec) :=
  selectFrom config [] fields

end RecordForge.ColumnSpec

import RecordForge.Source.Run
import RecordForge.Text.Identifier

/-!
# Plain sources

Most sources say what they mean: every name in them is an identifier of ASCII characters that means
nothing else to the language, and what they import are the classes that records are made of. The
class of such a source is read off its parts. Of any other source only a run of its text tells what
it declares, if it declares anything at all.
-/

namespace RecordForge

/-- The name of a constant that is never to be bound. -/
def debugName : String := "__debug__"

/-- Whether a name is read as it is written wherever it stands, and can be bound. -/
def isPlainName (name : String) : Bool :=
  Text.isAscii name.toList && Text.isIdentifier name.toList && !Text.isKeyword name
    && name ≠ debugName

/-- Whether a text stays within a comment. -/
def staysInComment (text : String) : Bool :=
  text.toList.all fun c => c ≠ '\n' && c ≠ '\r' && c ≠ '\x00'

/-- The types of the language that accessors show. -/
def accessorTypes : List String :=
  TypeMapping.table.map fun (_, mapping) => mapping.valueType

namespace Method

/-- Whether all names of a method are plain, each parameter has a name of its own, and the types are
those of the language. -/
def isPlain (m : Method) : Bool :=
  isPlainName m.name && m.parameters.all (isPlainName ·.name) && m.signature.Nodup
    && (m.parameters.filterMap (·.type)).all accessorTypes.contains
    && match m.returns with
      | .type name => accessorTypes.contains name
      | _ => true

end Method

namespace ClassSource

/-- The column of a constant, if its name is plain and there is such a class of columns. -/
def plainColumn? (f : ColumnField) : Option (String × Column) := do
  guard (isPlainName f.constantName)
  let kind ← StorageKind.ofColumnClass? f.columnClass
  return (f.constantName,
    ⟨f.constantName, some kind, f.columnName, .bool f.allowNull, .bool f.primary, .int f.version⟩)

/-- The columns of a version, if its name is plain and the class has them. -/
def plainGroup? (columns : List (String × Column)) (g : VersionGroup) :
    Option (String × List Column) := do
  guard (isPlainName g.name)
  return (g.name, ← g.members.mapM (contentAt? columns))

/-- The class of a source that says what it means; a later definition of a name takes the place of
an earlier one. A class that takes the name under which its methods find the base is left to a
run. -/
def plainClass? (s : ClassSource) : Option LoadedClass := do
  guard (staysInComment s.origin && s.runtimeModule = recordModule && isPlainName s.name
    && s.name ≠ baseName && s.methods.all Method.isPlain)
  let base ← Base.ofName? s.superclass
  let columns := putEntries [] (← s.columns.mapM plainColumn?)
  let groups := putEntries [] (← s.groups.mapM (plainGroup? columns))
  let methods := s.methods.map (Method.asRead s.name)
  return { name := s.name, bases := [s.superclass], base, onRecords := base = .record, doc := s.doc
           columns, groups
           methods := putEntries [] (methods.map fun m => (m.name, m)) }

end ClassSource

end RecordForge

import RecordForge.Text.Case
import RecordForge.Text.Word
import RecordForge.Value.Text

/-!
# Naming

The names that a field gives rise to: its column, the constant that holds the column, the two
accessors and the parameter of the setter; and the names of the generated class and its module.

A field identifier may begin with a member mark, `m` or `s`, which the accessor names drop. Column
names are snake case; they drop the mark when an underscore follows it there.
-/

namespace RecordForge.Naming

open RecordForge.Text

/-- Which accessor a name is for. -/
inductive AccessorKind where
  | getter
  | setter
deriving DecidableEq, Repr

/-- Whether the character marks a member. -/
def isMemberMark (c : Char) : Bool :=
  c = 'm' || c = 's'

/-- Drops a member mark that is not the whole identifier. -/
def dropMark : List Char → List Char
  | c :: d :: rest => if isMemberMark c then d :: rest else c :: d :: rest
  | cs => cs

/-- Puts an underscore before every ASCII capital. -/
def breakCapitals (cs : List Char) : List Char :=
  cs.flatMap fun c => if c.isUpper then ['_', c] else [c]

/-- Drops a member mark followed by an underscore. -/
def dropMarkedUnderscore : List Char → List Char
  | c :: d :: rest => if isMemberMark c && d = '_' then rest else c :: d :: rest
  | cs => cs

/-- The column name of a field. -/
def columnName (identifier : String) : String :=
  String.ofList (dropMarkedUnderscore (lower (breakCapitals identifier.toList)))

/-- The word that an accessor name begins with. -/
def AccessorKind.verb : AccessorKind → List Char
  | .getter => "get".toList
  | .setter => "set".toList

/-- Upper-cases the first character. -/
def capitalize : List Char → List Char
  | [] => []
  | c :: rest => upperChar c ++ rest

/-- Lower-cases the first character. -/
def uncapitalize : List Char → List Char
  | [] => []
  | c :: rest => lower [c] ++ rest

/-- The name of an accessor of a field. -/
def accessorName (identifier : String) (kind : AccessorKind) : String :=
  if identifier = "" then identifier
  else String.ofList (kind.verb ++ capitalize (dropMark identifier.toList))

/-- The name of the parameter of a field's setter. -/
def parameterName (identifier : String) : String :=
  String.ofList (uncapitalize (dropMark identifier.toList))

/-- The name of the constant that holds a column. -/
def constantName (column : String) : String :=
  "COLUMN_" ++ String.ofList (upper (column.toList.map fun c => if isWord c then c else '_'))

/-- The name of the constant that holds the columns of the version of this text. -/
def versionColumnsNamed (version : String) : String :=
  "COLUMNS_VER" ++ version

/-- The name of the constant that holds the columns of a version, if the version has a text. -/
def versionColumnsName (version : Value) : Except Unwritable String :=
  versionColumnsNamed <$> version.write

/-- The name of the generated class. -/
def className (typeName suffix : String) : String :=
  typeName ++ suffix

/-- Whether a module name has a break before `c`, which follows `before`: a capital begins a word
after a small letter or digit, and after a capital if a small letter follows. -/
def breaksBefore (before : Option Char) (c : Char) (after : Option Char) : Bool :=
  c.isUpper &&
    (before.any (fun b => b.isLower || b.isDigit)
      || (before.any Char.isUpper && after.any Char.isLower))

/-- Puts an underscore at every break. -/
def breakWords (before : Option Char) : List Char → List Char
  | [] => []
  | c :: rest =>
    if breaksBefore before c rest.head? then '_' :: c :: breakWords (some c) rest
    else c :: breakWords (some c) rest

/-- The name of the module that holds a generated class. -/
def moduleName (className : String) : String :=
  String.ofList (lower (breakWords none className.toList))

end RecordForge.Naming

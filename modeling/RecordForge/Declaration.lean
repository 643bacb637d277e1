import RecordForge.Value.Order

/-!
# Declarations

What a generated class is made from: a type with its fields, each with the annotation that makes it
a column. The annotation holds what was written, which may be of any kind; reading it is the
business of the column specification.
-/

namespace RecordForge

/-- The annotation of a column. The flags are usually the texts `true` and `false`, the version an
integer. -/
structure ColumnAnnotation where
  name : Option String := some ""
  allowNull : Value := .text "true"
  primary : Value := .text "false"
  version : Value := .int 1
deriving Inhabited, Repr

namespace ColumnAnnotation

/-- The text of an annotation. -/
def shown (a : ColumnAnnotation) : String :=
  "DBColumn(" ++ (Value.ofText? a.name).shown ++ ", allow_null=" ++ a.allowNull.shown
    ++ ", primary=" ++ a.primary.shown ++ ", version=" ++ a.version.shown ++ ")"

/-- The values that the text of an annotation shows. -/
def values (a : ColumnAnnotation) : List Value :=
  [a.allowNull, a.primary, a.version]

/-- The text of an annotation, if all that was written has one. -/
def write (a : ColumnAnnotation) : Except Unwritable String :=
  Value.writing a.values a.shown

/-! ### Equality and hash -/

/-- What was written, where the name, too, may be of any kind. -/
structure Content where
  name : Value
  allowNull : Value
  primary : Value
  version : Value
deriving Inhabited, Repr

/-- What was written in an annotation. -/
def content (a : ColumnAnnotation) : Content :=
  ⟨Value.ofText? a.name, a.allowNull, a.primary, a.version⟩

/-- What the hash of an annotation is taken of: its name, the texts of its flags, and its
version. -/
structure HashKey where
  name : Value
  allowNull : String
  primary : String
  version : Value
deriving Inhabited, Repr

/-- Equal keys have equal hashes. -/
def HashKey.equals (a b : HashKey) : Bool :=
  a.name.equals b.name && a.allowNull = b.allowNull && a.primary = b.primary
    && a.version.equals b.version

namespace Content

/-- Two annotations are equal if all that was written is. -/
def equals (a b : Content) : Bool :=
  a.name.equals b.name && a.allowNull.equals b.allowNull && a.primary.equals b.primary
    && a.version.equals b.version

/-- The key of an annotation, if its flags have a text, and its name and its version a hash. -/
def hashKey (a : Content) : Except KeyError HashKey := do
  let allowNull ← a.allowNull.keyText
  let primary ← a.primary.keyText
  a.name.checkKey
  a.version.checkKey
  return ⟨a.name, allowNull, primary, a.version⟩

/-- Whether two annotations have the same hash. -/
def sameHash (a b : Content) : Except KeyError Bool := do
  return (← a.hashKey).equals (← b.hashKey)

end Content

/-- Equality of annotations. -/
def equals (a b : ColumnAnnotation) : Bool :=
  a.content.equals b.content

/-- Whether two annotations have the same hash. -/
def sameHash (a b : ColumnAnnotation) : Except KeyError Bool :=
  a.content.sameHash b.content

end ColumnAnnotation

/-- A field that declares a column. -/
structure FieldDeclaration where
  identifier : Option String
  typeName : Option String
  column : ColumnAnnotation := {}
deriving Inhabited, Repr

/-- A type that a class is generated for. -/
structure TypeDeclaration where
  package : String
  name : String
  latestVersion : Value := .int 1
  fields : List FieldDeclaration := []
deriving Inhabited, Repr

/-- A name with the package in front, if there is one. -/
def qualify (package name : String) : String :=
  if package = "" then name else package ++ "." ++ name

namespace FieldDeclaration

/-- The text of a field declaration. -/
def shown (f : FieldDeclaration) : String :=
  "FieldDeclaration(identifier=" ++ (Value.ofText? f.identifier).shown ++ ", type_name="
    ++ (Value.ofText? f.typeName).shown ++ ", annotation=" ++ f.column.shown ++ ")"

end FieldDeclaration

namespace TypeDeclaration

/-- The name of the type with its package. -/
def qualifiedName (d : TypeDeclaration) : String :=
  qualify d.package d.name

/-- The text of a group of fields; a group of one has a comma behind it. -/
def fieldsShown : List FieldDeclaration → String
  | [f] => "(" ++ f.shown ++ ",)"
  | fs => "(" ++ ", ".intercalate (fs.map (·.shown)) ++ ")"

/-- The text of a type declaration. -/
def shown (d : TypeDeclaration) : String :=
  "TypeDeclaration(package=" ++ Text.quoted d.package ++ ", name=" ++ Text.quoted d.name
    ++ ", latest_version=" ++ d.latestVersion.shown ++ ", fields=" ++ fieldsShown d.fields ++ ")"

/-- The values that the text of a type declaration shows. -/
def values (d : TypeDeclaration) : List Value :=
  d.latestVersion :: d.fields.flatMap (·.column.values)

end TypeDeclaration

end RecordForge

import RecordForge.Source.Syntax
import RecordForge.Text.DocString
import RecordForge.Value.Text

/-!
# The text of a generated class

A source is written line by line: a comment that names the origin, the import, the class. Names are
written as they are, column names and the documentation string as literals. One blank line stands
before the class and before every method.

`text` and what it is made of are what the text would be if every integer had one. A source is
rendered (`render`) only if its versions can be written.
-/

namespace RecordForge

/-- Moves a line to the right by a number of levels. -/
def indented (levels : Nat) (line : String) : String :=
  String.ofList (List.replicate (4 * levels) ' ') ++ line

/-- A group of items in parentheses; a single item has a comma behind it. -/
def groupText : List String → String
  | [item] => "(" ++ item ++ ",)"
  | items => "(" ++ ", ".intercalate items ++ ")"

/-- The definition of a column. -/
def ColumnField.line (f : ColumnField) : String :=
  f.constantName ++ " = " ++ f.columnClass ++ "(" ++ Text.quoted f.columnName ++ ", allow_null="
    ++ Value.boolText f.allowNull ++ ", primary=" ++ Value.boolText f.primary ++ ", version="
    ++ toString f.version ++ ")"

/-- The definition of the columns of a version. -/
def VersionGroup.line (g : VersionGroup) : String :=
  g.name ++ " = " ++ groupText g.members

namespace Dispatch

/-- The line that reports an unknown version. -/
def raiseLine (known : List Int) : String :=
  "raise " ++ unknownVersionName ++ "(self.version, " ++ groupText (known.map toString) ++ ")"

/-- The two lines of a test, which begins with the given word. -/
def testLines (word : String) (version : Int) (group : String) : List String :=
  [word ++ " self.version == " ++ toString version ++ ":",
    indented 1 ("template.add_columns(self." ++ group ++ ")")]

/-- The lines of the rest of a chain. -/
def elseLines : Dispatch → List String
  | .unknown known => ["else:", indented 1 (raiseLine known)]
  | .whenVersion version group rest => testLines "elif" version group ++ rest.elseLines

/-- The lines of a chain. -/
def lines : Dispatch → List String
  | .unknown known => [raiseLine known]
  | .whenVersion version group rest => testLines "if" version group ++ rest.elseLines

end Dispatch

/-- A call with arguments. -/
def callText (function : String) (arguments : List String) : String :=
  function ++ "(" ++ ", ".intercalate arguments ++ ")"

/-- The lines of a method body. -/
def MethodBody.lines : MethodBody → List String
  | .setUp arguments =>
    [callText "super().__init__" arguments, callText ("self." ++ registerName) []]
  | .delegate arguments version =>
    ["return " ++ callText "cls" (arguments ++ [toString version])]
  | .register dispatch => "template = self.get_template()" :: dispatch.lines
  | .fetch retrieval column asTruth =>
    ["return " ++ callText ("self." ++ retrieval) ["self." ++ column]
      ++ (if asTruth then " == 1" else "")]
  | .store column parameter asNumber =>
    [callText "self.set_value"
      ["self." ++ column, if asNumber then "1 if " ++ parameter ++ " else 0" else parameter]]

/-- The text of a declared result. -/
def Returns.text : Returns → String
  | .nothing => "None"
  | .ownClass name => Text.quoted name
  | .type name => name

/-- The text of a parameter. -/
def Parameter.text (p : Parameter) : String :=
  match p.type with
  | some type => p.name ++ ": " ++ type
  | none => p.name

namespace Method

/-- The line that opens a method. -/
def headLine (m : Method) : String :=
  "def " ++ callText m.name (m.receiver :: m.parameters.map Parameter.text) ++ " -> "
    ++ m.returns.text ++ ":"

/-- The lines of a method, without the blank line before it. -/
def lines (m : Method) : List String :=
  (if m.onClass then ["@classmethod"] else [])
    ++ m.headLine :: m.body.lines.map (indented 1)

end Method

namespace ClassSource

/-- The comment that names the origin. -/
def headLine (c : ClassSource) : String :=
  "# Generated by dbobjgen from " ++ c.origin ++ ". Do not edit."

/-- The import. -/
def importLine (c : ClassSource) : String :=
  "from " ++ c.runtimeModule ++ " import " ++ ", ".intercalate c.imports

/-- The line that opens the class. -/
def classLine (c : ClassSource) : String :=
  "class " ++ c.name ++ "(" ++ c.superclass ++ "):"

/-- The lines inside the class. -/
def bodyLines (c : ClassSource) : List String :=
  (Text.docString c.doc :: c.columns.map ColumnField.line ++ c.groups.map VersionGroup.line).map
      (indented 1)
    ++ c.methods.flatMap fun m => "" :: m.lines.map (indented 1)

/-- All lines. -/
def lines (c : ClassSource) : List String :=
  [c.headLine, c.importLine, "", c.classLine] ++ c.bodyLines

/-- The text of the source; every line ends in a line feed. -/
def text (c : ClassSource) : String :=
  String.join (c.lines.map (· ++ "\n"))

end ClassSource

/-- The text of the class of a model. -/
def ClassModel.text (m : ClassModel) : String :=
  (ClassSource.ofModel m).text

/-! ## Rendering -/

/-- The versions that a chain writes. -/
def Dispatch.versions : Dispatch → List Int
  | .unknown known => known
  | .whenVersion version _ rest => version :: rest.versions

/-- The versions that a method body writes. -/
def MethodBody.versions : MethodBody → List Int
  | .delegate _ version => [version]
  | .register dispatch => dispatch.versions
  | _ => []

/-- The versions that a source writes. -/
def ClassSource.versions (c : ClassSource) : List Int :=
  c.columns.map (·.version) ++ c.methods.flatMap (·.body.versions)

/-- Renders a source. -/
def ClassSource.render (c : ClassSource) : Except Unwritable String :=
  Value.writing (c.versions.map .int) c.text

/-- Renders the class of a model. -/
def ClassModel.render (m : ClassModel) : Except Unwritable String :=
  (ClassSource.ofModel m).render

end RecordForge

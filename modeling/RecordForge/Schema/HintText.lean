import RecordForge.Schema.Hint
import RecordForge.Text.Cut

/-!
# The text of a type hint

`shown` writes a hint in full. `typeName` is the name that a field's type goes by: notes are passed
over, a union of one type with null goes by the name of that type, a named type by its name alone, a
text in place of a type by itself, and every other hint by its full text. The full text shows the
values in notes and literals; the name can be written (`writeName`) if it shows none without a text.
-/

namespace RecordForge

namespace HintNote

/-- The text of a note. -/
def shown : HintNote → String
  | .column c => c.shown
  | .value v => v.shown

/-- The values that the text of a note shows. -/
def values : HintNote → List Value
  | .column c => c.values
  | .value v => [v]

end HintNote

namespace TypeName

/-- The name of a type inside another hint: qualified, unless every program has it. -/
def shown (n : TypeName) : String :=
  if n.module = Hint.builtins then n.name else n.module ++ "." ++ n.name

/-- The name that a type goes by. A new name for another type goes by its last part. -/
def own (n : TypeName) : String :=
  match n.sort with
  | .alias => (Text.parts '.' n.name).getLast?.getD ""
  | _ => n.name

end TypeName

namespace Hint

mutual

/-- The full text of a hint, with a text in place of a type in quotes. -/
def shown : Hint → String
  | .null => "None"
  | .named n => n.shown
  | .bare s => s
  | .generic origin args => match args with
    | [] => origin ++ "[()]"
    | args => origin ++ "[" ++ ", ".intercalate (texts args) ++ "]"
  | .union ms => match ms with
    | [a, b] =>
      if a.isNullType then "typing.Optional[" ++ shown b ++ "]"
      else if b.isNullType then "typing.Optional[" ++ shown a ++ "]"
      else "typing.Union[" ++ shown a ++ ", " ++ shown b ++ "]"
    | ms => "typing.Union[" ++ ", ".intercalate (texts ms) ++ "]"
  | .alternatives ms => " | ".intercalate (alternativeTexts ms)
  | .annotated inner notes =>
    "typing.Annotated[" ++ ", ".intercalate (shown inner :: notes.map HintNote.shown) ++ "]"
  | .literal vs => match vs with
    | [] => "typing.Literal[()]"
    | vs => "typing.Literal[" ++ ", ".intercalate (vs.map Value.shown) ++ "]"
  | .classVar inner => "typing.ClassVar[" ++ shown inner ++ "]"
  | .initVar _ inner => match inner with
    | .named n =>
      "dataclasses.InitVar[" ++ (if n.sort.isClass then n.name else n.shown) ++ "]"
    | inner => "dataclasses.InitVar[" ++ shown inner ++ "]"
  | .text s => Text.quoted s
  | .reference s => "ForwardRef(" ++ Text.quoted s ++ ")"
  | .value v => v.shown

/-- The texts of hints. -/
def texts : List Hint → List String
  | [] => []
  | h :: rest => shown h :: texts rest

/-- The texts of alternatives, among which the type of null is written as null. -/
def alternativeTexts : List Hint → List String
  | [] => []
  | h :: rest => (if h.isNullType then "None" else shown h) :: alternativeTexts rest

end

mutual

/-- The name that a type goes by. -/
def typeName : Hint → String
  | .named n => n.own
  | .text s => s
  | .annotated inner _ => typeName inner
  | .union ms => match memberNames ms with
    | [name] => name
    | _ => shown (.union ms)
  | .alternatives ms => match memberNames ms with
    | [name] => name
    | _ => shown (.alternatives ms)
  | h => shown h

/-- The names of the members other than the type of null. -/
def memberNames : List Hint → List String
  | [] => []
  | h :: rest => if h.isNullType then memberNames rest else typeName h :: memberNames rest

end

/-! ## The values in a text -/

mutual

/-- The values that the full text of a hint shows. -/
def values : Hint → List Value
  | .generic _ args => valuesOf args
  | .union ms => valuesOf ms
  | .alternatives ms => valuesOf ms
  | .annotated inner notes => values inner ++ notes.flatMap HintNote.values
  | .literal vs => vs
  | .classVar inner => values inner
  | .initVar _ inner => values inner
  | .value v => [v]
  | _ => []

/-- The values that the full texts of hints show. -/
def valuesOf : List Hint → List Value
  | [] => []
  | h :: rest => values h ++ valuesOf rest

end

mutual

/-- The values that the name of a type shows. -/
def nameValues : Hint → List Value
  | .annotated inner _ => nameValues inner
  | .union ms => match memberValues ms with
    | [vs] => vs
    | _ => values (.union ms)
  | .alternatives ms => match memberValues ms with
    | [vs] => vs
    | _ => values (.alternatives ms)
  | h => values h

/-- The values that the names of the members other than the type of null show. -/
def memberValues : List Hint → List (List Value)
  | [] => []
  | h :: rest => if h.isNullType then memberValues rest else nameValues h :: memberValues rest

end

/-- The name that a type goes by, if all that it shows has a text. -/
def writeName (h : Hint) : Except Unwritable String :=
  Value.writing h.nameValues h.typeName

end Hint

end RecordForge

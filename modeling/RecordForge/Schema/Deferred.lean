import RecordForge.Schema.HintForming

/-!
# Resolving hints

A class may give a hint, or a part of one, as a text. Resolving the hint puts the type that the text
denotes in its place. What a text denotes is only known of a closed list of expressions (`ofText`).
-/

namespace RecordForge

/-- Why a hint does not resolve. -/
inductive HintFailure where
  | unknownName (name : String)
  | noAttribute (type name : String)
  /-- The resolved parts do not make up a hint. -/
  | unformed (e : HintError)
  /-- Working out a text ends with an error of another kind. -/
  | other (kind message : String)
deriving DecidableEq, Repr, Inhabited

/-- The kind of the failure. -/
def HintFailure.kind : HintFailure → String
  | .unknownName _ => "NameError"
  | .noAttribute _ _ => "AttributeError"
  | .unformed e => e.kind
  | .other kind _ => kind

/-- The wording of the failure. -/
def HintFailure.message : HintFailure → String
  | .unknownName name => "name " ++ Text.quoted name ++ " is not defined"
  | .noAttribute type name =>
    "type object " ++ Text.quoted type ++ " has no attribute " ++ Text.quoted name
  | .unformed e => e.message
  | .other _ message => message

/-- The kinds of errors that are expected of a hint, and those that derive from them. -/
def HintFailure.expectedKinds : List String := [
  "NameError", "UnboundLocalError", "TypeError", "SyntaxError", "IndentationError", "TabError",
  "AttributeError", "FrozenInstanceError"]

/-- Whether a failure is expected of a hint: its form and the names in it may be wrong. -/
def HintFailure.isExpected : HintFailure → Bool
  | .unformed (.unwritable _) => false
  | .other kind _ => kind ∈ expectedKinds
  | _ => true

namespace Hint

/-- The types that every program has. -/
def builtinNames : List String := [
  "int", "str", "float", "bool", "bytes", "complex", "object", "list", "dict", "tuple", "set"]

/-- The hint that a text denotes. In general a text is an expression that is evaluated among the
names of a module. Here just these are evaluated: the eleven types that every program has, paths of
names, which fail at their first name or behind one of these types, quotients of a numeral by zero,
and lists of a power of numerals, which stands there in place of a type. Of every other text it is
only said that it is malformed, although many of them denote a hint or fail in other ways. -/
def ofText (text : String) : Except HintFailure Hint :=
  match path? text.toList with
  | some [name] =>
    if name ∈ builtinNames then .ok (builtin name) else .error (.unknownName name)
  | some (name :: part :: _) =>
    if name ∈ builtinNames then .error (.noAttribute name part)
    else .error (.unknownName name)
  | _ =>
    if dividesByZero text.toList then .error (.other "ZeroDivisionError" "division by zero")
    else match listOfPower? text.toList with
      | some n => .ok (.generic "list" [.value (.int n)])
      | none => .error (.unformed (.malformed text))

/-- Fails if one of the hints is a text that is not an expression. -/
def checkTexts (hs : List Hint) : Except HintFailure Unit :=
  hs.forM fun
    | .text s => if isExpression s then .ok () else .error (.unformed (.malformed s))
    | _ => .ok ()

mutual

/-- Resolves the texts in a hint. What an argument of the initialiser is declared with is left as it
is. -/
def resolve : Hint → Except HintFailure Hint
  | .generic origin args => do
    checkTexts args
    return .generic origin (← resolveAll args)
  | .union ms => do (unionOf (← resolveAll ms)).mapError HintFailure.unformed
  | .alternatives ms => do (alternativesOf (← resolveAll ms)).mapError HintFailure.unformed
  | .annotated inner notes => do
    (annotatedOf (← resolve inner) notes).mapError HintFailure.unformed
  | .classVar inner => do (classVarOf (← resolve inner)).mapError HintFailure.unformed
  | .text s => ofText s
  | .reference s => ofText s
  | h => .ok h

/-- Resolves hints from left to right. -/
def resolveAll : List Hint → Except HintFailure (List Hint)
  | [] => .ok []
  | h :: rest => do return (← resolve h) :: (← resolveAll rest)

end

end Hint

end RecordForge

import RecordForge.Schema.HintText
import RecordForge.Text.Identifier

/-!
# Forming type hints

The ways of building hints. They keep hints in normal form: a union holds no union, no null and no
member twice, and has at least two members; an annotated hint is not annotated again; a literal
lists no value twice. Not every combination is a hint, so most of them may fail.
-/

namespace RecordForge

/-- Why a combination is not a hint. -/
inductive HintError where
  /-- A text that a reference is made of does not have the form of an expression. -/
  | malformed (text : String)
  /-- Hints of these kinds have no union in the short spelling. -/
  | notOperands (left right : String)
  /-- The hint of an attribute of the class stands where a type must. -/
  | notArgument (shown : String)
  /-- Such a hint has no text to be shown by. -/
  | unwritable (e : Unwritable)
  | emptyUnion
  /-- An annotated hint has no notes. -/
  | noNotes
  /-- A member of a union has no hash, or cannot be compared with another one. -/
  | member (e : KeyError)
deriving DecidableEq, Repr, Inhabited

/-- The kind of the error. -/
def HintError.kind : HintError → String
  | .malformed _ => "SyntaxError"
  | .unwritable e => e.kind
  | _ => "TypeError"

/-- The wording of the error. -/
def HintError.message : HintError → String
  | .malformed text => "Forward reference must be an expression -- got " ++ Text.quoted text
  | .notOperands left right =>
    "unsupported operand type(s) for |: '" ++ left ++ "' and '" ++ right ++ "'"
  | .notArgument shown => shown ++ " is not valid as type argument"
  | .unwritable e => e.message
  | .emptyUnion => "Cannot take a Union of no types."
  | .noNotes =>
    "Annotated[...] should be used with at least two arguments (a type and an annotation)."
  | .member e => e.message

namespace Hint

/-! ## References -/

/-- The names of a path, if the text is one. -/
def path? (cs : List Char) : Option (List String) :=
  let parts := Text.cutAt '.' cs
  if parts.all fun p => Text.isIdentifier p && !Text.isKeyword (String.ofList p) then
    some (parts.map String.ofList)
  else none

/-- Whether the text divides a numeral by zero. -/
def dividesByZero (cs : List Char) : Bool :=
  match Text.cutAt '/' cs with
  | [a, b] => a ≠ [] && b ≠ [] && a.all Char.isDigit && b.all (· = '0')
  | _ => false

/-- The number that a numeral denotes. Zeros in front are for zero alone. -/
def numeral? (cs : List Char) : Option Nat :=
  if cs ≠ [] && cs.all Char.isDigit && cs.length ≤ Numeral.maxIntegerDigits
      && (cs.head? ≠ some '0' || cs.all (· = '0')) then
    some (Numeral.digitsValue cs)
  else none

/-- The number that a text denotes, if it raises a numeral to another one. -/
def power? (cs : List Char) : Option Nat :=
  match Text.cutAt '*' cs with
  | [base, [], exponent] => do return Nat.pow (← numeral? base) (← numeral? exponent)
  | _ => none

/-- The number in the place of the type of a list's items, if the text is such a list. -/
def listOfPower? (cs : List Char) : Option Nat :=
  match Text.cutAt '[' cs with
  | [['l', 'i', 's', 't'], rest] => match Text.cutAt ']' rest with
    | [number, []] => power? number
    | _ => none
  | _ => none

/-- Whether the text has the form of one of the expressions that hints are given as. -/
def isExpression (s : String) : Bool :=
  (path? s.toList).isSome || dividesByZero s.toList || (listOfPower? s.toList).isSome

/-- The reference that a text stands for. -/
def referenceOf (s : String) : Except HintError Hint :=
  if isExpression s then .ok (.reference s) else .error (.malformed s)

/-- A hint as the argument of another one: null stands for its type, and a text for a reference. -/
def argument : Hint → Except HintError Hint
  | .null => .ok nullType
  | .text s => referenceOf s
  | h => .ok h

/-- The error about a hint that cannot be an argument, which shows the hint. -/
def notArgument (h : Hint) : HintError :=
  match Value.writing h.values h.shown with
  | .ok shown => .notArgument shown
  | .error e => .unwritable e

/-- A hint as an argument that must be a type. -/
def typeArgument (h : Hint) : Except HintError Hint :=
  if h.isClassVar then .error h.notArgument else h.argument

/-! ## Unions -/

/-- The members that a hint adds to a union. -/
def unionMembers (h : Hint) : List Hint :=
  h.members?.getD [h]

/-- Adds a hint to the end of a list unless it is there. -/
def addMember (hs : List Hint) (h : Hint) : List Hint :=
  if someMatching hs h then hs else hs ++ [h]

/-- The distinct members of hints that are put together in a union. -/
def joined (hs : List Hint) : Except KeyError (List Hint) := do
  let ms := hs.flatMap unionMembers
  checkKeys ms
  return ms.foldl addMember []

/-- A union of distinct members; a single one stands for itself. -/
def ofMembers (union : List Hint → Hint) : List Hint → Hint
  | [h] => h
  | ms => union ms

/-- The union of hints. -/
def unionOf (hs : List Hint) : Except HintError Hint := do
  if hs.isEmpty then throw .emptyUnion
  let hs ← hs.mapM typeArgument
  return ofMembers .union (← (joined hs).mapError HintError.member)

/-- The union of a hint with null. -/
def optionalOf (h : Hint) : Except HintError Hint :=
  unionOf [h, .null]

/-! ## Unions in the short spelling -/

/-- The kind of a hint that the short spelling keeps in its own form, or that it refuses. -/
def operandKind? : Hint → Option String
  | .null => some "NoneType"
  | .named n => match n.sort with
    | .plainClass => some "type"
    | .model => some "ModelMetaclass"
    | .any => some "_AnyMeta"
    | .alias => none
  | .generic _ _ => some "types.GenericAlias"
  | .alternatives _ => some "types.UnionType"
  | .initVar _ _ => some "InitVar"
  | .text _ => some "str"
  | .value v => some v.kindName
  | _ => none

/-- Whether the short spelling keeps a union with this operand in its own form. -/
def isAlternative : Hint → Bool
  | .initVar _ _ => false
  | .text _ => false
  | .value _ => false
  | h => h.operandKind?.isSome

/-- Whether two members of a union in the short spelling are one. Only containers are compared, all
others are one if they are the very same. -/
def sameAlternative (a b : Hint) : Except KeyError Bool :=
  match a, b with
  | .generic _ _, .generic _ _ => same a b
  | .generic _ _, _ => .ok false
  | _, .generic _ _ => .ok false
  | a, b => .ok (matching a b)

/-- Whether a member is among others. -/
def isAmong (h : Hint) : List Hint → Except KeyError Bool
  | [] => .ok false
  | m :: rest => do
    if ← sameAlternative h m then return true else isAmong h rest

/-- The distinct members of a union in the short spelling. -/
def distinctAlternatives (hs : List Hint) : Except KeyError (List Hint) :=
  hs.foldlM (fun ms h => do
    return if ← isAmong h ms then ms else ms ++ [h]) []

/-- The union of two hints in the short spelling. A hint that has no short form makes it a union in
the long one; two values that are no types have none. -/
def alternative (a b : Hint) : Except HintError Hint :=
  match a.operandKind?, b.operandKind? with
  | some left, some right =>
    if a.isAlternative && b.isAlternative && !(a matches .null && b matches .null) then do
      let ms := (unionMembers a ++ unionMembers b).map typed
      return ofMembers .alternatives (← (distinctAlternatives ms).mapError HintError.member)
    else .error (.notOperands left right)
  | _, _ => unionOf [a, b]

/-- The union of hints in the short spelling, from left to right. -/
def alternativesOf : List Hint → Except HintError Hint
  | [] => .ok .null
  | h :: rest => rest.foldlM alternative h

/-! ## Other hints -/

/-- A hint with notes; those of an annotated hint come first. -/
def annotatedOf (h : Hint) (notes : List HintNote) : Except HintError Hint := do
  if notes.isEmpty then throw .noNotes
  match ← h.argument with
  | .annotated inner first => return .annotated inner (first ++ notes)
  | h => return .annotated h notes

/-- Adds a literal value to the end of a list unless it is there. -/
def addLiteral (vs : List Value) (v : Value) : List Value :=
  if vs.any (sameLiteral · v) then vs else vs ++ [v]

/-- The hint that lists values. Values without a hash are not told apart, nor are those that stand
beside them. -/
def literalOf (vs : List Value) : Hint :=
  match vs.forM Value.checkKey with
  | .ok _ => .literal (vs.foldl addLiteral [])
  | .error _ => .literal vs

/-- The hint of an attribute that belongs to the class. -/
def classVarOf (h : Hint) : Except HintError Hint := do
  return .classVar (← h.typeArgument)

end Hint

end RecordForge

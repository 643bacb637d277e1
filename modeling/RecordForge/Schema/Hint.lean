import RecordForge.Declaration

/-!
# Type hints

The type that a field is declared with. A hint may be a text in place of a type, or hold such texts:
a container holds them as they are, every other hint as references that are looked up when the hint
is resolved.

Two relations tell hints apart. `same` is equality, which fails on members without a hash; unions
equal each other if they have the same members, in any order and in either spelling. `matching` is
the finer relation by which a set tells its members apart, of hints that all have hashes: equal
column annotations whose hashes differ do not match.
-/

namespace RecordForge

/-- What a named type is. -/
inductive TypeSort where
  | plainClass
  /-- A class that collects its fields with their notes. -/
  | model
  /-- The type of all values. -/
  | any
  /-- A new name for another type. -/
  | alias
deriving DecidableEq, Repr, Inhabited

/-- Whether a type is a class. -/
def TypeSort.isClass : TypeSort → Bool
  | .alias => false
  | _ => true

/-- A type that has a name. Types of one name may still be different ones; `serial` tells them
apart. -/
structure TypeName where
  module : String
  name : String
  sort : TypeSort := .plainClass
  serial : Nat := 0
deriving DecidableEq, Repr, Inhabited

/-- What is attached to an annotated hint. -/
inductive HintNote where
  | column (c : ColumnAnnotation)
  | value (v : Value)
deriving Inhabited, Repr

namespace HintNote

/-- Equality of notes. -/
def equals : HintNote → HintNote → Bool
  | .column a, .column b => a.equals b
  | .value a, .value b => a.equals b
  | _, _ => false

/-- Fails if the note has no hash. -/
def checkKey : HintNote → Except KeyError Unit
  | .column c => c.version.checkKey
  | .value v => v.checkKey

/-- Whether two notes are equal and have the same hash. -/
def matching : HintNote → HintNote → Bool
  | .column a, .column b =>
    a.equals b && match a.sameHash b with
      | .ok same => same
      | .error _ => false
  | .value a, .value b => a.equals b
  | _, _ => false

end HintNote

/-- A type hint. -/
inductive Hint where
  /-- The null value in place of its type. -/
  | null
  | named (n : TypeName)
  /-- A container type without arguments that only shows its own text. -/
  | bare (text : String)
  | generic (origin : String) (arguments : List Hint)
  | union (members : List Hint)
  /-- A union in the short spelling. -/
  | alternatives (members : List Hint)
  | annotated (inner : Hint) (notes : List HintNote)
  | literal (values : List Value)
  | classVar (inner : Hint)
  /-- An argument of the initialiser only. No two of these are equal; `serial` tells them apart. -/
  | initVar (serial : Nat) (inner : Hint)
  /-- A text in place of a type. -/
  | text (s : String)
  /-- A reference to the type that a text denotes. -/
  | reference (s : String)
  /-- A value in place of a type. A container takes any value as an argument. -/
  | value (v : Value)
deriving Inhabited, Repr

namespace Hint

/-- The module of the types that every program has. -/
def builtins : String := "builtins"

/-- A type that every program has. -/
def builtin (name : String) : Hint :=
  .named ⟨builtins, name, .plainClass, 0⟩

/-- The type of null. -/
def nullType : Hint := builtin "NoneType"

/-- Null stands for its type. -/
def typed : Hint → Hint
  | .null => nullType
  | h => h

/-- Whether the hint is the type of null. -/
def isNullType : Hint → Bool
  | .named n => n = ⟨builtins, "NoneType", .plainClass, 0⟩
  | _ => false

/-! ## Equality -/

/-- Whether two literal values are the same: of one kind and equal. -/
def sameLiteral (a b : Value) : Bool :=
  a.kindName = b.kindName && a.equals b

/-- Whether two lists hold the same literal values. -/
def sameLiterals (xs ys : List Value) : Bool :=
  xs.all (fun x => ys.any (sameLiteral x)) && ys.all (fun y => xs.any (sameLiteral · y))

/-- Whether two lists of notes are related one by one. -/
def sameNotes (same : HintNote → HintNote → Bool) : List HintNote → List HintNote → Bool
  | [], [] => true
  | x :: xs, y :: ys => same x y && sameNotes same xs ys
  | _, _ => false

/-- The members of a hint that is a union in either spelling. -/
def members? : Hint → Option (List Hint)
  | .union ms => some ms
  | .alternatives ms => some ms
  | _ => none

mutual

/-- Whether a set holds only one of two hints, where both have hashes. -/
def matching : Hint → Hint → Bool
  | .null, h => match h with
    | .null => true
    | _ => false
  | .named n, h => match h with
    | .named m => n = m
    | _ => false
  | .bare s, h => match h with
    | .bare t => s = t
    | _ => false
  | .generic o xs, h => match h with
    | .generic p ys => o = p && matchingArguments xs ys
    | _ => false
  | .union xs, h => match h.members? with
    | some ys => eachIn xs ys && ys.all (fun y => someMatching xs y)
    | none => false
  | .alternatives xs, h => match h.members? with
    | some ys => eachIn xs ys && ys.all (fun y => someMatching xs y)
    | none => false
  | .annotated a ns, h => match h with
    | .annotated b ms => matching a b && sameNotes HintNote.matching ns ms
    | _ => false
  | .literal vs, h => match h with
    | .literal ws => sameLiterals vs ws
    | _ => false
  | .classVar a, h => match h with
    | .classVar b => matching a b
    | _ => false
  | .initVar n _, h => match h with
    | .initVar m _ => n = m
    | _ => false
  | .text s, h => match h with
    | .text t => s = t
    | _ => false
  | .reference s, h => match h with
    | .reference t => s = t
    | _ => false
  | .value v, h => match h with
    | .value w => v.equals w
    | _ => false

/-- Whether arguments match one by one. -/
def matchingArguments : List Hint → List Hint → Bool
  | [], ys => ys.isEmpty
  | x :: xs, ys => match ys with
    | [] => false
    | y :: ys => matching x y && matchingArguments xs ys

/-- Whether each hint is among the others. -/
def eachIn : List Hint → List Hint → Bool
  | [], _ => true
  | x :: xs, ys => ys.any (fun y => matching x y) && eachIn xs ys

/-- Whether one of the hints matches another one. -/
def someMatching : List Hint → Hint → Bool
  | [], _ => false
  | x :: xs, y => matching x y || someMatching xs y

end

mutual

/-- Fails if the hint has no hash, with the reason that its first such part gives. -/
def checkKey : Hint → Except KeyError Unit
  | .generic _ xs => checkKeys xs
  | .union xs => checkKeys xs
  | .alternatives xs => checkKeys xs
  | .annotated inner notes => do
    checkKey inner
    notes.forM HintNote.checkKey
  | .literal vs => vs.forM Value.checkKey
  | .classVar inner => checkKey inner
  | .value v => v.checkKey
  | _ => .ok ()

/-- Fails if one of the hints has no hash. -/
def checkKeys : List Hint → Except KeyError Unit
  | [] => .ok ()
  | x :: xs => do
    checkKey x
    checkKeys xs

end

/-- Equality of hints that are compared as sets of members, or that have no parts. -/
def sameBySets (a b : Hint) : Except KeyError Bool := do
  match a, b with
  | .literal _, .literal _ =>
    a.checkKey
    b.checkKey
  | _, _ =>
    if a.members?.isSome && b.members?.isSome then
      a.checkKey
      b.checkKey
  return matching a b

mutual

/-- Equality of hints. -/
def same : Hint → Hint → Except KeyError Bool
  | .generic o xs, h => match h with
    | .generic p ys => if o = p then sameArguments xs ys else .ok false
    | _ => .ok false
  | .annotated a ns, h => match h with
    | .annotated b ms => do return (← same a b) && sameNotes HintNote.equals ns ms
    | _ => .ok false
  | .classVar a, h => match h with
    | .classVar b => same a b
    | _ => .ok false
  | h, k => sameBySets h k

/-- Equality of arguments, one by one. -/
def sameArguments : List Hint → List Hint → Except KeyError Bool
  | [], ys => .ok ys.isEmpty
  | x :: xs, ys => match ys with
    | [] => .ok false
    | y :: ys => do
      if ← same x y then sameArguments xs ys else return false

end

/-! ## Parts -/

/-- The first column among notes. -/
def columnOf? : List HintNote → Option ColumnAnnotation
  | [] => none
  | .column c :: _ => some c
  | .value _ :: rest => columnOf? rest

/-- The hint inside an annotated one, with the notes. -/
def split : Hint → Hint × List HintNote
  | .annotated inner notes => (inner, notes)
  | h => (h, [])

/-- Whether the hint is that of an attribute of the class. -/
def isClassVar : Hint → Bool
  | .classVar _ => true
  | _ => false

/-- Whether the hint is that of an argument of the initialiser only. -/
def isInitVar : Hint → Bool
  | .initVar _ _ => true
  | _ => false

end Hint

end RecordForge

import RecordForge.Text.Cut
import RecordForge.Text.Quoted

/-!
# Names of modules

A module is named by a path of names with points between, each but the last of them the name of a
package. A module that is missing is reported under the name of the outermost package that is
missing, unless a part of its name is a module that holds no others.
-/

namespace RecordForge

/-- Why a module cannot be had. -/
inductive ImportError where
  | emptyName
  /-- The name is relative, and there is nothing that it could be relative to. -/
  | relativeName (name : String)
  /-- There is no module or package of this name. -/
  | missing (name : String)
  /-- A module stands where a package would have to be. -/
  | notPackage (name parent : String)
deriving DecidableEq, Repr, Inhabited

namespace ImportError

/-- The wording of the error. -/
def message : ImportError → String
  | .emptyName => "Empty module name"
  | .relativeName name =>
    "the 'package' argument is required to perform a relative import for " ++ Text.quoted name
  | .missing name => "No module named " ++ Text.quoted name
  | .notPackage name parent =>
    "No module named " ++ Text.quoted name ++ "; " ++ Text.quoted parent ++ " is not a package"

/-- Whether the error only means that the module is not there. -/
def isMissing : ImportError → Bool
  | .missing _ => true
  | .notPackage _ _ => true
  | _ => false

/-- Why a name given by its parts, the last one first, is missing. `isPackage?` says of a name
whether it is a package, if there is a module of that name. -/
def ofParts (isPackage? : String → Option Bool) : (reversed : List String) → ImportError
  | [] => .missing ""
  | [name] => .missing name
  | part :: parent =>
    let name := Text.joined '.' (part :: parent).reverse
    let parentName := Text.joined '.' parent.reverse
    if parentName = "" then .missing name
    else
      match isPackage? parentName with
      | some true => .missing name
      | some false => .notPackage name parentName
      | none => ofParts isPackage? parent

/-- Why the module of a name is missing. -/
def ofName (isPackage? : String → Option Bool) (name : String) : ImportError :=
  ofParts isPackage? (Text.parts '.' name).reverse

end ImportError

end RecordForge

import RecordForge.Text.Quoted

/-!
# Numbers of arguments

A function takes its arguments by position, each of them required. A call with too many or too few
says how many there are, or which ones are missing.
-/

namespace RecordForge

/-- Why a call does not fit a function. -/
inductive ArityError where
  /-- There are more arguments than the function takes. -/
  | tooMany (function : String) (takes given : Nat)
  /-- There are no arguments for these parameters. -/
  | missing (function : String) (parameters : List String)
  /-- The function takes nothing but the object that it sets up. -/
  | receiverOnly (function : String)
deriving DecidableEq, Repr, Inhabited

namespace ArityError

/-- Names in quotes, as an enumeration. -/
def enumeration : List String → String
  | [] => ""
  | [a] => Text.quoted a
  | [a, b] => Text.quoted a ++ " and " ++ Text.quoted b
  | names => ", ".intercalate (names.dropLast.map Text.quoted) ++ ", and "
    ++ Text.quoted (names.getLast?.getD "")

/-- The ending of a counted noun. -/
def plural (n : Nat) : String :=
  if n = 1 then "" else "s"

/-- The wording of the error. -/
def message : ArityError → String
  | .tooMany function takes given =>
    function ++ "() takes " ++ toString takes ++ " positional argument" ++ plural takes ++ " but "
      ++ toString given ++ (if given = 1 then " was given" else " were given")
  | .missing function parameters =>
    function ++ "() missing " ++ toString parameters.length ++ " required positional argument"
      ++ plural parameters.length ++ ": " ++ enumeration parameters
  | .receiverOnly function =>
    function ++ "() takes exactly one argument (the instance to initialize)"

end ArityError

end RecordForge

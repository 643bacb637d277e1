import RecordForge.Config

/-!
# The options of the command line

`generate MODULES...` with options before, between and after the modules. A long option takes its
value from behind an equals sign or from the next argument, a short one from the rest of its
argument or from the next one; short flags may be bundled. Of an option that is given twice the last
one counts. After two hyphens every argument is a module.
-/

namespace RecordForge.CommandLine

/-- What a run of the program was asked for. -/
structure Options where
  modules : List String := []
  output : String := "generated"
  accessors : Bool := true
  runtimeModule : String := ({} : Config).runtimeModule
  suffix : String := ({} : Config).classSuffix
  verbose : Bool := false
deriving DecidableEq, Repr, Inhabited

/-- What the arguments amount to. -/
inductive Request where
  | help
  /-- The arguments are not of the form that the program takes. -/
  | misuse
  /-- The output directory cannot be the name of one. -/
  | badOutput
  | generate (options : Options)
deriving DecidableEq, Repr, Inhabited

/-- The options that have a value. -/
inductive Valued where
  | output
  | runtimeModule
  | suffix
deriving DecidableEq, Repr, Inhabited

/-- The options seen so far. -/
structure Seen where
  options : Options := {}
  help : Bool := false
deriving Inhabited

namespace Seen

/-- Sets the value of an option. -/
def setValue (s : Seen) (option : Valued) (v : String) : Seen :=
  match option with
  | .output => { s with options.output := v }
  | .runtimeModule => { s with options.runtimeModule := v }
  | .suffix => { s with options.suffix := v }

/-- Adds modules. -/
def addModules (s : Seen) (names : List String) : Seen :=
  { s with options.modules := s.options.modules ++ names }

/-- Sets a flag by its long name, if there is such a flag. -/
def setFlag? (s : Seen) : String → Option Seen
  | "--accessors" => some { s with options.accessors := true }
  | "--no-accessors" => some { s with options.accessors := false }
  | "--verbose" => some { s with options.verbose := true }
  | "--help" => some { s with help := true }
  | _ => none

end Seen

/-- The valued option of a long name. -/
def valued? : String → Option Valued
  | "--output" => some .output
  | "--runtime-module" => some .runtimeModule
  | "--suffix" => some .suffix
  | _ => none

/-- Whether an argument is an option: it begins with a hyphen and is not one alone. -/
def isOption (arg : String) : Bool :=
  match arg.toList with
  | '-' :: _ :: _ => true
  | _ => false

/-- Whether an argument begins with two hyphens. -/
def isLong (arg : String) : Bool :=
  match arg.toList with
  | '-' :: '-' :: _ => true
  | _ => false

/-- The name of a long option, and the value behind an equals sign if there is one. -/
def splitValue (arg : String) : String × Option String :=
  let cs := arg.toList
  match cs.dropWhile (· ≠ '=') with
  | [] => (arg, none)
  | _ :: v => (String.ofList (cs.takeWhile (· ≠ '=')), some (String.ofList v))

/-- Reads bundled short options. The result holds the option that still waits for its value. -/
def readShort (s : Seen) : List Char → Option (Seen × Option Valued)
  | [] => some (s, none)
  | c :: rest =>
    if c = 'v' then readShort { s with options.verbose := true } rest
    else if c = 'o' then
      if rest.isEmpty then some (s, some .output)
      else some (s.setValue .output (String.ofList rest), none)
    else none

/-- Reads an argument that is an option. The result holds the option that still waits for its
value. -/
def readOption (s : Seen) (arg : String) : Option (Seen × Option Valued) :=
  let (name, v) := splitValue arg
  match valued? name, v with
  | some option, some v => some (s.setValue option v, none)
  | some option, none => some (s, some option)
  | none, v =>
    match s.setFlag? name with
    | some s => if v.isSome then none else some (s, none)
    | none => if isLong arg then none else readShort s (arg.toList.drop 1)

/-- Reads the arguments of the command. -/
def readArguments (s : Seen) : List String → Option Seen
  | [] => some s
  | arg :: rest =>
    if arg = "--" then some (s.addModules rest)
    else if isOption arg then
      match readOption s arg with
      | none => none
      | some (s, none) => readArguments s rest
      | some (s, some option) =>
        match rest with
        | [] => none
        | v :: rest => readArguments (s.setValue option v) rest
    else readArguments (s.addModules [arg]) rest

/-- The request that the arguments of the command make. -/
def requestOf (args : List String) : Request :=
  match readArguments {} args with
  | none => .misuse
  | some s =>
    if s.help then .help
    else if s.options.output.toList.contains '\x00' then .badOutput
    else if s.options.modules.isEmpty then .misuse
    else .generate s.options

/-- Reads the options in front of the command: whether help is asked for, and what follows. -/
def readFront (help : Bool) : List String → Option (Bool × List String)
  | [] => some (help, [])
  | arg :: rest =>
    if arg = "--" then some (help, rest)
    else if isOption arg then
      if arg = "--help" then readFront true rest else none
    else some (help, arg :: rest)

/-- The request of arguments whose first is no command: help is still given if it is an option that
asks for it. -/
def requestWithoutCommand (args : List String) : Request :=
  match readFront false args with
  | some (true, _) => .help
  | _ => .misuse

/-- The request that all arguments make. -/
def Request.ofArguments (args : List String) : Request :=
  match readFront false args with
  | none => .misuse
  | some (true, _) => .help
  | some (false, []) => .misuse
  | some (false, command :: rest) =>
    if command = "generate" then requestOf rest else requestWithoutCommand (command :: rest)

/-- The configuration that options make. -/
def Options.config (o : Options) : Config :=
  { classSuffix := o.suffix, runtimeModule := o.runtimeModule, generateAccessors := o.accessors }

end RecordForge.CommandLine

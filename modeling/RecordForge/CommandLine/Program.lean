import RecordForge.CommandLine.Import
import RecordForge.CommandLine.Options
import RecordForge.Generation
import RecordForge.Text.Styling

/-!
# The program

A run of the command line: the modules are found and generated in order, the generated files are
listed as they come, and a summary ends the run. A module that is not there ends the run before
anything of it and of the later ones is generated. What is logged on the way goes to a stream of its
own.
-/

namespace RecordForge.CommandLine

/-- How a run ends. -/
inductive Ending where
  /-- All modules were generated. -/
  | finished
  /-- A module is not there. -/
  | notFound
  /-- A failure that the program does not expect. -/
  | failed (kind message : String)
deriving DecidableEq, Repr, Inhabited

/-- What a run has done so far. -/
structure Progress where
  results : List GenerationResult := []
  /-- The lines written to the user. -/
  shown : List String := []
  /-- The lines of the log, among which stand those that report a missing module. -/
  logged : List String := []
  diagnostics : List Diagnostic := []
  outputs : Outputs := {}
deriving Inhabited

/-- The level from which on records are logged. -/
def threshold (o : Options) : LogLevel :=
  if o.verbose then .debug else .info

/-- The line of a log record, if its level is logged. -/
def logLine? (o : Options) (r : LogRecord) : Option String :=
  if (threshold o).rank ≤ r.level.rank then
    match r.message with
    | .ok text => some (r.level.name ++ " " ++ r.logger ++ ": " ++ text)
    | .error _ => none
  else none

/-- A line written to the user, who is not taken to be at a terminal: it has no styling. -/
def echoed (line : String) : String :=
  String.ofList (Text.unstyled line.toList)

/-- The line that lists a written file. -/
def fileLine? (r : GenerationResult) : Option String :=
  r.path.map fun p => echoed (r.className ++ " -> " ++ p.toString)

/-- The line that reports a missing module. -/
def missingLine (name : String) (e : ImportError) : String :=
  echoed ("error: cannot import " ++ name ++ ": " ++ e.message)

/-- The kind of an import error that is not expected. -/
def importErrorKind : ImportError → String
  | .emptyName => "ValueError"
  | .relativeName _ => "TypeError"
  | _ => "ModuleNotFoundError"

/-- Adds what a batch reports to the progress. -/
def Progress.addEvents (p : Progress) (o : Options) (events : List Event) : Progress :=
  { p with logged := p.logged ++ events.filterMap fun e => logLine? o e.record
           diagnostics := p.diagnostics ++ events.filterMap Event.diagnostic? }

/-- Adds the results of a module that was generated to its end. -/
def Progress.addResults (p : Progress) (results : List GenerationResult) : Progress :=
  { p with results := p.results ++ results
           shown := p.shown ++ results.filterMap fileLine? }

/-- Generates the modules of the given names in order. -/
def generateModules (o : Options) (modules : List SchemaModule) (p : Progress) :
    List String → Progress × Ending
  | [] => (p, .finished)
  | name :: rest =>
    match SchemaModule.import? modules name with
    | .error e =>
      if e.isMissing then
        ({ p with logged := p.logged ++ [missingLine name e] }, .notFound)
      else (p, .failed (importErrorKind e) e.message)
    | .ok m =>
      let writer := Writer.directory (Path.ofString o.output)
      let run := Generation.runModule o.config (some writer.write) p.outputs m
      let p := { p.addEvents o run.events with outputs := run.result.outputs }
      match run.result.stoppedBy with
      | some e => (p, .failed e.kind e.message)
      | none => generateModules o modules (p.addResults run.result.results) rest

/-- The number of files that were written. -/
def Progress.written (p : Progress) : Nat :=
  (p.results.filter (·.path.isSome)).length

/-- The number of diagnostics of a severity. -/
def Progress.count (p : Progress) (s : Severity) : Nat :=
  (Diagnostic.ofSeverity p.diagnostics s).length

/-- The line that ends a run. -/
def summary (p : Progress) : String :=
  toString p.written ++ " class(es) generated, " ++ toString (p.count .warning) ++ " warning(s), "
    ++ toString (p.count .error) ++ " error(s)"

/-- The outcome of a run. -/
structure Outcome where
  exitCode : Nat
  /-- Whether the answer is the usage of the program, in place of a run. -/
  usage : Bool := false
  shown : List String := []
  logged : List String := []
  /-- The kind and message of a failure that the program does not expect. -/
  failure : Option (String × String) := none
  outputs : Outputs
deriving Inhabited

/-- The outcome of a run that was made. -/
def outcomeOf (p : Progress) : Ending → Outcome
  | .finished =>
    { exitCode := if p.count .error = 0 then 0 else 1, shown := p.shown ++ [summary p]
      logged := p.logged, outputs := p.outputs }
  | .notFound => { exitCode := 2, shown := p.shown, logged := p.logged, outputs := p.outputs }
  | .failed kind message =>
    { exitCode := 1, shown := p.shown, logged := p.logged, failure := some (kind, message)
      outputs := p.outputs }

/-- Runs a request on the modules and files that are there. -/
def runRequest (modules : List SchemaModule) (files : FileTree) : Request → Outcome
  | .help => { exitCode := 0, usage := true, outputs := { files } }
  | .misuse => { exitCode := 2, usage := true, outputs := { files } }
  | .badOutput =>
    { exitCode := 1, failure := some ("ValueError", WriteError.nullCharacter.message)
      outputs := { files } }
  | .generate o =>
    let (p, ending) := generateModules o modules { outputs := { files } } o.modules
    outcomeOf p ending

/-- Runs the program. -/
def run (modules : List SchemaModule) (files : FileTree) (args : List String) : Outcome :=
  runRequest modules files (Request.ofArguments args)

end RecordForge.CommandLine

import RecordForge.Message

/-!
# Diagnostics and log records

What a run reports: notes, warnings and errors as a format with its values, and besides them the
records that go straight to a log. A reporter either logs a diagnostic or records it, and a
recording one may pass it on. Formatting waits until a diagnostic is read, so a malformed one does
no harm to the run that reports it.

`Reported` carries a result together with the events reported on the way, in order.
-/

namespace RecordForge

/-- How serious a diagnostic is. -/
inductive Severity where
  | note
  | warning
  | error
deriving DecidableEq, Repr, Inhabited

/-- A diagnostic: a format and the values that it takes. -/
structure Diagnostic where
  severity : Severity
  format : String
  values : List Value := []
deriving Inhabited

/-- The text of a diagnostic. -/
def Diagnostic.message (d : Diagnostic) : Except MessageError String :=
  Message.format d.format d.values

/-! ## Log records -/

/-- The level of a log record. -/
inductive LogLevel where
  | debug
  | info
  | warning
  | error
deriving DecidableEq, Repr

namespace LogLevel

/-- The rank of a level, least serious first. -/
def rank : LogLevel → Nat
  | debug => 10
  | info => 20
  | warning => 30
  | error => 40

/-- The name of a level in a log. -/
def name : LogLevel → String
  | debug => "DEBUG"
  | info => "INFO"
  | warning => "WARNING"
  | error => "ERROR"

end LogLevel

/-- The level at which a diagnostic is logged. -/
def Severity.level : Severity → LogLevel
  | .note => .debug
  | .warning => .warning
  | .error => .error

/-- A record of a log. -/
structure LogRecord where
  logger : String
  level : LogLevel
  message : Except MessageError String

namespace LogRecord

/-- The operands of a logged message: a dictionary with entries that comes alone is the operand
itself, everything else is a list of values. -/
def operands : List Value → Message.Operands
  | [.dict (e :: es)] => .ofEntries (e :: es)
  | values => .values values

/-- The text of a logged message. -/
def format (fmt : String) (values : List Value) : Except MessageError String :=
  if values.isEmpty then .ok fmt else Message.fill (Message.pieces fmt) (operands values)

/-- The logger of diagnostics. -/
def diagnosticsLogger : String := "dbobjgen.diagnostics"

/-- The record of a diagnostic. -/
def ofDiagnostic (d : Diagnostic) : LogRecord :=
  ⟨diagnosticsLogger, d.severity.level, format d.format d.values⟩

end LogRecord

/-! ## Reporters -/

/-- Where diagnostics go. -/
inductive Reporter where
  | logging
  | recording (passedTo : Option Reporter)

namespace Reporter

/-- The log records that reporting a diagnostic causes. -/
def records : Reporter → Diagnostic → List LogRecord
  | .logging, d => [LogRecord.ofDiagnostic d]
  | .recording none, _ => []
  | .recording (some r), d => r.records d

/-- The diagnostics that the reporter keeps of those reported to it. -/
def kept : Reporter → List Diagnostic → List Diagnostic
  | .logging, _ => []
  | .recording _, ds => ds

/-- The reporter that diagnostics are passed on to. -/
def next? : Reporter → Option Reporter
  | .logging => none
  | .recording r => r

end Reporter

/-- The diagnostics of one severity. -/
def Diagnostic.ofSeverity (ds : List Diagnostic) (s : Severity) : List Diagnostic :=
  ds.filter (·.severity = s)

/-! ## Events -/

/-- Something that a run reports. -/
inductive Event where
  | diagnostic (d : Diagnostic)
  | log (r : LogRecord)

namespace Event

/-- The diagnostic of an event that is one. -/
def diagnostic? : Event → Option Diagnostic
  | .diagnostic d => some d
  | .log _ => none

/-- The log records that an event causes when diagnostics are logged. -/
def record : Event → LogRecord
  | .diagnostic d => LogRecord.ofDiagnostic d
  | .log r => r

end Event

/-- A result together with the events reported on the way. -/
@[ext] structure Reported (α : Type) where
  result : α
  events : List Event := []

namespace Reported

variable {α β γ : Type}

/-- A result that reports nothing. -/
def pure (a : α) : Reported α := ⟨a, []⟩

/-- Goes on with a result, and reports what both steps report. -/
def bind (x : Reported α) (f : α → Reported β) : Reported β :=
  let y := f x.result
  ⟨y.result, x.events ++ y.events⟩

instance : Monad Reported where
  pure := pure
  bind := bind

/-- Goes on with what a step gave, unless the step failed. -/
def proceed {ε : Type} (step : Except ε α) (next : α → Reported (Except ε β)) :
    Reported (Except ε β) :=
  match step with
  | .ok a => next a
  | .error e => Pure.pure (.error e)

@[simp] theorem proceed_ok {ε : Type} (a : α) (next : α → Reported (Except ε β)) :
    proceed (.ok a) next = next a := rfl

@[simp] theorem proceed_error {ε : Type} (e : ε) (next : α → Reported (Except ε β)) :
    proceed (.error e) next = Pure.pure (.error e) := rfl

@[simp] theorem result_pure (a : α) : (Pure.pure a : Reported α).result = a := rfl

@[simp] theorem events_pure (a : α) : (Pure.pure a : Reported α).events = [] := rfl

@[simp] theorem result_bind (x : Reported α) (f : α → Reported β) :
    (x >>= f).result = (f x.result).result := rfl

@[simp] theorem events_bind (x : Reported α) (f : α → Reported β) :
    (x >>= f).events = x.events ++ (f x.result).events := rfl

/-- Reports one event. -/
def event (e : Event) : Reported Unit := ⟨(), [e]⟩

/-- Reports a note. -/
def note (format : String) (values : List Value) : Reported Unit :=
  event (.diagnostic ⟨.note, format, values⟩)

/-- Reports a warning. -/
def warn (format : String) (values : List Value) : Reported Unit :=
  event (.diagnostic ⟨.warning, format, values⟩)

/-- Reports an error. -/
def error (format : String) (values : List Value) : Reported Unit :=
  event (.diagnostic ⟨.error, format, values⟩)

/-- Writes a record to a log. -/
def log (logger : String) (level : LogLevel) (message : String) : Reported Unit :=
  event (.log ⟨logger, level, .ok message⟩)

/-- The diagnostics among the events. -/
def diagnostics (x : Reported α) : List Diagnostic :=
  x.events.filterMap Event.diagnostic?

@[simp] theorem diagnostics_pure (a : α) : (Pure.pure a : Reported α).diagnostics = [] := rfl

@[simp] theorem diagnostics_bind (x : Reported α) (f : α → Reported β) :
    (x >>= f).diagnostics = x.diagnostics ++ (f x.result).diagnostics :=
  List.filterMap_append

@[simp] theorem diagnostics_note (format : String) (values : List Value) :
    (note format values).diagnostics = [⟨.note, format, values⟩] := rfl

@[simp] theorem diagnostics_warn (format : String) (values : List Value) :
    (warn format values).diagnostics = [⟨.warning, format, values⟩] := rfl

@[simp] theorem diagnostics_error (format : String) (values : List Value) :
    (error format values).diagnostics = [⟨.error, format, values⟩] := rfl

end Reported

end RecordForge

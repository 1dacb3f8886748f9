/-!
# Events

What the program tells about its work.  An event has a severity, the part of the program it comes
from, and a text on which nothing depends but the reader.  Operations return their events in order
next to their result, so the log of a run is the concatenation of the logs of its steps.

Events are kept as data until a filter has seen them (`Filter.admits`) and `Transcript` has turned
them into lines.  No operation depends on what is done with its events; in particular a filter that
admits nothing changes nothing else.  The times at which events are printed are not part of them.

An event knows just as much of where it comes from as directives of a filter can ask for: the name
of the part and the names of its fields.  Values of fields other than the text are left out, since
no field but the text has one that a directive could match.
-/

set_option autoImplicit false

namespace TelemetryLog

/-- How serious an event is, the most serious first. -/
inductive Severity where
  /-- The program cannot go on. -/
  | error
  /-- Something is off, but the program goes on. -/
  | warn
  /-- The course of events. -/
  | info
  /-- Details for whoever looks for a fault. -/
  | debug
  /-- More details than anyone asks for. -/
  | trace
deriving DecidableEq, Repr

namespace Severity

/-- The severity as a number: the more detail, the greater. -/
def rank : Severity → Nat
  | .error => 1
  | .warn => 2
  | .info => 3
  | .debug => 4
  | .trace => 5

/-- The severity as it is printed. -/
def label : Severity → String
  | .error => "ERROR"
  | .warn => "WARN"
  | .info => "INFO"
  | .debug => "DEBUG"
  | .trace => "TRACE"

end Severity

/-- The part of the program that an event comes from. -/
inductive Origin where
  /-- The program as a whole. -/
  | program
  /-- The serial link. -/
  | serial
  /-- What the serial link stands on: the handling of terminals. -/
  | terminal
  /-- The log file. -/
  | sink
  /-- The loop between them. -/
  | ingest
deriving DecidableEq, Repr

/-- The name of the part, which directives of a filter refer to. -/
def Origin.target : Origin → String
  | .program => "motor_logger"
  | .serial => "motor_logger::serial"
  | .terminal => "mio_serial"
  | .sink => "motor_logger::sink"
  | .ingest => "motor_logger::ingest"

/-- The names of the fields of an event from this part; its text is in the first one. -/
def Origin.fields : Origin → List String
  | .terminal => ["message", "log.target", "log.module_path", "log.file", "log.line"]
  | _ => ["message"]

/-- Something the program tells. -/
structure Event where
  /-- How serious it is. -/
  severity : Severity
  /-- The part it comes from. -/
  origin : Origin
  /-- What it says. -/
  text : String
deriving DecidableEq, Repr

end TelemetryLog

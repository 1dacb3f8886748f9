import TelemetryLog.Device.Port
import TelemetryLog.Recorder.Run
import TelemetryLog.Report
import TelemetryLog.Transcript

/-!
# The program

The program takes its settings from the file that its first argument names, or uses the defaults. It
opens the device, opens the log, and records until it is told to stop.  Events that pass the filter
are printed, and copied to a file if there is a directory for that.

## What is here

* `Surroundings` — what the program meets: files, the device, a filter from outside.
* `Failure` — why it gives up, with its report.
* `Program.begin` — everything up to the first read.
* `Program.run` — the whole run, with what it prints and leaves behind.

Everything the program does is decided here, as a function of its surroundings and its arguments,
and `Main` only carries it out.  The order of the first steps can be seen from outside: settings
that cannot be used are reported before the device is touched, the device is opened before the log,
and a log that cannot be opened gives the device back.

The surroundings are fixed when the program begins.  So nobody else writes to the disk while it
runs, and what the device is going to give is known in advance as a list of arrivals.  For the
recorder that is no loss of generality, because it looks at nothing but its own device, its own
file, and the moment to stop.
-/

set_option autoImplicit false

namespace TelemetryLog

/-- What the program meets. -/
structure Surroundings where
  /-- The files. -/
  disk : Disk
  /-- The filter that is set from outside, if one is. -/
  filter : Option String
  /-- The day. -/
  day : String
  /-- What the device gives. -/
  arrivals : List Device.Arrival
  /-- When the program is told to stop. -/
  shutdown : Shutdown

/-- Why the program gives up. -/
inductive Failure where
  /-- It has no settings. -/
  | settings (path : String) (cause : LoadFault)
  /-- It cannot keep a copy of its output. -/
  | transcript (cause : Disk.Fault)
  /-- It cannot open the device. -/
  | device (cause : Fault)
  /-- It cannot open the log. -/
  | log (path : String) (cause : Fault)
  /-- A read failed. -/
  | reading (cause : Fault)
deriving DecidableEq, Repr

/-- The report of a failure. -/
def Failure.report : Failure → Report
  | .settings path cause => ⟨"Failed to load config " ++ path, cause.chain⟩
  | .transcript cause => ⟨"Failed to create initial log file", [cause.message]⟩
  | .device cause => ⟨"Cannot open sensor device", cause.chain⟩
  | .log path cause => ⟨"Failed to open log file " ++ path, cause.chain⟩
  | .reading cause => .ofChain cause.chain

namespace Program

/-- An event of the program as a whole. -/
def tell (severity : Severity) (text : String) : Event := ⟨severity, .program, text⟩

/-- The event at the start. -/
def startEvent : Event := tell .info "Motor Logger v0.1.0 starting..."

/-- The event before the first read. -/
def readyEvent : Event := tell .info "Press Ctrl+C to stop"

/-- The settings that the arguments ask for; all but the first are ignored. -/
def settings (d : Disk) : List String → Except Failure Settings
  | [] => .ok {}
  | path :: _ =>
    match Settings.load d path with
    | .ok s => .ok s
    | .error e => .error (.settings path e)

/-- The filter of the events: the one from outside if it spells one, else that of the settings. -/
def filter (outside : Option String) (s : LoggingSettings) : Filter :=
  match outside.bind (Filter.ofText? Filter.anyValue) with
  | some f => f
  | none => (Filter.ofText? Filter.anyValue s.level).getD ⟨[]⟩

/-- Where events go: through a filter, and to a file if there is one. -/
structure Output where
  /-- The filter. -/
  filter : Filter
  /-- The number of the file for the copy. -/
  copy : Option Nat
deriving DecidableEq, Repr

/-- The lines of the events that pass. -/
def Output.lines (o : Output) (events : List Event) : List String :=
  (events.filter o.filter.admits).map Event.line

/-- The disk with the copy of lines. -/
def Output.write (o : Output) (d : Disk) (lines : List String) : Disk :=
  match o.copy with
  | none => d
  | some number => d.append number (Transcript.bytesOf lines)

/-- The program up to its first read. -/
structure Begun where
  /-- The recorder, or why there is none. -/
  result : Except Failure Recorder
  /-- The files. -/
  disk : Disk
  /-- Where events go. -/
  output : Output
  /-- What was told, in order. -/
  events : List Event

/-- Opens the log after the device has been opened; the device is given back if that fails. -/
def openLog (d : Disk) (s : Settings) (o : Output) (events : List Event) (c : Device.Channel) :
    Begun :=
  match LogFile.start d s.output.path s.output.verifyHeader .motor with
  | ⟨.ok log, d, more⟩ =>
    ⟨.ok { source := .device c, log := log }, d, o, events ++ more ++ [readyEvent]⟩
  | ⟨.error e, d, more⟩ =>
    ⟨.error (.log s.output.path e), d, o,
      events ++ more ++ [Device.Channel.releasedEvent c.name]⟩

/-- Opens the device and the log. -/
def openAll (world : Surroundings) (d : Disk) (s : Settings) (o : Output) : Begun :=
  let opened := Device.openPort d s.serial world.arrivals
  match opened.result with
  | .error e => ⟨.error (.device e), d, o, startEvent :: opened.events⟩
  | .ok c => openLog d s o (startEvent :: opened.events) c

/-- The place for the copy of the output, if the settings ask for one. -/
def startCopy (d : Disk) (s : LoggingSettings) (day : String) :
    Disk × Except Disk.Fault (Option Nat) :=
  if s.directory.isEmpty then (d, .ok none)
  else
    match Transcript.start d s.directory day with
    | (d, .ok number) => (d, .ok (some number))
    | (d, .error e) => (d, .error e)

/-- Everything up to the first read. -/
def begin (world : Surroundings) (arguments : List String) : Begun :=
  match settings world.disk arguments with
  | .error e => ⟨.error e, world.disk, ⟨⟨[]⟩, none⟩, []⟩
  | .ok s =>
    let f := filter world.filter s.logging
    match startCopy world.disk s.logging world.day with
    | (d, .error e) => ⟨.error (.transcript e), d, ⟨f, none⟩, []⟩
    | (d, .ok copy) => openAll world d s ⟨f, copy⟩

/-- What is left of a run of the program. -/
structure Finished where
  /-- The exit status. -/
  status : Nat
  /-- The lines it printed. -/
  lines : List String
  /-- The report of its failure. -/
  complaint : String
  /-- The files. -/
  disk : Disk

/-- The end of a run with these events. -/
def finish (o : Output) (d : Disk) (events : List Event) (failure : Option Failure) : Finished :=
  let lines := o.lines events
  let d := o.write d lines
  match failure with
  | none => ⟨0, lines, "", d⟩
  | some f => ⟨1, lines, f.report.render, d⟩

/-- The failure that a run of the recorder ended in. -/
def failureOf : Ending → Option Failure
  | .failed fault => some (.reading fault)
  | _ => none

/-- The whole run. -/
def run (world : Surroundings) (arguments : List String) : Finished :=
  let b := begin world arguments
  match b.result with
  | .error e => finish b.output b.disk b.events (some e)
  | .ok r =>
    let run := r.run b.disk world.shutdown
    finish b.output run.disk (b.events ++ run.events) (failureOf run.ending)

end Program
end TelemetryLog

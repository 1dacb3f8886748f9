import TelemetryLog.LogFile
import TelemetryLog.Recorder.Source

/-!
# The recorder

A `Recorder` moves records from a source of lines to a log, one line at a time, and counts what it
meets.  A line that has been read is always dealt with in full, and a read that fails changes
neither the counts nor the log.

What can be seen of the work from outside are rows and events, and the order in which they come is
part of it: what came of the work is therefore a list of `Deed`s, which the events are read off.

## What is here

* `Outcome`, `Counts` — what a step did, and how often each of that happened.
* `Deed` — adding a row or telling something.
* `Recorder.plan` — what is to be done with what was read.
* `Recorder.handle` — deals with what was read.
* `Recorder.step` — reads and deals with it.

A list of events next to a disk would not show whether a row was in the file when it was told of.
With deeds the question can be asked: it is about the disk after the deeds so far, for every place
in the list (`Proofs.Recorder.Told`).  The plan is made before anything is done, and it depends on
the columns and on the line alone, not on the disk and not on earlier lines.

Adding a row cannot fail here, because no file that is open can (see `LogFile`).  In the program a
row that cannot be written ends the run like a failed read.
-/

set_option autoImplicit false

namespace TelemetryLog

/-- What a step did. -/
inductive Outcome where
  /-- No line came in time. -/
  | idle
  /-- The line was no object. -/
  | chatter
  /-- The line was a broken object. -/
  | malformed
  /-- A row was added to the log. -/
  | logged
deriving DecidableEq, Repr

/-- How often each outcome came up. -/
structure Counts where
  /-- Reads without a line. -/
  idle : Nat := 0
  /-- Lines, whatever they held. -/
  lines : Nat := 0
  /-- Lines that were no object. -/
  chatter : Nat := 0
  /-- Lines that were broken objects. -/
  malformed : Nat := 0
  /-- Lines that became rows. -/
  logged : Nat := 0
deriving DecidableEq, Repr

/-- The counts after one more outcome. -/
def Counts.add (c : Counts) : Outcome → Counts
  | .idle => { c with idle := c.idle + 1 }
  | .chatter => { c with lines := c.lines + 1, chatter := c.chatter + 1 }
  | .malformed => { c with lines := c.lines + 1, malformed := c.malformed + 1 }
  | .logged => { c with lines := c.lines + 1, logged := c.logged + 1 }

/-- One of the things that are done for the world to see. -/
inductive Deed where
  /-- The row of a record is added to the log. -/
  | add (record : Record)
  /-- Something is told. -/
  | tell (event : Event)

namespace Deed

/-- The log and the disk after a deed. -/
def perform : LogFile × Disk → Deed → LogFile × Disk
  | (log, d), add record => log.append d record
  | (log, d), tell _ => (log, d)

/-- The log and the disk after deeds, one after the other. -/
def performAll (deeds : List Deed) (start : LogFile × Disk) : LogFile × Disk :=
  deeds.foldl perform start

/-- What is told if this is done. -/
def event? : Deed → Option Event
  | add _ => none
  | tell event => some event

/-- What is told in the course of deeds, in order. -/
def told (deeds : List Deed) : List Event := deeds.filterMap event?

@[simp]
theorem told_add (record : Record) (deeds : List Deed) : told (add record :: deeds) = told deeds :=
  rfl

@[simp]
theorem told_tell (event : Event) (deeds : List Deed) :
    told (tell event :: deeds) = event :: told deeds := rfl

@[simp]
theorem told_nil : told [] = [] := rfl

@[simp]
theorem told_append (deeds more : List Deed) : told (deeds ++ more) = told deeds ++ told more :=
  List.filterMap_append

@[simp]
theorem told_map_tell (events : List Event) : told (events.map tell) = events := by
  rw [told, List.filterMap_map]
  exact List.filterMap_some

end Deed

/-- A source of lines, the log they go to, and the counts so far. -/
structure Recorder where
  /-- Where lines come from. -/
  source : Source
  /-- Where records go. -/
  log : LogFile
  /-- What has been met so far. -/
  counts : Counts := {}
deriving DecidableEq, Repr

namespace Recorder

/-- An event of the recorder. -/
def tell (severity : Severity) (text : String) : Event := ⟨severity, .ingest, text⟩

/-- The event for a row that was added. -/
def loggedEvent (r : Record) : Event :=
  tell .info ("[LOGGED] ts=" ++ r.fieldText "timestamp" ++ " | V=" ++ r.fieldText "voltage")

/-- The event for a malformed line. -/
def malformedEvent (line : String) : Event :=
  tell .debug ("Skipping malformed line: " ++ String.ofList (Text.trim line.toList))

/-- What is to be done with what was read, a line or none: the deeds in order.  A row is told of
once it is in the file. -/
def plan (schema : Schema) : Option String → Outcome × List Deed
  | none => (.idle, [])
  | some line =>
    match Line.read line with
    | .chatter => (.chatter, [])
    | .malformed => (.malformed, [.tell (malformedEvent line)])
    | .payload p =>
      let record := Record.ofPayload p schema
      (.logged, [.add record, .tell (loggedEvent record)])

/-- What came of dealing with what was read. -/
structure Handled where
  /-- What was done. -/
  outcome : Outcome
  /-- The log afterwards. -/
  log : LogFile
  /-- The disk afterwards. -/
  disk : Disk
  /-- The deeds, in order. -/
  deeds : List Deed

/-- Deals with what was read: a line, or none. -/
def handle (log : LogFile) (d : Disk) (line : Option String) : Handled :=
  let (outcome, deeds) := plan log.schema line
  let (log, d) := Deed.performAll deeds (log, d)
  ⟨outcome, log, d, deeds⟩

/-- The recorder after dealing with a reading, its source being `s` by then. -/
def after (r : Recorder) (s : Source) (h : Handled) : Recorder :=
  ⟨s, h.log, r.counts.add h.outcome⟩

/-- What came of a step. -/
structure Step where
  /-- What it did, or why it failed. -/
  result : Except Fault Outcome
  /-- The recorder afterwards. -/
  recorder : Recorder
  /-- The disk afterwards. -/
  disk : Disk
  /-- The time it took. -/
  elapsed : Nat
  /-- What it did, in order. -/
  deeds : List Deed

/-- What the step told, in order. -/
def Step.events (step : Step) : List Event := Deed.told step.deeds

/-- The step that deals with what a call of the source gave. -/
def stepWith (r : Recorder) (d : Disk) (read : Source.Read) (line : Option String) : Step :=
  let h := handle r.log d line
  ⟨.ok h.outcome, r.after read.source h, h.disk, read.elapsed,
    read.events.map .tell ++ h.deeds⟩

/-- Reads once and deals with it. -/
def step (r : Recorder) (d : Disk) : Step :=
  let read := r.source.readUntil none
  match read.reply with
  | .line text => stepWith r d read (some text)
  | .failed fault =>
    ⟨.error fault, { r with source := read.source }, d, read.elapsed, read.events.map .tell⟩
  | _ => stepWith r d read none

end Recorder
end TelemetryLog

import Std.Time
import TelemetryLog.Program

/-!
# The command line

`main` shows the program what is on the real disk, does to the real disk what the program decided,
and hands over what the device gives.  It decides nothing itself.

The speed of the device is left as the system has it.  A signal ends the process at once; every row
is in its file by then, because bytes are written as soon as the step that made them is over.

## What is here

* `observe` — the real disk as far as a path leads.
* `carryOut` — what was made on the disk, made on the real one.
* `pump` — reads the device and records until that fails.
* `main` — the whole run.

Nothing is proved about this module.  It is kept thin for that reason: the disk that the program
works on is a picture of the real one, made before the run along the paths that the settings name,
and afterwards only additions are carried over, bytes at the end of files and entries that are new.
A fault of the real disk at that point is a fault of this module and ends the process; the program
does not hear of it.
-/

set_option autoImplicit false

namespace TelemetryLog
namespace Main

/-! ## The real disk -/

/-- The real path to what these names stand for. -/
def realPath (names : List String) : String := "/" ++ "/".intercalate names

/-- A disk that knows the way to the working directory. -/
def homeDisk (home : List String) : Disk :=
  ⟨home, (List.range home.length).map fun n => (home.take (n + 1), .directory), []⟩

/-- What a real path leads to; anything but a file, a directory or nothing is a fault. -/
def look (path : String) : IO (Option (Option (List UInt8))) := do
  try
    return some (some (← IO.FS.readBinFile path).toList)
  catch
    | .noFileOrDirectory .. => return none
    | .inappropriateType .. => return some none
    | e => throw e

/-- The disk with what is really there on the way along names. -/
def observeNames (d : Disk) (start : List String) : List String → IO Disk
  | [] => pure d
  | n :: ns => do
    if n = "." then observeNames d start ns
    else if n = ".." then observeNames d start.dropLast ns
    else
      let names := start ++ [n]
      if (d.entry? names).isSome then observeNames d names ns
      else
        match ← look (realPath names) with
        | none => pure d
        | some none => observeNames (d.addEntry names .directory) names ns
        | some (some bs) =>
          pure { d.addEntry names (.file d.contents.length) with contents := d.contents ++ [bs] }

/-- The disk with what is really there on the way along a path. -/
def observe (d : Disk) (path : String) : IO Disk :=
  let p := Disk.Path.ofString path
  observeNames d (d.origin p) p.names

/-- Makes what was made since an earlier state of the disk, without contents. -/
def carryOut (earlier d : Disk) : IO Unit := do
  for e in d.entries.drop earlier.entries.length do
    match e.2 with
    | .directory => IO.FS.createDir (realPath e.1)
    | .file _ => discard (IO.FS.Handle.mk (realPath e.1) .writeNew)
    | .terminal => pure ()

/-- A file that is open for appending, with its number. -/
structure Outlet where
  /-- The number of the file. -/
  number : Nat
  /-- The open file. -/
  handle : IO.FS.Handle

/-- The files of a disk, open for appending. -/
def openOutlets (d : Disk) (numbers : List Nat) : IO (List Outlet) := do
  let mut outlets := []
  for e in d.entries do
    if let .file number := e.2 then
      if number ∈ numbers then
        outlets := ⟨number, ← IO.FS.Handle.mk (realPath e.1) .append⟩ :: outlets
  return outlets

/-- Writes what was added since an earlier state of the disk. -/
def writeAdded (outlets : List Outlet) (earlier d : Disk) : IO Unit := do
  for o in outlets do
    let added := (d.bytes o.number).drop (earlier.bytes o.number).length
    unless added.isEmpty do
      o.handle.write (ByteArray.mk added.toArray)
      o.handle.flush

/-- The disk without contents, once they are written. -/
def forget (d : Disk) : Disk := { d with contents := d.contents.map fun _ => [] }

/-! ## The time -/

/-- The current time, in the given pattern. -/
def timeText (pattern : String) : IO String := do
  let now ← Std.Time.Timestamp.now
  return (Std.Time.DateTime.ofTimestamp now Std.Time.TimeZone.ZoneRules.UTC).format pattern

/-- A line with the time in front and its first word set right in five places. -/
def stamped (time line : String) : String :=
  let word := line.toList.takeWhile (· ≠ ' ')
  time ++ " " ++ String.ofList (List.replicate (5 - word.length) ' ') ++ line

/-- Prints events that pass, and copies them; the disk with the copy. -/
def report (o : Program.Output) (d : Disk) (events : List Event) : IO Disk := do
  let time ← timeText "uuuu-MM-dd'T'HH:mm:ss.SSSSSS'Z'"
  let lines := (o.lines events).map (stamped time)
  for line in lines do
    IO.println line
  return o.write d lines

/-! ## The run -/

/-- The recorder with something for its device to give. -/
def offer (r : Recorder) (arrivals : List Device.Arrival) : Recorder :=
  match r.source with
  | .device c => { r with source := .device { c with arrivals := arrivals } }
  | _ => r

/-- A silence that outlasts a call. -/
def pause (r : Recorder) : Device.Arrival :=
  match r.source with
  | .device c => .silence (c.timeout + 1)
  | _ => .silence 1

/-- Reads the device and records until that fails; the fault.  The system waits for the device, so
a step that finds nothing more to read does not count. -/
partial def pump (device : IO.FS.Handle) (outlets : List Outlet) (o : Program.Output) (r : Recorder)
    (d : Disk) : IO Fault := do
  let block ← device.read Device.Arrival.blockSize.toUSize
  let arrival := if block.isEmpty then .ended else .block block.toList
  drain (offer r [arrival, pause r]) d
where
  /-- Deals with everything that the device has given. -/
  drain (r : Recorder) (d : Disk) : IO Fault := do
    let step := r.step d
    match step.result with
    | .ok .idle => pump device outlets o { r with source := step.recorder.source } d
    | .ok _ =>
      writeAdded outlets d step.disk
      let copied ← report o step.disk step.events
      writeAdded outlets step.disk copied
      drain step.recorder (forget copied)
    | .error fault =>
      let copied ← report o d (r.failRun d (r.source.readUntil none) fault).events
      writeAdded outlets d copied
      return fault

/-- The device at a path, if it is a terminal that can be opened. -/
def openDevice (path : String) : IO (Option IO.FS.Handle) := do
  try
    let handle ← IO.FS.Handle.mk path .read
    return if ← handle.isTty then some handle else none
  catch _ => return none

/-- The disk with the files that the settings name, and the device. -/
def observeAll (d : Disk) (s : Settings) (day : String) : IO (Disk × Option IO.FS.Handle) := do
  let d ← observe d s.output.path
  let d ←
    if s.logging.directory.isEmpty then pure d
    else observe d (Transcript.join s.logging.directory (Transcript.fileName day))
  match ← openDevice s.serial.port with
  | none => return (← observe d s.serial.port, none)
  | some handle =>
    let d ← observe d (Disk.Path.parentText s.serial.port)
    return (d.placeTerminal s.serial.port, some handle)

/-- Carries out the beginning of a run and the rest of it; the exit status. -/
def carryOn (world : Surroundings) (arguments : List String) (settle : Nat)
    (device : Option IO.FS.Handle) : IO UInt32 := do
  let b := Program.begin world arguments
  carryOut world.disk b.disk
  let log := match b.result with
    | .ok r => [r.log.number]
    | .error _ => []
  let outlets ← openOutlets b.disk (log ++ b.output.copy.toList)
  writeAdded outlets world.disk b.disk
  let d ← report b.output b.disk b.events
  writeAdded outlets b.disk d
  match b.result, device with
  | .ok r, some handle =>
    IO.sleep settle.toUInt32
    let copied ← report b.output (forget d) [r.startEvent]
    writeAdded outlets (forget d) copied
    let fault ← pump handle outlets b.output r (forget copied)
    IO.eprint (Failure.reading fault).report.render
    return 1
  | .error failure, _ =>
    IO.eprint failure.report.render
    return 1
  | .ok _, none => return 1

/-- The whole run; the exit status. -/
def run (arguments : List String) : IO UInt32 := do
  let day ← timeText "uuuu-MM-dd"
  let start := homeDisk (Disk.Path.namesOf (toString (← IO.currentDir)))
  let d ← match arguments with
    | [] => pure start
    | path :: _ => observe start path
  let filter ← IO.getEnv "RUST_LOG"
  match Program.settings d arguments with
  | .error _ => carryOn ⟨d, filter, day, [], .never⟩ arguments 0 none
  | .ok s =>
    let (d, device) ← observeAll d s day
    carryOn ⟨d, filter, day, [], .never⟩ arguments s.serial.settle device

end Main
end TelemetryLog

/-- Records what a device sends, with the settings in the file that the first argument names. -/
def main (arguments : List String) : IO UInt32 := TelemetryLog.Main.run arguments

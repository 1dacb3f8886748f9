import TelemetryLog.Csv.Reader
import TelemetryLog.Disk.Basic
import TelemetryLog.Event
import TelemetryLog.Fault
import TelemetryLog.Record
import TelemetryLog.Text.Quoted

/-!
# The log file

A log is a CSV file that only grows: a header row when it is made, and one row per record after
that.  An existing file is kept as it is; only its first row may be compared with the schema before
rows are added.

## What is here

* `LogFile` — a log that is open for appending.
* `LogFile.ensureHeader` — makes the file with its header if nothing is there.
* `LogFile.verifyHeader` — compares the first row of a file with the schema.
* `LogFile.start` — opens a log, making it and its directories if needed.
* `LogFile.append` — adds the row of a record.

An open log knows its file by number and not by path.  So a log goes on writing to its file when
another file takes the path, and two logs that were opened by two paths to one file add their rows
to the same contents.

## What is not here

Once a file is open, nothing about it can fail here.  The program writes a row, flushes it and waits
until it is on the medium, and hands on the error of each of these steps, and it does the same with
a header; a medium that is full or gone would end `append` or `ensureHeader` with an input or output
error, perhaps behind a part of the row.  There are no such faults in `Disk`, so `append` has no
failure at all, and `ensureHeader` fails only where the file cannot be made.  What is left of a row
when the process is stopped in the middle of a write is the subject of `Proofs.Log.Crash`, which
cuts the bytes of the file at any place.

The header is compared by reading the file back, with the rules of `Csv.header`.  That is why an
empty file counts as a header without names, and why it is not noticed that a header has no end of
line: the row that is added next is then glued to it (`Proofs.Log.Resume`).
-/

set_option autoImplicit false

namespace TelemetryLog

/-- What came of an operation on the disk: its result, the disk after it, and what it told. -/
structure Attempt (α : Type) where
  /-- The result, or why there is none. -/
  result : Except Fault α
  /-- The disk afterwards. -/
  disk : Disk
  /-- The events, in order. -/
  events : List Event

/-- A log that is open for appending. -/
structure LogFile where
  /-- The path it was opened by. -/
  path : String
  /-- Its columns. -/
  schema : Schema
  /-- The number of the file, which stays when its name is removed. -/
  number : Nat
  /-- The rows added since it was opened. -/
  rows : Nat
deriving DecidableEq, Repr

namespace LogFile

/-- An event of the log file. -/
def tell (severity : Severity) (text : String) : Event := ⟨severity, .sink, text⟩

/-- The bytes of the header row. -/
def headerRow (schema : Schema) : List UInt8 := Csv.encodeTexts schema.names

/-- Makes the file with its header if nothing is there; tells whether it did. -/
def ensureHeader (d : Disk) (path : String) (schema : Schema) : Attempt Bool :=
  match d.create path with
  | .ok (number, d) => ⟨.ok true, d.append number (headerRow schema), []⟩
  | .error .taken =>
    ⟨.ok false, d, [tell .debug ("Log file " ++ path ++ " exists, keeping its header")]⟩
  | .error e => ⟨.error (.file e), d, []⟩

/-- The texts of the fields of a row, or the first field that is not text. -/
def textsOf (index : Nat) : List (List UInt8) → Except CsvFault (List String)
  | [] => .ok []
  | f :: fs =>
    match Utf8.text? f with
    | none => .error (.notText index (Utf8.validLength f))
    | some s =>
      match textsOf (index + 1) fs with
      | .error e => .error e
      | .ok ss => .ok (s :: ss)

/-- Compares the first row of a file with the schema; a file without rows has no field. -/
def verifyHeader (d : Disk) (path : String) (schema : Schema) : Except Fault Unit :=
  match d.read path with
  | .error e => .error (.csv (.unreadable e))
  | .ok bs =>
    match textsOf 0 (Csv.header bs) with
    | .error e => .error (.csv e)
    | .ok found =>
      if found = schema.names then .ok ()
      else .error (.headerMismatch path schema.headerLine (",".intercalate found))

/-- Makes the directories that lead to a path. -/
def makeParents (d : Disk) (path : String) : Disk × Option Disk.Fault :=
  d.makeDirectories (Disk.Path.parentText path)

/-- Opens the file that is there for appending. -/
def attach (d : Disk) (path : String) (schema : Schema) (events : List Event) : Attempt LogFile :=
  match d.openAppend path with
  | .error e => ⟨.error (.file e), d, events⟩
  | .ok number => ⟨.ok ⟨path, schema, number, 0⟩, d, events⟩

/-- Opens a log that may be new, after its directories have been made. -/
def startIn (d : Disk) (path : String) (verify : Bool) (schema : Schema) : Attempt LogFile :=
  match ensureHeader d path schema with
  | ⟨.error e, d, events⟩ => ⟨.error e, d, events⟩
  | ⟨.ok true, d, events⟩ =>
    attach d path schema
      (events ++ [tell .info ("Created log file " ++ path ++ " with header")])
  | ⟨.ok false, d, events⟩ =>
    if verify then
      match verifyHeader d path schema with
      | .error e => ⟨.error e, d, events⟩
      | .ok () =>
        attach d path schema
          (events ++
            [tell .info ("Log file " ++ path ++ " exists with matching header, appending")])
    else
      attach d path schema
        (events ++
          [tell .warn ("Log file " ++ path ++ " exists, appending without checking its header")])

/-- Opens a log, making it and the directories that lead to it if needed. -/
def start (d : Disk) (path : String) (verify : Bool) (schema : Schema) : Attempt LogFile :=
  match makeParents d path with
  | (d, some e) => ⟨.error (.file e), d, []⟩
  | (d, none) => startIn d path verify schema

/-- The bytes of the row of a record. -/
def rowOf (r : Record) : List UInt8 := Csv.encodeTexts r.fields

/-- Adds the row of a record. -/
def append (f : LogFile) (d : Disk) (r : Record) : LogFile × Disk :=
  ({ f with rows := f.rows + 1 }, d.append f.number (rowOf r))

/-- A short description of the open log, for messages. -/
def describe (f : LogFile) : String :=
  "CsvSink \x7b path: " ++ Text.quoted f.path ++ ", rows_written: " ++ toString f.rows ++
    ", .. \x7d"

end LogFile
end TelemetryLog

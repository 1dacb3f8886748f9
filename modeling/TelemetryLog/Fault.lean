import TelemetryLog.Disk.Fault

/-!
# Why an operation fails

The causes that end a run or keep it from starting, and the one place that puts them into words.

A fault carries what its message tells and nothing else: the path, the port, the position in a
file.  Two faults are therefore equal just if they are of one kind and read the same, which is what
statements compare when they say that a call fails as another one does.

Texts that come from outside stay as they are: the cause of a failed read is whatever the system
said (`cannotRead`), and the reason of a file operation is a `Disk.Fault`, which spells the message
of the system for it.  Faults of settings are not among these.  They end the program before there
is anything to read or to write, and `Settings.Reading` and `Settings.Load` have their own.
-/

set_option autoImplicit false

namespace TelemetryLog

/-- What can be wrong with the serial link. -/
inductive SerialFault where
  /-- The port cannot be opened. -/
  | cannotOpen (port : String) (cause : Disk.Fault)
  /-- The stream of a device cannot be read. -/
  | cannotRead (device : String) (detail : String)
  /-- Whatever else a source of lines reports. -/
  | reported (detail : String)
deriving DecidableEq, Repr

/-- What can be wrong with a CSV file. -/
inductive CsvFault where
  /-- It cannot be read. -/
  | unreadable (cause : Disk.Fault)
  /-- A field of its first row is not text beyond this many bytes. -/
  | notText (field : Nat) (validBytes : Nat)
deriving DecidableEq, Repr

/-- Why an operation failed. -/
inductive Fault where
  /-- The serial link failed. -/
  | serial (cause : SerialFault)
  /-- The stream of the device has ended. -/
  | disconnected (device : String)
  /-- A CSV file cannot be understood. -/
  | csv (cause : CsvFault)
  /-- The header of a log is not that of the schema. -/
  | headerMismatch (path : String) (expected : String) (found : String)
  /-- A file operation failed. -/
  | file (cause : Disk.Fault)
deriving DecidableEq, Repr

namespace SerialFault

/-- The fault in words. -/
def message : SerialFault → String
  | .cannotOpen port cause => "Failed to open " ++ port ++ ": " ++ cause.reason
  | .cannotRead device detail => "Failed to read " ++ device ++ ": " ++ detail
  | .reported detail => detail

end SerialFault

namespace CsvFault

/-- Where a field stops being text. -/
def detail (field validBytes : Nat) : String :=
  "invalid utf-8: invalid UTF-8 in field " ++ toString field ++ " near byte index " ++
    toString validBytes

/-- The fault in words. -/
def message : CsvFault → String
  | .unreadable cause => cause.message
  | .notText field validBytes =>
    "CSV parse error: record 0 (line 1, field: " ++ toString field ++ ", byte: 0): " ++
      detail field validBytes

end CsvFault

namespace Fault

/-- The fault in words. -/
def message : Fault → String
  | .serial cause => "Serial error: " ++ cause.message
  | .disconnected device => "Device disconnected: " ++ device
  | .csv cause => "CSV error: " ++ cause.message
  | .headerMismatch path expected found =>
    "Header mismatch in " ++ path ++ ": expected `" ++ expected ++ "`, found `" ++ found ++ "`"
  | .file cause => "I/O error: " ++ cause.message

end Fault
end TelemetryLog

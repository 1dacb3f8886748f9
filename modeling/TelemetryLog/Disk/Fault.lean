/-!
# Why the operating system refuses

The causes that file operations can fail for, each with the system's wording and number.

Only causes that some operation of `Disk` reports are listed.  Messages show them as the system
words them, so they take part in what is compared when two runs are said to fail alike.  A cause
that only an open file can have, such as a full medium, is not among them.
-/

set_option autoImplicit false

namespace TelemetryLog
namespace Disk

/-- Why a file operation failed. -/
inductive Fault where
  /-- Nothing has this name. -/
  | missing
  /-- Something has this name already. -/
  | taken
  /-- A name in front of the last one is not a directory. -/
  | notDirectory
  /-- The name is a directory. -/
  | isDirectory
  /-- Somebody else has it to themselves. -/
  | busy
  /-- An argument cannot be used. -/
  | invalidArgument
  /-- The file is no terminal. -/
  | notTerminal
  /-- A name, or the whole path, is too long. -/
  | nameTooLong
  /-- The path holds a NUL, so that it cannot be handed to the system at all. -/
  | nulInPath
deriving DecidableEq, Repr

namespace Fault

/-- The cause in words. -/
def reason : Fault → String
  | .missing => "No such file or directory"
  | .taken => "File exists"
  | .notDirectory => "Not a directory"
  | .isDirectory => "Is a directory"
  | .busy => "Device or resource busy"
  | .invalidArgument => "Invalid argument"
  | .notTerminal => "Not a typewriter"
  | .nameTooLong => "File name too long"
  | .nulInPath => "file name contained an unexpected NUL byte"

/-- The system's number of the cause; a path with a NUL never gets to the system. -/
def number? : Fault → Option Nat
  | .missing => some 2
  | .busy => some 16
  | .taken => some 17
  | .notDirectory => some 20
  | .isDirectory => some 21
  | .invalidArgument => some 22
  | .notTerminal => some 25
  | .nameTooLong => some 36
  | .nulInPath => none

/-- The cause as messages show it. -/
def message (f : Fault) : String :=
  match f.number? with
  | some n => f.reason ++ " (os error " ++ toString n ++ ")"
  | none => f.reason

end Fault
end Disk
end TelemetryLog

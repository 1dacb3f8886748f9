import TelemetryLog.Disk.Basic
import TelemetryLog.Event
import TelemetryLog.Text.Utf8

/-!
# Transcripts

Events are printed one per line, and a copy of the lines can be kept in a file.  There is one file
per day; it is made with its directory when it is missing, and it only grows.

Control characters that could steer a terminal are printed as escapes.  A line feed inside an event
is not one of them, so the text of an event may still take several lines.

## What is here

* `Event.line` — the line of an event.
* `Transcript.start` — the file of a day, ready for more lines.

The time that stands in front of a printed line is put there by `Main`, and is not kept here.  The
file is that of the day on which the program begins: a run that goes on over midnight would begin
another file, and that is left out, as is the removal of old files, which is never asked for.
-/

set_option autoImplicit false

namespace TelemetryLog

/-- The two hexadecimal digits of a number below 256. -/
def hexPair (n : Nat) : List Char := [Nat.digitChar (n / 16), Nat.digitChar (n % 16)]

/-- The controls of the ASCII range that could steer a terminal. -/
def steersTerminal (c : Char) : Bool :=
  c = '\x1b' || c = '\x07' || c = '\x08' || c = '\x0c' || c = '\x7f'

/-- A character as it is printed. -/
def printed (c : Char) : List Char :=
  if steersTerminal c then '\\' :: 'x' :: hexPair c.toNat
  else if 0x80 ≤ c.toNat && c.toNat ≤ 0x9f then
    ['\\', 'u', '\x7b'] ++ hexPair c.toNat ++ ['\x7d']
  else [c]

/-- The line of an event. -/
def Event.line (e : Event) : String :=
  e.severity.label ++ " " ++ e.origin.target ++ ": " ++
    String.ofList (e.text.toList.flatMap printed)

namespace Transcript

/-- The name of the file of a day. -/
def fileName (day : String) : String := "motor-logger.log." ++ day

/-- The path of a file in a directory. -/
def join (directory name : String) : String :=
  if directory.isEmpty || directory.toList.getLast? = some '/' then directory ++ name
  else directory ++ "/" ++ name

/-- The number of the file at a path, which is made if nothing is there. -/
def openFile (d : Disk) (path : String) : Except Disk.Fault (Nat × Disk) :=
  match d.openAppend path with
  | .ok number => .ok (number, d)
  | .error .missing => d.create path
  | .error e => .error e

/-- The number of the file of a day in a directory, made with its directory if needed. -/
def start (d : Disk) (directory day : String) : Disk × Except Disk.Fault Nat :=
  let path := join directory (fileName day)
  match openFile d path with
  | .ok (number, d) => (d, .ok number)
  | .error _ =>
    match d.makeDirectories (Disk.Path.parentText path) with
    | (d, some e) => (d, .error e)
    | (d, none) =>
      match openFile d path with
      | .ok (number, d) => (d, .ok number)
      | .error e => (d, .error e)

/-- The bytes of lines in the file. -/
def bytesOf (lines : List String) : List UInt8 :=
  lines.flatMap fun line => Utf8.encode (line ++ "\n")

end Transcript
end TelemetryLog

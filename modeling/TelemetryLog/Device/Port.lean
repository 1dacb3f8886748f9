import TelemetryLog.Device.Channel
import TelemetryLog.Disk.Basic
import TelemetryLog.Settings.Basic

/-!
# Opening a serial port

A port is opened at a speed, and then left alone for a while, because boards restart when their port
is opened.

## What is here

* `durationText` — a time in seconds or milliseconds.
* `Opened`, `openPort` — the channel to a port, or why there is none.

The speed and the pause are only told: what the device gives is counted from the end of the pause,
and at a wrong speed it would give other bytes.  The lines about the terminal are those of the layer
below the serial link, which tells of its own work.
-/

set_option autoImplicit false

namespace TelemetryLog
namespace Device

/-- The digits of a number below 1000 as places after a point, without the zeros at the end. -/
def thousandths (n : Nat) : List Char :=
  let digits := Nat.toDigits 10 n
  let places := List.replicate (3 - digits.length) '0' ++ digits
  (places.reverse.dropWhile (· = '0')).reverse

/-- A time given in milliseconds: in seconds if there is at least one. -/
def durationText (ms : Nat) : String :=
  if ms < 1000 then toString ms ++ "ms"
  else if ms % 1000 = 0 then toString (ms / 1000) ++ "s"
  else toString (ms / 1000) ++ "." ++ String.ofList (thousandths (ms % 1000)) ++ "s"

/-- What came of opening a port. -/
structure Opened where
  /-- The channel, or why there is none. -/
  result : Except Fault Channel
  /-- What was told, in order. -/
  events : List Event

/-- An event of the serial link. -/
def tell (severity : Severity) (text : String) : Event := ⟨severity, .serial, text⟩

/-- The event when a terminal is about to be opened. -/
def terminalOpening : Event :=
  ⟨.debug, .terminal, "opening serial port in synchronous blocking mode"⟩

/-- The event when an open terminal is told not to block its reader. -/
def terminalOpened (port : String) : Event :=
  ⟨.debug, .terminal, "setting O_NONBLOCK for " ++ port⟩

/-- The port and its speed, as messages name them. -/
def portText (s : SerialSettings) : String := s.port ++ " at " ++ toString s.baudRate ++ " baud"

/-- The event for the pause after a port was opened. -/
def settleEvents (ms : Nat) : List Event :=
  if ms = 0 then []
  else [tell .debug ("Waiting " ++ durationText ms ++ " for the device to settle")]

/-- Opens a port that will give these arrivals. -/
def openPort (d : Disk) (s : SerialSettings) (arrivals : List Arrival) : Opened :=
  let opening := tell .debug ("Opening serial port " ++ portText s)
  match d.openTerminal s.port with
  | .error e => ⟨.error (.serial (.cannotOpen s.port e)), [opening, terminalOpening]⟩
  | .ok () =>
    ⟨.ok { name := s.port, timeout := s.readTimeout, arrivals := arrivals },
      opening :: terminalOpening :: terminalOpened s.port ::
        tell .info ("Connected to " ++ portText s) :: settleEvents s.settle⟩

end Device
end TelemetryLog

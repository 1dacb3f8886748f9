/-!
# Settings

What can be set: the serial link, the log file, and the diagnostic output.  Everything has a
default.  Settings are usable if they violate none of the rules in `Violation`; of several violated
rules the first one in that order is reported.

The last of the rules is about the level, which must spell a filter of events.  Which texts do is
decided by a library, not by the program, so the check has a parameter `isFilter` for it and nothing
is assumed of it.  `Settings.Load` says which one the program is run with here.

## What is here

* `Settings` — the settings, by section; without a value a setting has its default.
* `Violation`, `Settings.violation?` — the rules and the check.
-/

set_option autoImplicit false

namespace TelemetryLog

/-! ## Defaults -/

/-- The port, if none is named. -/
def defaultPort : String := "/dev/ttyUSB0"

/-- The speed of the link, if none is named. -/
def defaultRate : Nat := 115200

/-- The longest wait for a line, if none is named. -/
def defaultReadTimeout : Nat := 2000

/-- The pause after the link was opened, if none is named. -/
def defaultSettle : Nat := 2000

/-- The path of the log file, if none is named. -/
def defaultPath : String := "data_motor_training.csv"

/-- The filter of the events, if none is named. -/
def defaultLevel : String := "info"

/-! ## Sections -/

/-- The serial link. -/
structure SerialSettings where
  /-- The path of the device. -/
  port : String := defaultPort
  /-- The speed of the link. -/
  baudRate : Nat := defaultRate
  /-- The longest wait for a line, in milliseconds. -/
  readTimeout : Nat := defaultReadTimeout
  /-- The pause after the link was opened, in milliseconds. -/
  settle : Nat := defaultSettle
deriving DecidableEq, Repr

/-- The log file. -/
structure OutputSettings where
  /-- Its path. -/
  path : String := defaultPath
  /-- Must the header of an existing file be that of the schema? -/
  verifyHeader : Bool := false
deriving DecidableEq, Repr

/-- The diagnostic output. -/
structure LoggingSettings where
  /-- The filter of the events. -/
  level : String := defaultLevel
  /-- The directory for a copy of the output; none if empty. -/
  directory : String := ""
deriving DecidableEq, Repr

/-- All settings. -/
structure Settings where
  /-- The serial link. -/
  serial : SerialSettings := {}
  /-- The log file. -/
  output : OutputSettings := {}
  /-- The diagnostic output. -/
  logging : LoggingSettings := {}
deriving DecidableEq, Repr

/-! ## Rules -/

/-- A rule that settings violate. -/
inductive Violation where
  /-- There must be a port. -/
  | emptyPort
  /-- The speed must be one of the usual ones. -/
  | unusualRate (rate : Nat)
  /-- The wait for a line must be positive and at most a minute. -/
  | readTimeout
  /-- The pause must not be longer than ten seconds. -/
  | settle
  /-- There must be a path for the log file. -/
  | emptyPath
  /-- The level must spell a filter. -/
  | noFilter (level : String)
deriving DecidableEq, Repr

/-- The usual speeds of a serial link. -/
def usualRates : List Nat :=
  [1200, 2400, 4800, 9600, 19200, 38400, 57600, 115200, 230400, 460800, 921600]

namespace Violation

/-- The rule in words. -/
def message : Violation → String
  | .emptyPort => "serial port cannot be empty"
  | .unusualRate rate =>
    "baud_rate " ++ toString rate ++ " is not a standard rate (expected one of [" ++
      ", ".intercalate (usualRates.map toString) ++ "])"
  | .readTimeout => "read_timeout_ms must be between 1 and 60000"
  | .settle => "settle_ms must be at most 10000"
  | .emptyPath => "output path cannot be empty"
  | .noFilter level => "logging level " ++ "`" ++ level ++ "` is not a valid filter"

end Violation

/-- The first rule that the settings violate, where `isFilter` tells which levels spell a filter. -/
def Settings.violation? (isFilter : String → Bool) (s : Settings) : Option Violation :=
  if s.serial.port.isEmpty then some .emptyPort
  else if s.serial.baudRate ∉ usualRates then some (.unusualRate s.serial.baudRate)
  else if s.serial.readTimeout = 0 ∨ 60000 < s.serial.readTimeout then some .readTimeout
  else if 10000 < s.serial.settle then some .settle
  else if s.output.path.isEmpty then some .emptyPath
  else if !isFilter s.logging.level then some (.noFilter s.logging.level)
  else none

end TelemetryLog

/-!
# The columns of a log

A log is a table whose columns never change: `Schema` is the ordered list of their names.  The
order is part of the file's format, since a row carries its values by position only.

## What is here

* `Schema` — the names, in file order; a name may be empty and may occur more than once.
* `Schema.motor` — the 25 columns of the motor telemetry log.
* `Schema.index?` — the first column of a name.
* `Schema.headerLine` — the names joined by commas, for messages; the header row of a file is
  written by `Csv.encodeRow` instead, which quotes.

Nothing is asked of the names.  A schema without names, or whose first name begins with a byte order
mark, does not survive being written and read, so statements about reading a header back assume
`Schema.isReadable`, which is defined where it is first needed, in `Proofs.Log.ReadBack`.
-/

set_option autoImplicit false

namespace TelemetryLog

/-- The column names of a log, in file order. -/
structure Schema where
  /-- The names; repeats are allowed. -/
  names : List String
deriving DecidableEq, Repr

namespace Schema

/-- The columns of the motor telemetry log: electrical, temperature, dust, vibration, health and
time readings. -/
def motor : Schema :=
  ⟨["voltage", "current", "power", "energy", "frequency", "pf", "apparent_power", "load_index",
    "current_freq_ratio",
    "motor_temp", "ambient_temp", "bearing_temp", "delta_temp", "temp_gradient",
    "bearing_motor_diff", "hotspot",
    "dust", "soiling_loss",
    "vibration_rms_mm_s", "vibration_peak_g", "crest_factor", "unbalance",
    "bearing_health", "health_index",
    "timestamp"]⟩

/-- How many columns a row has. -/
def size (s : Schema) : Nat := s.names.length

/-- Does the schema have no column at all? -/
def isEmpty (s : Schema) : Bool := s.names.isEmpty

/-- The position of the first column of this name. -/
def index? (s : Schema) (name : String) : Option Nat := s.names.findIdx? (· == name)

/-- The names joined by commas, as messages show them. -/
def headerLine (s : Schema) : String := ",".intercalate s.names

end Schema

end TelemetryLog

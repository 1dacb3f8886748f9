import TelemetryLog.Disk.Basic
import TelemetryLog.Filter.Basic
import TelemetryLog.Settings.Reading
import TelemetryLog.Text.Utf8

/-!
# Settings files

Settings are loaded from a file that must hold UTF-8 text.  Here the check of the level, which is a
parameter of the readers, is that of the program: a level must spell a `Filter`.

## What is here

* `LoadFault` — why settings cannot be loaded.
* `Settings.isFilter`, `Settings.check` — the check of the level, and that of all settings with it.
* `Settings.load` — the settings in a file.
-/

set_option autoImplicit false

namespace TelemetryLog

/-- Why settings cannot be loaded. -/
inductive LoadFault where
  /-- The file cannot be read. -/
  | unreadable (cause : Disk.Fault)
  /-- The file is not text. -/
  | notText
  /-- The text gives no settings. -/
  | unusable (cause : SettingsFault)
deriving DecidableEq, Repr

namespace LoadFault

/-- What lies behind the fault, in words. -/
def detail : LoadFault → String
  | .unreadable cause => cause.message
  | .notText => "stream did not contain valid UTF-8"
  | .unusable cause => cause.message

/-- The fault in words. -/
def message (f : LoadFault) : String :=
  match f with
  | .unusable _ => "Configuration error: " ++ f.detail
  | _ => "I/O error: " ++ f.detail

end LoadFault

namespace Settings

/-- Does the level spell a filter?  A value of a field may be any text. -/
def isFilter (level : String) : Bool := (Filter.ofText? Filter.anyValue level).isSome

/-- The settings, if they violate no rule. -/
def check (s : Settings) : Except SettingsFault Settings := s.judge isFilter

/-- The settings in a text. -/
def loadText (text : String) : Except LoadFault Settings :=
  match ofText isFilter text with
  | .error e => .error (.unusable e)
  | .ok s => .ok s

/-- The settings in the file at a path. -/
def load (d : Disk) (path : String) : Except LoadFault Settings :=
  match d.read path with
  | .error e => .error (.unreadable e)
  | .ok bs =>
    match Utf8.text? bs with
    | none => .error .notText
    | some text => loadText text

end Settings
end TelemetryLog

import TelemetryLog.Decimal.Shortest
import TelemetryLog.Settings.Basic
import TelemetryLog.Text.Quoted
import TelemetryLog.Toml.Excerpt

/-!
# Reading settings from a document

A document sets what it names and leaves the rest at its default; a section that is missing and one
that is there without a key have their defaults from different places.  The members of a document
are read in the order in which they stand, and the first value of a wrong kind is reported.  Keys
that mean nothing are ignored.  A section may also be an array, whose elements are its settings in
order.

## What is here

* `Mismatch` — a value of a wrong kind.
* `Setting`, `readSection` — one setting, and a section of them.
* `SerialSettings.unset` and the like — what a section sets without any key.
* `Settings.ofDocument` — the settings of a document.
* `SettingsFault`, `Settings.ofText` — the settings of a text, and why there are none.

## The shape of the reader

A section is a list of `Setting`s, each a key with what its value does to the section, and the
sections of the document are themselves such a list.  So there is one function that goes over
members, `readMembers`, and it is used on both levels.  It follows the document and not the list of
settings, which is what makes the first mismatch the first one in the text; see
`Proofs.Settings.Texts` for what an unknown key can do to that.

A key cannot occur twice in a document that was parsed (`Toml.Distinct`), so nothing is said here of
the second of two values, although `readMembers` would let it win.

The texts of the complaints are part of what is read: they name what was found, quoted if it is a
text, and what was expected, with the size of an integer in bits.
-/

set_option autoImplicit false

namespace TelemetryLog

/-- What was found where something else was expected. -/
inductive Found where
  /-- A text. -/
  | text (s : String)
  /-- An integer. -/
  | integer (n : Int)
  /-- A floating point number. -/
  | float (x : Binary64)
  /-- A truth value. -/
  | boolean (b : Bool)
  /-- An array. -/
  | sequence
  /-- A table, a date or a time. -/
  | map
deriving DecidableEq, Repr

/-- What was expected. -/
inductive Expected where
  /-- A text. -/
  | text
  /-- A natural number of so many bits. -/
  | natural (bits : Nat)
  /-- A truth value. -/
  | boolean
  /-- A section of this name. -/
  | section (name : String)
deriving DecidableEq, Repr

/-- A value of a wrong kind. -/
structure Mismatch where
  /-- What was found. -/
  found : Found
  /-- What was expected. -/
  expected : Expected
  /-- Where it stands. -/
  place : Toml.Span
deriving DecidableEq, Repr

namespace Found

/-- What a value is found to be. -/
def ofValue : Toml.Value → Found
  | .text s => .text s
  | .integer n => .integer n
  | .float x => .float x
  | .boolean b => .boolean b
  | .moment _ => .map
  | .array .. => .sequence
  | .table .. => .map

/-- Code quoted in a message. -/
def code (s : String) : String := "`" ++ s ++ "`"

/-- The value in words. -/
def words : Found → String
  | .text s => "string " ++ Text.quoted s
  | .integer n => "integer " ++ code (toString n)
  | .float x => "floating point " ++ code x.text
  | .boolean b => "boolean " ++ code (toString b)
  | .sequence => "sequence"
  | .map => "map"

end Found

namespace Expected

/-- What was expected, in words. -/
def words : Expected → String
  | .text => "a string"
  | .natural bits => "u" ++ toString bits
  | .boolean => "a boolean"
  | .section name => "struct " ++ name

end Expected

namespace Mismatch

/-- Is the value of the right kind, but out of range? -/
def isRange (m : Mismatch) : Bool :=
  match m.found, m.expected with
  | .integer _, .natural _ => true
  | _, _ => false

/-- The mismatch in words. -/
def message (m : Mismatch) : String :=
  (if m.isRange then "invalid value: " else "invalid type: ") ++ m.found.words ++ ", expected " ++
    m.expected.words

end Mismatch

/-! ## Single values -/

/-- The mismatch of a value with what was expected. -/
def mismatch (e : Toml.Entry) (expected : Expected) : Mismatch := ⟨.ofValue e.2, expected, e.1⟩

/-- The text that a value is. -/
def readText (e : Toml.Entry) : Except Mismatch String :=
  match e.2 with
  | .text s => .ok s
  | _ => .error (mismatch e .text)

/-- The natural number of so many bits that a value is. -/
def readNatural (bits : Nat) (e : Toml.Entry) : Except Mismatch Nat :=
  match e.2 with
  | .integer n =>
    if 0 ≤ n && n < Nat.pow 2 bits then .ok n.toNat else .error (mismatch e (.natural bits))
  | _ => .error (mismatch e (.natural bits))

/-- The truth value that a value is. -/
def readBoolean (e : Toml.Entry) : Except Mismatch Bool :=
  match e.2 with
  | .boolean b => .ok b
  | _ => .error (mismatch e .boolean)

/-! ## Sections -/

/-- A setting in a section of type `σ`: its key, and what its value does to the section. -/
structure Setting (σ : Type) where
  /-- The key. -/
  key : String
  /-- The section with this value. -/
  read : Toml.Entry → σ → Except Mismatch σ

/-- A section with the settings that its members name, in the order of the members. -/
def readMembers {σ : Type} (settings : List (Setting σ)) : List Toml.Member → σ → Except Mismatch σ
  | [], s => .ok s
  | (k, e) :: ms, s =>
    match settings.find? fun f => f.key == k.name with
    | none => readMembers settings ms s
    | some f =>
      match f.read e s with
      | .error m => .error m
      | .ok s => readMembers settings ms s

/-- A section with its first settings in order. -/
def readElements {σ : Type} : List (Setting σ) → List Toml.Entry → σ → Except Mismatch σ
  | f :: fs, e :: es, s =>
    match f.read e s with
    | .error m => .error m
    | .ok s => readElements fs es s
  | _, _, s => .ok s

/-- A section that is there; what it does not set stays `unset`.  A date has no member that means
anything. -/
def readSection {σ : Type} (name : String) (settings : List (Setting σ)) (unset : σ)
    (e : Toml.Entry) : Except Mismatch σ :=
  match e.2 with
  | .table _ ms => readMembers settings ms unset
  | .array _ es => readElements settings es unset
  | .moment _ => .ok unset
  | _ => .error (mismatch e (.section name))

/-- The serial link as a section without any key sets it. -/
def SerialSettings.unset : SerialSettings :=
  ⟨defaultPort, defaultRate, defaultReadTimeout, defaultSettle⟩

/-- The log file as a section without any key sets it. -/
def OutputSettings.unset : OutputSettings := ⟨defaultPath, false⟩

/-- The diagnostic output as a section without any key sets it. -/
def LoggingSettings.unset : LoggingSettings := ⟨defaultLevel, ""⟩

/-- The settings of the serial link. -/
def serialSettings : List (Setting SerialSettings) :=
  [⟨"port", fun e s => (readText e).map fun v => { s with port := v }⟩,
    ⟨"baud_rate", fun e s => (readNatural 32 e).map fun v => { s with baudRate := v }⟩,
    ⟨"read_timeout_ms", fun e s => (readNatural 64 e).map fun v => { s with readTimeout := v }⟩,
    ⟨"settle_ms", fun e s => (readNatural 64 e).map fun v => { s with settle := v }⟩]

/-- The settings of the log file. -/
def outputSettings : List (Setting OutputSettings) :=
  [⟨"path", fun e s => (readText e).map fun v => { s with path := v }⟩,
    ⟨"verify_header", fun e s => (readBoolean e).map fun v => { s with verifyHeader := v }⟩]

/-- The settings of the diagnostic output. -/
def loggingSettings : List (Setting LoggingSettings) :=
  [⟨"level", fun e s => (readText e).map fun v => { s with level := v }⟩,
    ⟨"dir", fun e s => (readText e).map fun v => { s with directory := v }⟩]

/-- The sections. -/
def sections : List (Setting Settings) :=
  [⟨"serial", fun e s =>
      (readSection "SerialConfig" serialSettings .unset e).map fun v => { s with serial := v }⟩,
    ⟨"output", fun e s =>
      (readSection "OutputConfig" outputSettings .unset e).map fun v => { s with output := v }⟩,
    ⟨"logging", fun e s =>
      (readSection "LoggingConfig" loggingSettings .unset e).map fun v => { s with logging := v }⟩]

namespace Settings

/-- The settings of a document. -/
def ofDocument (ms : List Toml.Member) : Except Mismatch Settings := readMembers sections ms {}

end Settings

/-! ## Texts -/

/-- Why a text gives no usable settings. -/
inductive SettingsFault where
  /-- It is no document. -/
  | noDocument (cause : Toml.Mistake) (excerpt : Toml.Excerpt)
  /-- A value is of a wrong kind. -/
  | mismatch (cause : Mismatch) (excerpt : Toml.Excerpt)
  /-- The settings violate a rule. -/
  | violation (cause : Violation)
deriving DecidableEq, Repr

/-- The fault in words, each line with its end. -/
def SettingsFault.message : SettingsFault → String
  | .noDocument cause excerpt => excerpt.render ++ cause.reason ++ "\n"
  | .mismatch cause excerpt => excerpt.render ++ cause.message ++ "\n"
  | .violation cause => cause.message ++ "\n"

namespace Settings

/-- The settings, if they violate no rule. -/
def judge (isFilter : String → Bool) (s : Settings) : Except SettingsFault Settings :=
  match s.violation? isFilter with
  | some v => .error (.violation v)
  | none => .ok s

/-- The settings of a text. -/
def ofText (isFilter : String → Bool) (text : String) : Except SettingsFault Settings :=
  match Toml.parse? text.toList with
  | none =>
    let mistake := Toml.Mistake.inText text.toList
    .error (.noDocument mistake (.ofMistake text.toList mistake))
  | some ms =>
    match ofDocument ms with
    | .error m => .error (.mismatch m (.ofSpan text.toList m.place))
    | .ok s => s.judge isFilter

end Settings
end TelemetryLog

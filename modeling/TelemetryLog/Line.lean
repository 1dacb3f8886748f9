import TelemetryLog.Json.Reader
import TelemetryLog.Text.Blank

/-!
# Device lines

The sensor shares its serial link with boot banners and debug prints, and a line can be cut short
or glued to the next one.  `Line.read` sorts the lines: one that is not shaped like an object is
chatter, one that is shaped like an object but is none is malformed, and only the rest are
payloads.

## What is here

* `Payload` — the members of an object, in ascending order of their keys.
* `Line` — what a line turned out to be.
* `Line.read` — the judgement.

The shape is only about the first and the last character between blanks.  It is asked before the
line is read, so chatter costs nothing, and it separates what is silently skipped from what is told
of as malformed.
-/

set_option autoImplicit false

namespace TelemetryLog

/-- The object that a device line carries. -/
structure Payload where
  /-- Its members, in ascending order of their keys. -/
  members : List (String × Json)
deriving Repr

namespace Payload

/-- The value of a key. -/
def get? (p : Payload) (key : String) : Option Json := Json.find? key p.members

end Payload

/-- What a device line turned out to be. -/
inductive Line where
  /-- A JSON object. -/
  | payload (p : Payload)
  /-- Not shaped like an object: an empty line or other text. -/
  | chatter
  /-- Shaped like an object, but not one. -/
  | malformed
deriving Repr

namespace Line

/-- Does the text start with an opening brace and end with a closing one? -/
def isBraced (cs : List Char) : Bool :=
  cs.head? == some '\x7b' && cs.getLast? == some '\x7d'

/-- Judges a line without the blank characters around it. -/
def ofTrimmed (cs : List Char) : Line :=
  if isBraced cs then
    match Json.readObject? cs with
    | some members => .payload ⟨members⟩
    | none => .malformed
  else .chatter

/-- Judges a line. -/
def read (line : String) : Line := ofTrimmed (Text.trim line.toList)

/-- Does the line carry an object? -/
def isPayload : Line → Bool
  | .payload _ => true
  | _ => false

end Line
end TelemetryLog

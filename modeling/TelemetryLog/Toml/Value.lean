import TelemetryLog.Decimal.Binary64

/-!
# TOML values

The tree that a TOML document stands for.  Every value knows where it stands, so that messages can
point at it; a table that is only implied by a longer key stands where that key stands.

## What is here

* `Span` — a stretch of a document.
* `Value`, `Entry`, `Key`, `Member` — the tree.
* `find?`, `replace` — members by key.

Places are counted from the end of the document, because that is what a reader has at hand: the
characters that it has still to read.  `Toml.Excerpt` turns them into lines and columns.
-/

set_option autoImplicit false

namespace TelemetryLog
namespace Toml

/-- A stretch of a document, given by how many characters of the document are left at its start and
at its stop. -/
structure Span where
  /-- The characters from the start on. -/
  start : Nat
  /-- The characters from the stop on. -/
  stop : Nat
deriving DecidableEq, Repr

/-- One part of a key. -/
structure Key where
  /-- What it spells. -/
  name : String
  /-- Where it stands. -/
  span : Span
deriving DecidableEq, Repr

/-- How a table came about, which decides what may still be added to it. -/
inductive TableKind where
  /-- Written between braces: it is complete. -/
  | inline
  /-- By a header of its own. -/
  | headed
  /-- By a header for a table inside it. -/
  | implied
  /-- By a dotted key. -/
  | dotted
deriving DecidableEq, Repr

/-- A value. -/
inductive Value where
  /-- A text. -/
  | text (s : String)
  /-- An integer. -/
  | integer (n : Int)
  /-- A floating point number. -/
  | float (x : Binary64)
  /-- A truth value. -/
  | boolean (b : Bool)
  /-- A date, a time, or both, as it is written. -/
  | moment (s : String)
  /-- A sequence; one made by headers can still grow. -/
  | array (growing : Bool) (elements : List (Span × Value))
  /-- A table, its members in the order in which they came about. -/
  | table (kind : TableKind) (members : List (Key × Span × Value))
deriving Repr

/-- A value and where it stands. -/
abbrev Entry := Span × Value

/-- A key and its value. -/
abbrev Member := Key × Entry

/-- The value of a key. -/
def find? (name : String) : List Member → Option Entry
  | [] => none
  | (k, e) :: ms => if k.name = name then some e else find? name ms

/-- The members with another value for a key that is among them. -/
def replace (name : String) (e : Entry) : List Member → List Member
  | [] => []
  | (k, old) :: ms => if k.name = name then (k, e) :: ms else (k, old) :: replace name e ms

/-- The members without a key. -/
def erase (name : String) (ms : List Member) : List Member := ms.filter fun m => m.1.name != name

end Toml
end TelemetryLog

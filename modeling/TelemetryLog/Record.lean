import TelemetryLog.Line
import TelemetryLog.Schema

/-!
# Rows of a log

A `Record` holds a value, or nothing, for every column of a schema.  Members of a payload that no
column names are dropped, columns without a member stay empty, and no value is converted.

## What is here

* `Record.ofPayload` — the row of a payload.
* `fieldOf` — the text of a value in the file: nothing for an absent value and for `null`, a text
  as it is, every other value as JSON.
* `Record.fields` — the texts of a row in column order.
* `Record.fieldText` — the text of a column by name.

A name that occurs twice among the columns gets its value twice, and `fieldText` looks at the first
of them; since both have the same value it does not matter which (`Proofs.Recorder.Told`).
-/

set_option autoImplicit false

namespace TelemetryLog

/-- One row: a value, or nothing, for every column of its schema. -/
structure Record where
  /-- The columns. -/
  schema : Schema
  /-- The values in column order. -/
  values : List (Option Json)
  /-- There is one value per column. -/
  length_values : values.length = schema.names.length

/-- The text of a value in the file. -/
def fieldOf : Option Json → String
  | none => ""
  | some .null => ""
  | some (.text s) => s
  | some v => v.renderText

namespace Record

/-- The row of a payload. -/
def ofPayload (p : Payload) (schema : Schema) : Record :=
  ⟨schema, schema.names.map p.get?, by simp⟩

/-- How many columns the row has. -/
def size (r : Record) : Nat := r.values.length

/-- Has the row no column at all? -/
def isEmpty (r : Record) : Bool := r.values.isEmpty

/-- The value in the first column of this name. -/
def get? (r : Record) (name : String) : Option Json :=
  (r.schema.index? name).bind fun i => (r.values[i]?).join

/-- The text in the first column of this name; empty if there is no such column. -/
def fieldText (r : Record) (name : String) : String := fieldOf (r.get? name)

/-- The texts of the row in column order. -/
def fields (r : Record) : List String := r.values.map fieldOf

theorem length_fields (r : Record) : r.fields.length = r.schema.names.length := by
  simp [fields, r.length_values]

end Record
end TelemetryLog

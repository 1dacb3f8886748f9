import TelemetryLog.LogFile
import TelemetryLog.Proofs.Csv.RoundTrip

/-!
# What a log holds

A log that was made for a schema holds `logBytes`: its header row, and a row for each record.  Read
as CSV these are the names of the columns and the fields of the records (`rows_logBytes`), so the
header is found to be right whenever it is verified (`verifyHeader_of_read`).

A first name that starts with U+FEFF would be read without it, since a reader takes it for a byte
order mark.

This is about bytes only, and how they came into a file is not said here.  Fields are compared in
bytes as well: a text and its bytes determine each other (`Proofs.Text.Utf8`), and a reader of the
file that takes fields for texts gets the texts that were written.
-/

set_option autoImplicit false

namespace TelemetryLog

/-- The schema has columns, and a reader does not take its first name for a byte order mark. -/
def Schema.isReadable (s : Schema) : Prop :=
  s.names ≠ [] ∧ ∀ name ∈ s.names.head?, name.toList.head? ≠ some '\uFEFF'

theorem Schema.motor_isReadable : motor.isReadable :=
  ⟨by simp [motor], by simp [motor]⟩

namespace LogFile

variable {schema : Schema} {records : List Record}

/-- The bytes of a log with these records. -/
def logBytes (schema : Schema) (records : List Record) : List UInt8 :=
  headerRow schema ++ records.flatMap rowOf

/-- The rows of a log with these records, in bytes. -/
def logRows (schema : Schema) (records : List Record) : List (List (List UInt8)) :=
  schema.names.map Utf8.encode :: records.map fun r => r.fields.map Utf8.encode

theorem logBytes_eq (schema : Schema) (records : List Record) :
    logBytes schema records = (logRows schema records).flatMap Csv.encodeRow := by
  rw [logBytes, logRows, List.flatMap_cons, List.flatMap_map]
  rfl

/-- The row of a record has a field if its columns have one. -/
theorem map_fields_ne_nil {r : Record} (h : r.schema.names ≠ []) :
    r.fields.map Utf8.encode ≠ [] := by
  intro hnil
  have hlen := r.length_fields
  rw [List.map_eq_nil_iff.1 hnil] at hlen
  exact h (List.length_eq_zero_iff.1 hlen.symm)

theorem ne_nil_of_mem_logRows (hschema : schema.names ≠ [])
    (hrecords : ∀ r ∈ records, r.schema = schema) :
    ∀ fs ∈ logRows schema records, fs ≠ [] := by
  intro fs hfs
  rcases List.mem_cons.1 hfs with rfl | hfs
  · simpa using hschema
  · obtain ⟨r, hr, rfl⟩ := List.mem_map.1 hfs
    exact map_fields_ne_nil (by rw [hrecords r hr]; exact hschema)

/-- **A log reads back as the names of its columns and the fields of its records.** -/
theorem rows_logBytes (hschema : schema.isReadable) (hrecords : ∀ r ∈ records, r.schema = schema) :
    Csv.rows (logBytes schema records) = logRows schema records := by
  obtain ⟨hne, hmark⟩ := hschema
  rw [logBytes_eq]
  refine Csv.rows_flatMap_encodeRow (ne_nil_of_mem_logRows hne hrecords) ?_
  obtain ⟨name, names, hnames⟩ := List.exists_cons_of_ne_nil hne
  rw [← logBytes_eq, logBytes, headerRow, hnames]
  exact Csv.dropByteOrderMark_encodeTexts (hmark name (by rw [hnames]; rfl)) _ _

theorem textsOf_map_encode (index : Nat) (names : List String) :
    textsOf index (names.map Utf8.encode) = .ok names := by
  induction names generalizing index with
  | nil => rfl
  | cons n ns ih =>
    rw [List.map_cons, textsOf, Utf8.text?_encode]
    simp only [ih]

/-- Verification compares the names that the first row spells. -/
theorem verifyHeader_of_header {d : Disk} {path : String} {bs : List UInt8} {found : List String}
    (hread : d.read path = .ok bs) (h : Csv.header bs = found.map Utf8.encode) :
    verifyHeader d path schema =
      if found = schema.names then .ok ()
      else .error (.headerMismatch path schema.headerLine (",".intercalate found)) := by
  rw [verifyHeader, hread]
  simp only [h, textsOf_map_encode]

/-- The header of a log is the right one. -/
theorem verifyHeader_of_read (hschema : schema.isReadable)
    (hrecords : ∀ r ∈ records, r.schema = schema) {d : Disk} {path : String}
    (h : d.read path = .ok (logBytes schema records)) :
    verifyHeader d path schema = .ok () := by
  have hheader : Csv.header (logBytes schema records) = schema.names.map Utf8.encode := by
    rw [Csv.header, rows_logBytes hschema hrecords, logRows, List.headD_cons]
  rw [verifyHeader_of_header h hheader, if_pos rfl]

end LogFile
end TelemetryLog

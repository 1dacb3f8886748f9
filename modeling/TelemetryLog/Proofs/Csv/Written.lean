import TelemetryLog.Csv.Row
import TelemetryLog.Proofs.Text.Utf8

/-!
# What a CSV row is

`Csv.encodeTexts` writes a row.  What it is to write is said here without it, by what the bytes of
a row look like: `RowText row bs` relates the texts of a row to bytes that spell it.  Nothing of the
writer occurs in that relation, which names its bytes as numbers and takes the bytes of a text from
the core library; so a writer that leaves something out, or quotes in another way, does not satisfy
it.

* **A field** stands as it is, unless it holds a comma, a quote, a carriage return or a line feed.
  Such a field stands between quotes, and each quote in it is doubled (`QuotedText`, `FieldText`).
* **Fields** are separated by commas (`FieldsText`).
* **A row** ends with a carriage return and a line feed.  A row without fields, and one with one
  empty field, would be an empty line, which readers skip; both are a pair of quotes instead
  (`RowText`).
* **Several rows** follow each other with nothing in between (`RowsText`).

There is no choice in any of this, so each relation has just one solution for given texts, and that
is what the writer gives (`rowText_iff`, `rowsText_iff`).  Statements about files are made with the
relations, and proofs change over to the writer where they compute.

The converse, that a row has just one reading, is not part of this module: rows without fields and
rows with one empty field share their bytes.  What a reader makes of the bytes is said in
`Proofs.Csv.RoundTrip`.
-/

set_option autoImplicit false

namespace TelemetryLog
namespace Csv

/-! ## Fields -/

/-- A field between its quotes: the same bytes, but every quote is there twice. -/
inductive QuotedText : List UInt8 → List UInt8 → Prop
  /-- The end of the field. -/
  | nil : QuotedText [] []
  /-- A quote. -/
  | quote {field bs : List UInt8} (h : QuotedText field bs) :
    QuotedText (0x22 :: field) (0x22 :: 0x22 :: bs)
  /-- Any other byte. -/
  | other {b : UInt8} {field bs : List UInt8} (hb : b ≠ 0x22) (h : QuotedText field bs) :
    QuotedText (b :: field) (b :: bs)

/-- The field holds a comma, a quote, a carriage return or a line feed. -/
def NeedsQuotes (field : List UInt8) : Prop :=
  0x2C ∈ field ∨ 0x22 ∈ field ∨ 0x0D ∈ field ∨ 0x0A ∈ field

/-- A field in a row. -/
inductive FieldText (field : List UInt8) : List UInt8 → Prop
  /-- It stands as it is. -/
  | plain (h : ¬NeedsQuotes field) : FieldText field field
  /-- It stands between quotes. -/
  | quoted {bs : List UInt8} (h : NeedsQuotes field) (hbs : QuotedText field bs) :
    FieldText field (0x22 :: (bs ++ [0x22]))

variable {field bs more : List UInt8} {row : List String} {rows : List (List String)}

theorem quotedText_doubled (field : List UInt8) : QuotedText field (doubled field) := by
  induction field with
  | nil => exact .nil
  | cons b field ih =>
    by_cases hb : b = mark
    · subst hb
      exact .quote ih
    · rw [doubled_cons_of_ne hb]
      exact .other hb ih

theorem quotedText_iff : QuotedText field bs ↔ bs = doubled field := by
  constructor
  · intro h
    induction h with
    | nil => rfl
    | quote _ ih => exact ih ▸ (doubled_cons_mark _).symm
    | other hb _ ih => exact ih ▸ (doubled_cons_of_ne hb _).symm
  · rintro rfl
    exact quotedText_doubled field

theorem needsQuotes_iff : NeedsQuotes field ↔ field.any isSpecial = true := by
  simp only [NeedsQuotes, List.any_eq_true, isSpecial, isLineEnd, Bool.or_eq_true, beq_iff_eq]
  constructor
  · rintro (h | h | h | h)
    · exact ⟨_, h, .inl (.inl rfl)⟩
    · exact ⟨_, h, .inl (.inr rfl)⟩
    · exact ⟨_, h, .inr (.inl rfl)⟩
    · exact ⟨_, h, .inr (.inr rfl)⟩
  · rintro ⟨b, h, (rfl | rfl) | rfl | rfl⟩
    · exact .inl h
    · exact .inr (.inl h)
    · exact .inr (.inr (.inl h))
    · exact .inr (.inr (.inr h))

theorem fieldText_iff : FieldText field bs ↔ bs = encodeField field := by
  by_cases hquotes : NeedsQuotes field
  · rw [encodeField, if_pos (needsQuotes_iff.1 hquotes)]
    constructor
    · rintro (hplain | ⟨-, hbs⟩)
      · exact absurd hquotes hplain
      · rw [quotedText_iff.1 hbs, mark]
    · rintro rfl
      exact .quoted hquotes (quotedText_doubled field)
  · rw [encodeField, if_neg fun h => hquotes (needsQuotes_iff.2 h)]
    constructor
    · rintro (- | ⟨h, -⟩)
      · rfl
      · exact absurd h hquotes
    · rintro rfl
      exact .plain hquotes

/-! ## Rows -/

/-- The fields of a row, at least one. -/
inductive FieldsText : List String → List UInt8 → Prop
  /-- The last field. -/
  | last {text : String} {bs : List UInt8} (h : FieldText text.toUTF8.data.toList bs) :
    FieldsText [text] bs
  /-- A field that others follow. -/
  | more {text : String} {row : List String} {bs more : List UInt8}
    (h : FieldText text.toUTF8.data.toList bs) (hmore : FieldsText row more) :
    FieldsText (text :: row) (bs ++ 0x2C :: more)

/-- A row with its line end. -/
inductive RowText : List String → List UInt8 → Prop
  /-- A row that would be an empty line. -/
  | bare {row : List String} (h : row = [] ∨ row = [""]) : RowText row [0x22, 0x22, 0x0D, 0x0A]
  /-- Any other row. -/
  | fields {row : List String} {bs : List UInt8} (hrow : row ≠ [""]) (h : FieldsText row bs) :
    RowText row (bs ++ [0x0D, 0x0A])

/-- Rows, one after the other. -/
inductive RowsText : List (List String) → List UInt8 → Prop
  /-- No row. -/
  | nil : RowsText [] []
  /-- One more row in front. -/
  | cons {row : List String} {rows : List (List String)} {bs more : List UInt8}
    (h : RowText row bs) (hmore : RowsText rows more) : RowsText (row :: rows) (bs ++ more)

theorem toUTF8_eq_encode (text : String) : text.toUTF8.data.toList = Utf8.encode text := by
  rw [String.toUTF8, ← String.utf8Encode_toList, List.utf8Encode, List.data_toByteArray]
  rfl

theorem fieldsText_iff :
    FieldsText row bs ↔ row ≠ [] ∧ bs = encodeFields (row.map Utf8.encode) := by
  constructor
  · intro h
    induction h with
    | last h => exact ⟨by simp, by rw [fieldText_iff.1 h, toUTF8_eq_encode]; rfl⟩
    | @more text row bs more h _ ih =>
      obtain ⟨hrow, rfl⟩ := ih
      obtain ⟨next, row, rfl⟩ := List.exists_cons_of_ne_nil hrow
      exact ⟨by simp, by rw [fieldText_iff.1 h, toUTF8_eq_encode]; rfl⟩
  · rintro ⟨hrow, rfl⟩
    induction row with
    | nil => exact absurd rfl hrow
    | cons text row ih =>
      have hfield : FieldText text.toUTF8.data.toList (encodeField (Utf8.encode text)) :=
        fieldText_iff.2 (by rw [toUTF8_eq_encode])
      cases row with
      | nil => exact .last hfield
      | cons next row => exact .more hfield (ih (by simp))

theorem isBare_map_encode : isBare (row.map Utf8.encode) = true ↔ row = [] ∨ row = [""] := by
  rw [isBare, Bool.or_eq_true, beq_iff_eq, beq_iff_eq, List.map_eq_nil_iff]
  refine or_congr_right ⟨fun h => ?_, fun h => by rw [h]; rfl⟩
  obtain ⟨text, rfl, htext⟩ := List.map_eq_singleton_iff.1 h
  rw [Utf8.encode_injective (show Utf8.encode text = Utf8.encode "" from htext)]

/-- **The writer writes rows, and there is no other way to write them.** -/
theorem rowText_iff : RowText row bs ↔ bs = encodeTexts row := by
  rw [encodeTexts, encodeRow]
  by_cases hbare : row = [] ∨ row = [""]
  · rw [if_pos (isBare_map_encode.2 hbare)]
    constructor
    · rintro (- | ⟨hrow, h⟩)
      · rfl
      · exact absurd hbare (not_or.2 ⟨(fieldsText_iff.1 h).1, hrow⟩)
    · rintro rfl
      exact .bare hbare
  · rw [if_neg fun h => hbare (isBare_map_encode.1 h)]
    obtain ⟨hnil, hempty⟩ := not_or.1 hbare
    constructor
    · rintro (h | ⟨-, h⟩)
      · exact absurd h hbare
      · rw [(fieldsText_iff.1 h).2, cr, lf]
    · rintro rfl
      exact .fields hempty (fieldsText_iff.2 ⟨hnil, rfl⟩)

theorem rowsText_iff : RowsText rows bs ↔ bs = rows.flatMap encodeTexts := by
  constructor
  · intro h
    induction h with
    | nil => rfl
    | cons h _ ih => rw [rowText_iff.1 h, ih, List.flatMap_cons]
  · rintro rfl
    induction rows with
    | nil => exact .nil
    | cons row rows ih =>
      rw [List.flatMap_cons]
      exact .cons (rowText_iff.2 rfl) ih

/-- A comma and a quote in one field, a line end in another, and one empty field. -/
example : RowText ["1,\"2\"", "\r\n", ""]
    [0x22, 0x31, 0x2C, 0x22, 0x22, 0x32, 0x22, 0x22, 0x22, 0x2C, 0x22, 0x0D, 0x0A, 0x22, 0x2C,
      0x0D, 0x0A] :=
  rowText_iff.2 (by decide)

end Csv
end TelemetryLog

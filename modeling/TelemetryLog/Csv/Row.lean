import TelemetryLog.Text.Utf8

/-!
# Writing CSV

A field is written as it is unless it holds a comma, a quote or a character that ends a row; then
it is written between quotes, with its own quotes doubled.  Rows end in CR LF.  A row that would
look empty, because it has no field or one empty field, is written as one empty quoted field.

Everything is done in bytes.  The four bytes that matter do not occur inside longer UTF-8
characters, so quoting does not look at characters at all.

That this writer writes what a row is to look like, in terms that do not mention it, is the subject
of `Proofs.Csv.Written`; that a reader makes the fields of it again, of `Proofs.Csv.RoundTrip`.
-/

set_option autoImplicit false

namespace TelemetryLog
namespace Csv

/-- The comma between fields. -/
def comma : UInt8 := 0x2C

/-- The quote around a field. -/
def mark : UInt8 := 0x22

/-- Carriage return. -/
def cr : UInt8 := 0x0D

/-- Line feed. -/
def lf : UInt8 := 0x0A

/-- Does the byte end a row? -/
def isLineEnd (b : UInt8) : Bool := b == cr || b == lf

/-- Would the byte be misread in a field without quotes? -/
def isSpecial (b : UInt8) : Bool := b == comma || b == mark || isLineEnd b

/-- The bytes of a field between quotes: a quote is written twice. -/
def doubled (field : List UInt8) : List UInt8 :=
  field.flatMap fun b => if b = mark then [mark, mark] else [b]

theorem doubled_cons_mark (field : List UInt8) :
    doubled (mark :: field) = mark :: mark :: doubled field := rfl

theorem doubled_cons_of_ne {b : UInt8} (h : b ≠ mark) (field : List UInt8) :
    doubled (b :: field) = b :: doubled field := by
  rw [doubled, List.flatMap_cons, if_neg h]
  rfl

/-- A field as it is written. -/
def encodeField (field : List UInt8) : List UInt8 :=
  if field.any isSpecial then mark :: (doubled field ++ [mark]) else field

/-- Fields as they are written, separated by commas. -/
def encodeFields : List (List UInt8) → List UInt8
  | [] => []
  | [f] => encodeField f
  | f :: g :: more => encodeField f ++ comma :: encodeFields (g :: more)

/-- Would the row read as an empty line? -/
def isBare (fields : List (List UInt8)) : Bool := fields == [] || fields == [[]]

/-- A row as it is written, with its line end. -/
def encodeRow (fields : List (List UInt8)) : List UInt8 :=
  (if isBare fields then [mark, mark] else encodeFields fields) ++ [cr, lf]

/-- The row of some texts. -/
def encodeTexts (fields : List String) : List UInt8 := encodeRow (fields.map Utf8.encode)

end Csv
end TelemetryLog

import TelemetryLog.Csv.Row

/-!
# Reading CSV

A machine that takes a file one byte at a time.  Rows end at CR or LF, so CR LF ends one row and
the LF is an empty line; empty lines are skipped.  A quote opens a quoted field only at the start
of the field; inside, two quotes are one, and what follows the closing quote is taken as it is.
An unfinished row ends with the file.  One leading byte order mark is dropped.

Reading a file in two parts is reading it at once (`run_append`), which is what appending to a log
comes down to.

## What is here

* `State`, `step`, `run`, `finish` — the machine.
* `rows` — the rows of a file, and `header` — the first of them, none of its fields if there is no
  row.

The reader never refuses: every sequence of bytes has rows, and rows may have different numbers of
fields.  A reader that counts fields can only be stricter, so what is proved to be read here is what
such a reader accepts as well, as long as all rows have as many fields as there are columns.
-/

set_option autoImplicit false

namespace TelemetryLog
namespace Csv
namespace Reader

/-- Where in a row the machine stands. -/
inductive Mode where
  /-- Before a row. -/
  | rowStart
  /-- Before a field that follows a comma. -/
  | fieldStart
  /-- In a field outside quotes. -/
  | plain
  /-- Inside quotes. -/
  | quoted
  /-- After a quote inside quotes: the field ends there, or the quote stands for itself. -/
  | closing
deriving DecidableEq, Repr

/-- The machine's state; what has been read stands latest first. -/
structure State where
  /-- Where in the row. -/
  mode : Mode := .rowStart
  /-- The bytes of the field in progress. -/
  field : List UInt8 := []
  /-- The finished fields of the row in progress. -/
  fields : List (List UInt8) := []
  /-- The finished rows. -/
  rows : List (List (List UInt8)) := []
deriving DecidableEq, Repr

/-- Ends the field in progress. -/
def State.endField (s : State) : State :=
  { s with mode := .fieldStart, field := [], fields := s.field.reverse :: s.fields }

/-- Ends the row in progress with the field in progress. -/
def State.endRow (s : State) : State :=
  { mode := .rowStart, field := [], fields := []
    rows := (s.field.reverse :: s.fields).reverse :: s.rows }

/-- A byte outside quotes. -/
def State.plainByte (s : State) (b : UInt8) : State :=
  if b = comma then s.endField
  else if isLineEnd b then s.endRow
  else { s with mode := .plain, field := b :: s.field }

/-- The first byte of a field. -/
def State.firstByte (s : State) (b : UInt8) : State :=
  if b = mark then { s with mode := .quoted } else s.plainByte b

/-- Takes one byte. -/
def step (s : State) (b : UInt8) : State :=
  match s.mode with
  | .rowStart => if isLineEnd b then s else s.firstByte b
  | .fieldStart => s.firstByte b
  | .plain => s.plainByte b
  | .quoted =>
    if b = mark then { s with mode := .closing } else { s with field := b :: s.field }
  | .closing =>
    if b = mark then { s with mode := .quoted, field := b :: s.field } else s.plainByte b

/-- Takes the bytes in turn. -/
def run (s : State) (bs : List UInt8) : State := bs.foldl step s

/-- The rows when the file ends here: a row in progress ends with it. -/
def finish (s : State) : List (List (List UInt8)) :=
  match s.mode with
  | .rowStart => s.rows.reverse
  | _ => s.endRow.rows.reverse

/-- Reading in two parts is reading at once. -/
theorem run_append (s : State) (as bs : List UInt8) : run s (as ++ bs) = run (run s as) bs :=
  List.foldl_append

end Reader

/-- A file without its byte order mark. -/
def dropByteOrderMark : List UInt8 → List UInt8
  | 0xEF :: 0xBB :: 0xBF :: bs => bs
  | bs => bs

/-- The rows of a file. -/
def rows (bs : List UInt8) : List (List (List UInt8)) :=
  Reader.finish (Reader.run {} (dropByteOrderMark bs))

/-- The fields of the first row of a file; none if the file has no row. -/
def header (bs : List UInt8) : List (List UInt8) := (rows bs).headD []

end Csv
end TelemetryLog

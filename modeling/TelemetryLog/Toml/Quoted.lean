/-!
# Quoted texts of TOML

A text stands between quotation marks, with escapes, or between apostrophes, as it is.  Three marks
on either side enclose a text of several lines, which may hold up to two marks in a row, also right
before the closing ones.  A backslash at the end of a line leaves out the line end and all blank
characters after it.

## What is here

* `Delimiter` — what a text stands between.
* `Quoted`, `Quoted.step` — the reading of a text, one character at a time.
* `readQuoted?` — reads a text, quotation marks and all.

The four kinds of text are read by one machine, whose delimiter says what is special to it.  Marks
at the end are counted while they come and are only afterwards known to belong to the text or to
close it, so the machine keeps the number of marks it has just seen.
-/

set_option autoImplicit false

namespace TelemetryLog
namespace Toml

/-- What a text stands between. -/
structure Delimiter where
  /-- The quotation mark. -/
  mark : Char
  /-- Are there three of them, so that the text may have several lines? -/
  tripled : Bool
deriving DecidableEq, Repr

/-- Where in a text the reading is. -/
inductive Mode where
  /-- Between two characters. -/
  | plain
  /-- After so many quotation marks that may belong to the text or close it. -/
  | marks (count : Nat)
  /-- After a backslash. -/
  | escape
  /-- In the digits of a code: how many are missing, and the value so far. -/
  | code (missing : Nat) (value : Nat)
  /-- Behind a backslash, on the way to the end of the line. -/
  | lineTail
  /-- Behind a line end that is left out. -/
  | margin
deriving DecidableEq, Repr

/-- The reading of a text: its characters so far, the latest first, and where it is. -/
structure Quoted where
  /-- The characters so far, the latest first. -/
  read : List Char := []
  /-- Where in the text it is. -/
  mode : Mode := .plain
deriving DecidableEq, Repr

/-- What one character does to the reading. -/
inductive Progress where
  /-- The text goes on. -/
  | more (q : Quoted)
  /-- The character closes the text. -/
  | closed (text : List Char)
  /-- The text was closed before the character. -/
  | closedBefore (text : List Char)
  /-- The character may not stand here. -/
  | refused
deriving DecidableEq, Repr

/-- Space and tab. -/
def isBlank (c : Char) : Bool := c = ' ' || c = '\t'

/-- The characters that lines may hold: all but controls other than the tab. -/
def isPrintable (c : Char) : Bool := c = '\t' || (' ' ≤ c && c ≠ '\x7f')

/-- The character that a one-letter escape stands for. -/
def escaped? : Char → Option Char
  | 'b' => some '\x08'
  | 't' => some '\t'
  | 'n' => some '\n'
  | 'f' => some '\x0c'
  | 'r' => some '\r'
  | '"' => some '"'
  | '\\' => some '\\'
  | _ => none

/-- The value of a hexadecimal digit of either case. -/
def hexValue? (c : Char) : Option Nat :=
  if '0' ≤ c && c ≤ '9' then some (c.toNat - 48)
  else if 'a' ≤ c && c ≤ 'f' then some (c.toNat - 87)
  else if 'A' ≤ c && c ≤ 'F' then some (c.toNat - 55)
  else none

/-- The character with a code, if there is one. -/
def character? (code : Nat) : Option Char :=
  if code.isValidChar then some (Char.ofNat code) else none

namespace Quoted

/-- Adds quotation marks that belong to the text. -/
def addMarks (d : Delimiter) (read : List Char) (count : Nat) : List Char :=
  List.replicate count d.mark ++ read

/-- A character that follows no backslash and no pending mark. -/
def plainStep (d : Delimiter) (read : List Char) (c : Char) : Progress :=
  if c = d.mark then
    if d.tripled then .more ⟨read, .marks 1⟩ else .closed read.reverse
  else if c = '\\' && d.mark = '"' then .more ⟨read, .escape⟩
  else if isPrintable c || (d.tripled && c = '\n') then .more ⟨c :: read, .plain⟩
  else .refused

/-- A character after a backslash. -/
def escapeStep (d : Delimiter) (read : List Char) (c : Char) : Progress :=
  if d.tripled && isBlank c then .more ⟨read, .lineTail⟩
  else if d.tripled && c = '\n' then .more ⟨read, .margin⟩
  else if c = 'u' then .more ⟨read, .code 4 0⟩
  else if c = 'U' then .more ⟨read, .code 8 0⟩
  else
    match escaped? c with
    | some e => .more ⟨e :: read, .plain⟩
    | none => .refused

/-- A digit of a code. -/
def codeStep (read : List Char) (missing value : Nat) (c : Char) : Progress :=
  match hexValue? c with
  | none => .refused
  | some v =>
    if missing ≤ 1 then
      match character? (16 * value + v) with
      | some e => .more ⟨e :: read, .plain⟩
      | none => .refused
    else .more ⟨read, .code (missing - 1) (16 * value + v)⟩

/-- One character. -/
def step (d : Delimiter) (q : Quoted) (c : Char) : Progress :=
  match q.mode with
  | .plain => plainStep d q.read c
  | .marks count =>
    if c = d.mark then
      if count = 4 then .closed (addMarks d q.read 2).reverse
      else .more ⟨q.read, .marks (count + 1)⟩
    else if 3 ≤ count then .closedBefore (addMarks d q.read (count - 3)).reverse
    else plainStep d (addMarks d q.read count) c
  | .escape => escapeStep d q.read c
  | .code missing value => codeStep q.read missing value c
  | .lineTail =>
    if isBlank c then .more q else if c = '\n' then .more ⟨q.read, .margin⟩ else .refused
  | .margin => if isBlank c || c = '\n' then .more q else plainStep d q.read c

/-- The text, if the document may end here. -/
def atEnd? (d : Delimiter) (q : Quoted) : Option (List Char) :=
  match q.mode with
  | .marks count =>
    if 3 ≤ count then some (addMarks d q.read (count - 3)).reverse else none
  | _ => none

/-- Reads up to the end of the text; the text and what follows it. -/
def run (d : Delimiter) (q : Quoted) : List Char → Option (List Char × List Char)
  | [] => (q.atEnd? d).map fun text => (text, [])
  | c :: cs =>
    match q.step d c with
    | .more q => run d q cs
    | .closed text => some (text, cs)
    | .closedBefore text => some (text, c :: cs)
    | .refused => none

end Quoted

/-- The characters without a line end in front. -/
def dropLineEnd : List Char → List Char
  | '\n' :: cs => cs
  | cs => cs

/-- Reads a text that starts here, of several lines only where that is `allowed`; the text and what
follows it. -/
def readQuoted? (allowed : Bool) : List Char → Option (String × List Char)
  | [] => none
  | m :: cs =>
    if m = '"' || m = '\'' then
      let tripled := allowed && cs.take 2 == [m, m]
      (Quoted.run ⟨m, tripled⟩ {} (if tripled then dropLineEnd (cs.drop 2) else cs)).map
        fun (text, rest) => (String.ofList text, rest)
    else none

end Toml
end TelemetryLog

import TelemetryLog.Toml.Mistake

/-!
# Pointing at a place in a document

An `Excerpt` shows the line in which a value starts and underlines the value as far as it stands in
that line.

## What is here

* `Excerpt`, `Excerpt.ofSpan`, `Excerpt.ofMistake` — the line and what to underline.
* `Excerpt.render` — the picture: where it is, the line, and the marks under it.

Columns are counted in characters, and the width of what is underlined in bytes, so the marks reach
too far under text that is not ASCII.  Carriage returns and a byte order mark are not part of the
text in which places are counted, but they are part of the line that is shown.
-/

set_option autoImplicit false

namespace TelemetryLog
namespace Toml

/-- A line of a document and a place in it. -/
structure Excerpt where
  /-- The number of the line, from one. -/
  number : Nat
  /-- The line. -/
  line : String
  /-- The characters before the place. -/
  column : Nat
  /-- How many marks to set. -/
  width : Nat
deriving DecidableEq, Repr

namespace Excerpt

/-- The text up to where `n` of its characters have been passed, carriage returns not counted. -/
def upTo : Nat → List Char → List Char
  | _, [] => []
  | 0, _ :: _ => []
  | n + 1, c :: cs => if c = '\r' then c :: upTo (n + 1) cs else c :: upTo n cs

/-- The text up to where `left` characters are left after it, a byte order mark and carriage
returns not counted. -/
def before (text : List Char) (left : Nat) : List Char :=
  let body := dropMark text
  let mark := text.take (text.length - body.length)
  mark ++ upTo ((body.filter (· ≠ '\r')).length - left) body

/-- The end of a text after its last line feed. -/
def lastLine (cs : List Char) : List Char := (cs.reverse.takeWhile (· ≠ '\n')).reverse

/-- The size of a text in bytes. -/
def byteSize (cs : List Char) : Nat := (String.ofList cs).utf8ByteSize

/-- The line and the place in it where a stretch of a document starts. -/
def ofSpan (text : List Char) (span : Span) : Excerpt :=
  let start := before text span.start
  let column := (lastLine start).length
  let line := lastLine start ++ (text.drop start.length).takeWhile (· ≠ '\n')
  let width := byteSize (before text span.stop) - byteSize start
  ⟨start.count '\n' + 1, String.ofList line, column, max 1 (min width (byteSize line - column))⟩

/-- The place behind the last character of a text; a line end there counts to its line. -/
def atEnd (text : List Char) : Excerpt :=
  let start := text.dropLast
  let line := lastLine start ++ (text.drop start.length).takeWhile (· ≠ '\n')
  ⟨start.count '\n' + 1, String.ofList line, (lastLine start).length + 1, 1⟩

/-- The line and the character at which a text stops being a document. -/
def ofMistake (text : List Char) (m : Mistake) : Excerpt :=
  if m.left = 0 then atEnd text else ofSpan text ⟨m.left, m.left - 1⟩

/-- So many times the same character. -/
def run (n : Nat) (c : Char) : String := String.ofList (List.replicate n c)

/-- The picture of the place. -/
def render (e : Excerpt) : String :=
  let number := toString e.number
  let gutter := run (number.length + 1) ' ' ++ "|"
  "TOML parse error at line " ++ number ++ ", column " ++ toString (e.column + 1) ++ "\n" ++
    gutter ++ "\n" ++
    number ++ " | " ++ e.line ++ "\n" ++
    gutter ++ run (e.column + 1) ' ' ++ run e.width '^' ++ "\n"

end Excerpt
end Toml
end TelemetryLog

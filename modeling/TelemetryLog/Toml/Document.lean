import TelemetryLog.Toml.Scalar
import TelemetryLog.Toml.Table

/-!
# TOML documents

A document is a list of lines: blank ones, pairs of a key and a value, and headers, each of which
opens the table that the pairs after it go to.

## What is here

* `readKeyPath?`, `readValue?` — a key and a value.
* `Section`, `readSections?` — a header and the pairs under it.
* `parse?` — the members of the root table of a document, or nothing if it is no document.

A document is read in two steps.  First its lines are read into sections, which is a matter of
syntax alone.  Then the sections build the root table, one after the other, and this is where keys
that are given twice are refused.  So the order of the members of a table is that in which they came
about, which is also the order in which settings are read from them.

Arrays and inline tables hold values that are read by the same function one level down.  The depth
is a number that decreases, and there is a limit to it anyway; so the recursion is structural, with
the reader of the level below as a parameter.  Lists of elements and pairs have fuel for as many
rounds as there are characters, which is always enough, since every round takes one.

Only whether a text is a document is decided here.  What to say about one that is none is left to
`Toml.Mistake`.
-/

set_option autoImplicit false

namespace TelemetryLog
namespace Toml

/-! ## Between the values -/

/-- The text without the blank characters in front. -/
def skipBlank (cs : List Char) : List Char := cs.dropWhile isBlank

/-- The text without the comment in front, if there is one. -/
def skipComment : List Char → List Char
  | '#' :: cs => cs.dropWhile isPrintable
  | cs => cs

/-- What follows the line, if there is nothing else in it but a comment. -/
def lineEnd? (cs : List Char) : Option (List Char) :=
  match skipComment (skipBlank cs) with
  | [] => some []
  | '\n' :: rest => some rest
  | _ => none

/-- The text without the blank characters, line ends and comments in front; a comment must end in a
line end. -/
def skipFiller (inComment : Bool) : List Char → Option (List Char)
  | [] => if inComment then none else some []
  | c :: cs =>
    if c = '\n' then skipFiller false cs
    else if inComment then if isPrintable c then skipFiller true cs else none
    else if c = '#' then skipFiller true cs
    else if isBlank c then skipFiller false cs
    else some (c :: cs)

/-! ## Keys -/

/-- The characters of a key that is not quoted. -/
def isBareChar (c : Char) : Bool :=
  isDigit c || ('a' ≤ c && c ≤ 'z') || ('A' ≤ c && c ≤ 'Z') || c = '-' || c = '_'

/-- One part of a key, and what follows it. -/
def readKey? (cs : List Char) : Option (Key × List Char) :=
  match cs with
  | '"' :: _ | '\'' :: _ =>
    (readQuoted? false cs).map fun (name, rest) => (⟨name, ⟨cs.length, rest.length⟩⟩, rest)
  | _ =>
    let name := cs.takeWhile isBareChar
    let rest := cs.dropWhile isBareChar
    if name.isEmpty then none
    else some (⟨String.ofList name, ⟨cs.length, rest.length⟩⟩, rest)

/-- The most parts of a key, and the most levels of arrays and inline tables. -/
def maxDepth : Nat := 79

/-- A key of at most so many parts, and what follows it. -/
def readKeyPath? : Nat → List Char → Option (KeyPath × List Char)
  | 0, _ => none
  | parts + 1, cs =>
    match readKey? (skipBlank cs) with
    | none => none
    | some (k, rest) =>
      match skipBlank rest with
      | '.' :: rest =>
        (readKeyPath? parts rest).map fun (path, rest) => (⟨k :: path.tables, path.last⟩, rest)
      | rest => some (⟨[], k⟩, rest)

/-! ## Values -/

/-- A reader of one value. -/
abbrev ValueReader := List Char → Option (Entry × List Char)

/-- The elements of an array up to its closing bracket, after those that were read, the latest
first. -/
def readElements? (read : ValueReader) :
    Nat → List Entry → List Char → Option (List Entry × List Char)
  | 0, _, _ => none
  | fuel + 1, es, cs =>
    match skipFiller false cs with
    | none => none
    | some (']' :: rest) => some (es.reverse, rest)
    | some cs =>
      match read cs with
      | none => none
      | some (e, rest) =>
        match skipFiller false rest with
        | some (']' :: rest) => some ((e :: es).reverse, rest)
        | some (',' :: rest) => readElements? read fuel (e :: es) rest
        | _ => none

/-- A pair, and what follows its value. -/
def readPair? (read : ValueReader) (cs : List Char) : Option ((KeyPath × Entry) × List Char) :=
  match readKeyPath? maxDepth cs with
  | some (path, '=' :: rest) => (read (skipBlank rest)).map fun (e, rest) => ((path, e), rest)
  | _ => none

/-- The pairs of an inline table up to its closing brace, after those that were read, the latest
first. -/
def readPairs? (read : ValueReader) :
    Nat → List (KeyPath × Entry) → List Char → Option (List (KeyPath × Entry) × List Char)
  | 0, _, _ => none
  | fuel + 1, ps, cs =>
    match readPair? read cs with
    | none => none
    | some (p, rest) =>
      match skipBlank rest with
      | '\x7d' :: rest => some ((p :: ps).reverse, rest)
      | ',' :: rest => readPairs? read fuel (p :: ps) rest
      | _ => none

/-- The members of an inline table whose brace has been opened. -/
def readInline? (read : ValueReader) (cs : List Char) : Option (List Member × List Char) :=
  match skipBlank cs with
  | '\x7d' :: rest => some ([], rest)
  | cs =>
    (readPairs? read (cs.length + 1) [] cs).bind fun (ps, rest) =>
      (assignAll ps []).map fun ms => (ms, rest)

/-- A value that is neither an array nor an inline table. -/
def readSimple? (cs : List Char) : Option (Value × List Char) :=
  match cs with
  | '"' :: _ | '\'' :: _ => (readQuoted? true cs).map fun (s, rest) => (.text s, rest)
  | _ => (scalar? (token cs).1).map fun v => (v, (token cs).2)

/-- A value that starts at `cs` and leaves `rest`. -/
def located (cs : List Char) (v : Value) (rest : List Char) : Entry × List Char :=
  ((⟨cs.length, rest.length⟩, v), rest)

/-- A value with at most so many levels of arrays and inline tables. -/
def readValue? (levels : Nat) (cs : List Char) : Option (Entry × List Char) :=
  match cs, levels with
  | '[' :: _, 0 => none
  | '\x7b' :: _, 0 => none
  | '[' :: inner, levels + 1 =>
    (readElements? (readValue? levels) (inner.length + 1) [] inner).map fun (es, rest) =>
      located cs (.array false es) rest
  | '\x7b' :: inner, levels + 1 =>
    (readInline? (readValue? levels) inner).map fun (ms, rest) =>
      located cs (.table .inline ms) rest
  | _, _ => (readSimple? cs).map fun (v, rest) => located cs v rest

/-! ## Lines -/

/-- What opens a table. -/
structure Header where
  /-- The key of the table. -/
  path : KeyPath
  /-- Is it one more table of an array? -/
  isArray : Bool
  /-- Where it stands. -/
  span : Span

/-- A header and the pairs under it; the pairs before the first header have none. -/
structure Section where
  /-- The header. -/
  header : Option Header
  /-- The pairs. -/
  pairs : List (KeyPath × Entry)

/-- A header that starts at `cs`, and what follows it. -/
def readHeader? (cs : List Char) : Option (Header × List Char) :=
  match cs with
  | '[' :: '[' :: inner =>
    match readKeyPath? maxDepth inner with
    | some (path, ']' :: ']' :: rest) => some (⟨path, true, ⟨cs.length, rest.length⟩⟩, rest)
    | _ => none
  | '[' :: inner =>
    match readKeyPath? maxDepth inner with
    | some (path, ']' :: rest) => some (⟨path, false, ⟨cs.length, rest.length⟩⟩, rest)
    | _ => none
  | _ => none

/-- The section in progress, its pairs the latest first, and the finished ones, the latest first. -/
structure Sections where
  /-- The finished sections, the latest first. -/
  done : List Section := []
  /-- The header of the section in progress. -/
  header : Option Header := none
  /-- Its pairs, the latest first. -/
  pairs : List (KeyPath × Entry) := []

namespace Sections

/-- The finished sections and the one in progress, the latest first. -/
def close (s : Sections) : List Section := ⟨s.header, s.pairs.reverse⟩ :: s.done

/-- Opens a section. -/
def openSection (s : Sections) (h : Header) : Sections := ⟨s.close, some h, []⟩

/-- Adds a pair. -/
def addPair (s : Sections) (p : KeyPath × Entry) : Sections := { s with pairs := p :: s.pairs }

end Sections

/-- The sections of a document; the fuel bounds the number of its lines. -/
def readLines? : Nat → Sections → List Char → Option (List Section)
  | 0, _, _ => none
  | fuel + 1, s, cs =>
    match skipBlank cs with
    | [] => some s.close.reverse
    | c :: cs =>
      if c = '\n' || c = '#' then (lineEnd? (c :: cs)).bind fun rest => readLines? fuel s rest
      else if c = '[' then
        (readHeader? (c :: cs)).bind fun (h, rest) =>
          (lineEnd? rest).bind fun rest => readLines? fuel (s.openSection h) rest
      else
        (readPair? (readValue? maxDepth) (c :: cs)).bind fun (p, rest) =>
          (lineEnd? rest).bind fun rest => readLines? fuel (s.addPair p) rest

/-- The sections of a document. -/
def readSections? (cs : List Char) : Option (List Section) := readLines? (cs.length + 1) {} cs

/-! ## Documents -/

/-- Adds a section to the root table. -/
def addSection (root : List Member) (s : Section) : Option (List Member) :=
  match s.header with
  | none => assignAll s.pairs root
  | some h => if h.isArray then headArray h.path h.span s.pairs root
    else headTable h.path h.span s.pairs root

/-- The root table that sections build. -/
def addSections : List Section → List Member → Option (List Member)
  | [], root => some root
  | s :: rest, root => (addSection root s).bind (addSections rest)

/-- Does every carriage return belong to a line end? -/
def returnsPaired : List Char → Bool
  | [] => true
  | '\r' :: '\n' :: cs => returnsPaired cs
  | c :: cs => c ≠ '\r' && returnsPaired cs

/-- The text with line feeds for line ends; a carriage return outside a line end is refused. -/
def unifyLines? (cs : List Char) : Option (List Char) :=
  if returnsPaired cs then some (cs.filter (· ≠ '\r')) else none

/-- The text without the byte order mark in front, if there is one. -/
def dropMark : List Char → List Char
  | '\uFEFF' :: cs => cs
  | cs => cs

/-- The members of the root table of a document, or nothing if the text is no document. -/
def parse? (text : List Char) : Option (List Member) :=
  (unifyLines? (dropMark text)).bind fun cs =>
    (readSections? cs).bind fun sections => addSections sections []

end Toml
end TelemetryLog

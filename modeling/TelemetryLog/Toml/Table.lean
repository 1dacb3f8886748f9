import TelemetryLog.Toml.Value

/-!
# Growing tables

A document builds its tables piece by piece: by pairs, by headers, and by headers of arrays.  Each
piece either finds its place or is refused, because no key may be given twice and no table may be
opened twice.

## What is here

* `KeyPath` — a dotted key.
* `descend` — follows a path of keys, making the tables that are missing.
* `assign` — adds a pair; `headTable` and `headArray` — add the table under a header.

The three differ in what they do at the end of a path and not in how they get there, so `descend`
takes the change at the end as a parameter.  What a table may still be given depends on how it came
about, and that is kept with it as its `TableKind`: a table between braces is complete, one with a
header cannot be reached by a dotted key from elsewhere, and one that was only implied may still get
a header of its own.
-/

set_option autoImplicit false

namespace TelemetryLog
namespace Toml

/-- A dotted key: the keys of the tables that it leads through, and its last part. -/
structure KeyPath where
  /-- The tables it leads through. -/
  tables : List Key
  /-- The last part. -/
  last : Key
deriving DecidableEq, Repr

/-- A change to a table of some kind, which may be refused. -/
abbrev Change := TableKind → List Member → Option (List Member)

/-- Changes the table that a path leads to.  A dotted key makes `dotted` tables and leads only
through tables that have no header; a header makes `implied` tables and leads through all but inline
ones.  An array of tables stands for its last table. -/
def descend (dotted : Bool) (change : Change) : List Key → Change
  | [], kind, ms => change kind ms
  | k :: ks, _, ms =>
    match find? k.name ms with
    | none =>
      let kind := if dotted then TableKind.dotted else .implied
      (descend dotted change ks kind []).map fun inner => ms ++ [(k, k.span, .table kind inner)]
    | some (span, .table kind inner) =>
      if kind = .inline || (dotted && kind = .headed) then none
      else (descend dotted change ks kind inner).map fun inner =>
        replace k.name (span, .table kind inner) ms
    | some (span, .array true elements) =>
      match elements.getLast? with
      | some (place, .table kind inner) =>
        (descend dotted change ks kind inner).map fun inner =>
          replace k.name (span, .array true (elements.dropLast ++ [(place, .table kind inner)])) ms
      | _ => none
    | some _ => none

/-- Adds a member whose key is new. -/
def addNew (k : Key) (e : Entry) (ms : List Member) : Option (List Member) :=
  match find? k.name ms with
  | some _ => none
  | none => some (ms ++ [(k, e)])

/-- Adds the pair of a key and a value to a table.  A dotted key must end in a table that was made
by a dotted key. -/
def assign (path : KeyPath) (e : Entry) (ms : List Member) : Option (List Member) :=
  descend true
    (fun kind ms =>
      if !path.tables.isEmpty && kind != .dotted then none else addNew path.last e ms)
    path.tables .headed ms

/-- Adds pairs to a table, one after the other. -/
def assignAll : List (KeyPath × Entry) → List Member → Option (List Member)
  | [], ms => some ms
  | (path, e) :: rest, ms =>
    match assign path e ms with
    | none => none
    | some ms => assignAll rest ms

/-- The stretch from a header to the last of its pairs. -/
def sectionSpan (header : Span) (pairs : List (KeyPath × Entry)) : Span :=
  match pairs.getLast? with
  | some (_, span, _) => ⟨header.start, span.stop⟩
  | none => header

/-- Adds the table under a header.  A table that was only implied so far becomes that table and
moves to the end. -/
def headTable (path : KeyPath) (header : Span) (pairs : List (KeyPath × Entry))
    (root : List Member) : Option (List Member) :=
  descend false
    (fun _ ms =>
      let add (start : List Member) :=
        (assignAll pairs start).map fun inner =>
          erase path.last.name ms ++ [(path.last, sectionSpan header pairs, .table .headed inner)]
      match find? path.last.name ms with
      | none => add []
      | some (_, .table .implied start) => add start
      | some _ => none)
    path.tables .headed root

/-- The stretch from the first table of an array to its newest. -/
def arraySpan (elements : List Entry) (newest : Span) : Span :=
  match elements with
  | (first, _) :: _ => ⟨first.start, newest.stop⟩
  | [] => newest

/-- Adds the table under a header of an array. -/
def headArray (path : KeyPath) (header : Span) (pairs : List (KeyPath × Entry))
    (root : List Member) : Option (List Member) :=
  descend false
    (fun _ ms =>
      (assignAll pairs []).bind fun inner =>
        let span := sectionSpan header pairs
        let newest : Entry := (span, .table .headed inner)
        match find? path.last.name ms with
        | none => some (ms ++ [(path.last, span, .array true [newest])])
        | some (_, .array true elements) =>
          some (replace path.last.name
            (arraySpan elements span, .array true (elements ++ [newest])) ms)
        | some _ => none)
    path.tables .headed root

end Toml
end TelemetryLog

import TelemetryLog.Event
import TelemetryLog.Text.Alphanumeric
import TelemetryLog.Text.Blank

/-!
# Directives of a filter

A directive says down to which severity the events of some part of the program pass.  It is written
`target[span{field}]=level`, and everything but one of its parts may be missing.  A bare word is a
level if it spells one, else a target; a target without a level lets everything pass.

A directive is scanned without the blank characters around it, but its parts are cut from the text
with them, at the offsets of the scan in bytes; so blank characters in front become part of a
target.

A condition on a field may name a value, and a value that is neither a truth value nor a number is a
regular expression.  Which texts are regular expressions is not said here: the readers have a
parameter `isValue` for it, and they refuse a directive with a value that it does not take.  What a
value matches is left out, since nothing that this program tells has fields with values.

## What is here

* `Level`, `Level.ofText?` — the severities that pass.
* `FieldMatch`, `FieldMatch.ofText?` — a condition on a field and its reading.
* `Directive`, `Directive.ofText?` — a directive and its reading.
-/

set_option autoImplicit false

namespace TelemetryLog

/-- The severities that pass: all with at most this rank, none at all if it is zero. -/
structure Level where
  /-- The greatest rank that passes. -/
  rank : Nat
deriving DecidableEq, Repr

namespace Level

/-- Everything passes. -/
def all : Level := ⟨Severity.trace.rank⟩

/-- Only errors pass. -/
def errorsOnly : Level := ⟨Severity.error.rank⟩

/-- Do events of this severity pass? -/
def admits (l : Level) (s : Severity) : Bool := s.rank ≤ l.rank

/-- The levels by name. -/
def named : List (String × Level) :=
  [("off", ⟨0⟩), ("error", ⟨1⟩), ("warn", ⟨2⟩), ("info", ⟨3⟩), ("debug", ⟨4⟩), ("trace", ⟨5⟩)]

/-- The lower case of an ASCII letter. -/
def lower (c : Char) : Char :=
  if 'A' ≤ c && c ≤ 'Z' then Char.ofNat (c.toNat + 32) else c

/-- The number that decimal digits spell, with at most one plus sign in front. -/
def number? (cs : List Char) : Option Nat :=
  let ds := match cs with
    | '+' :: ds => ds
    | ds => ds
  if ds.isEmpty || ds.any fun c => c < '0' || '9' < c then none
  else some (ds.foldl (fun n c => n * 10 + (c.toNat - 48)) 0)

/-- The level that a number or a name spells. -/
def ofText? (cs : List Char) : Option Level :=
  match number? cs with
  | some n => if n ≤ 5 then some ⟨n⟩ else none
  | none => (named.find? fun entry => entry.1.toList == cs.map lower).map Prod.snd

end Level

/-- A condition on a field of an event. -/
structure FieldMatch where
  /-- The name that the field must have. -/
  name : String
  /-- Must it have some value, too? -/
  valued : Bool
deriving DecidableEq, Repr

namespace FieldMatch

/-- The value in the text of a condition: what stands behind its first equals sign, up to the next
one. -/
def value? (cs : List Char) : Option String :=
  match cs.dropWhile (· ≠ '=') with
  | [] => none
  | _ :: rest => some (String.ofList (rest.takeWhile (· ≠ '=')))

/-- The condition that a text spells: a name, or a name, an equals sign and a value that `isValue`
takes. -/
def ofText? (isValue : String → Bool) (cs : List Char) : Option FieldMatch :=
  if (value? cs).all isValue then
    some ⟨String.ofList (cs.takeWhile (· ≠ '=')), (value? cs).isSome⟩
  else none

end FieldMatch

/-- A rule of a filter. -/
structure Directive where
  /-- How the origin of an event must start. -/
  target : Option String := none
  /-- The activity in which an event must happen. -/
  span : Option String := none
  /-- The conditions on its fields. -/
  fields : List FieldMatch := []
  /-- What passes. -/
  level : Level := .all
deriving DecidableEq, Repr

namespace Directive

/-- The characters of a text from one byte offset up to another, after `offset` bytes. -/
def cut (start stop : Nat) (offset : Nat) : List Char → List Char
  | [] => []
  | c :: cs =>
    let rest := cut start stop (offset + c.utf8Size) cs
    if start ≤ offset && offset < stop then c :: rest else rest

/-- The characters of a text from a byte offset on. -/
def cutFrom (start : Nat) (cs : List Char) : List Char :=
  cut start (String.ofList cs).utf8ByteSize 0 cs

/-- The part of a directive in which the scan is, with the byte offset at which it starts. -/
inductive Part where
  /-- Nothing was read yet. -/
  | start
  /-- A word that is a level or a target. -/
  | word (offset : Nat)
  /-- The name of a span. -/
  | span (offset : Nat)
  /-- A field of a span. -/
  | field (offset : Nat)
  /-- Behind the fields. -/
  | afterFields
  /-- Behind the span. -/
  | afterSpan
  /-- The level. -/
  | level (offset : Nat)
deriving DecidableEq, Repr

/-- May a directive start with this character, if it does not start with a span? -/
def isFirst (c : Char) : Bool := c = '-' || c = ':' || c = '_' || Text.isAlphanumeric c

/-- Some text, or nothing if it is empty. -/
def nonEmpty? (cs : List Char) : Option String :=
  if cs.isEmpty then none else some (String.ofList cs)

/-- The scan of one character at byte offset `i` of the directive `whole`. -/
def step (isValue : String → Bool) (whole : List Char) (d : Directive) (part : Part) (i : Nat)
    (c : Char) : Option (Directive × Part) :=
  match part with
  | .start =>
    if c = '[' then some (d, .span (i + 1)) else if isFirst c then some (d, .word i) else none
  | .word offset =>
    if c = '=' then
      some ({ d with target := some (String.ofList (cut offset i 0 whole)) }, .level (i + 1))
    else if c = '[' then
      some ({ d with target := some (String.ofList (cut offset i 0 whole)) }, .span (i + 1))
    else some (d, part)
  | .span offset =>
    if c = ']' then
      some ({ d with span := some (String.ofList (cut offset i 0 whole)) }, .afterSpan)
    else if c = '\x7b' then
      some ({ d with span := nonEmpty? (cut offset i 0 whole) }, .field (i + 1))
    else some (d, part)
  | .field offset =>
    if c = '\x7d' then
      let text := cut offset i 0 whole
      if text.isEmpty then none
      else (FieldMatch.ofText? isValue text).map fun f =>
        ({ d with fields := d.fields ++ [f] }, .afterFields)
    else some (d, part)
  | .afterFields => if c = ']' then some (d, .afterSpan) else none
  | .afterSpan => if c = '=' then some (d, .level (i + 1)) else none
  | .level _ => some (d, part)

/-- The scan of the characters from byte offset `i` on. -/
def scan (isValue : String → Bool) (whole : List Char) (d : Directive) (part : Part) (i : Nat) :
    List Char → Option (Directive × Part)
  | [] => some (d, part)
  | c :: cs =>
    match step isValue whole d part i c with
    | none => none
    | some (d, part) => scan isValue whole d part (i + c.utf8Size) cs

/-- The directive after its last character. -/
def finish (whole : List Char) (d : Directive) : Part → Option Directive
  | .word offset =>
    let text := cutFrom offset whole
    match Level.ofText? text with
    | some l => some { d with level := l }
    | none => some { d with target := some (String.ofList text) }
  | .level offset =>
    let text := cutFrom offset whole
    if text.isEmpty then some d else (Level.ofText? text).map fun l => { d with level := l }
  | .afterSpan => some d
  | _ => none

/-- The directive that a text spells. -/
def ofText? (isValue : String → Bool) (whole : List Char) : Option Directive :=
  (scan isValue whole {} .start 0 (Text.trim whole)).bind fun (d, part) => finish whole d part

end Directive
end TelemetryLog

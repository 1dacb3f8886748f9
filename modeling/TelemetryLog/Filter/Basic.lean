import TelemetryLog.Filter.Directive

/-!
# Filters of events

A `Filter` is a list of directives, written with commas between them.  An event passes if the most
specific directive that speaks of it admits its severity: the one with the longest target, then the
one with the most fields, then the one whose fields come last in the dictionary, then the last one.
An event that no directive speaks of does not pass, and a filter without directives lets only
errors pass.

The events of this program happen in no span, and no value of a field matters, only its name.

Filters come from a library that is not part of the program, and this is what its documentation and
its answers show of it.  The one thing that is left out is which values of fields it refuses
because they are no regular expressions; the readers have the parameter `isValue` for that.
`Filter.anyValue` is the one that the program is run with here, which refuses none and therefore
agrees with the library on texts whose regular expressions are all well formed, and only on those.
Statements about settings do not depend on any of this, since they hold for every judgement of
levels.

## What is here

* `Filter`, `Filter.ofText?` — a filter and its reading.
* `Filter.admits` — does an event pass?
-/

set_option autoImplicit false

namespace TelemetryLog

/-- The rules that events must pass. -/
structure Filter where
  /-- The rules, in the order in which they were given. -/
  directives : List Directive
deriving DecidableEq, Repr

namespace Directive

/-- Does the directive speak of events that come from this part of the program? -/
def concerns (d : Directive) (o : Origin) : Bool :=
  d.span.isNone && d.fields.all (fun f => o.fields.contains f.name && !f.valued) &&
    match d.target with
    | none => true
    | some t => t.toList.isPrefixOf o.target.toList

/-- The length of the target; no target is shorter than an empty one. -/
def reach (d : Directive) : Nat :=
  match d.target with
  | none => 0
  | some t => t.utf8ByteSize + 1

/-- The names of the fields that the directive asks for. -/
def fieldNames (d : Directive) : List String := d.fields.map FieldMatch.name

/-- Does a directive that asks for these fields give way to a later one that asks for others? -/
def yieldsFields (names later : List String) : Bool :=
  names.length < later.length || (names.length == later.length && !decide (later < names))

/-- Does a directive give way to a later one? -/
def yields (d later : Directive) : Bool :=
  d.reach < later.reach || (d.reach == later.reach && yieldsFields d.fieldNames later.fieldNames)

end Directive

namespace Filter

/-- The pieces between commas, after the piece in progress, which stands latest first. -/
def pieces (piece : List Char) : List Char → List (List Char)
  | [] => [piece.reverse]
  | c :: cs => if c = ',' then piece.reverse :: pieces [] cs else pieces (c :: piece) cs

/-- The directives that texts spell, if every text spells one. -/
def directives? (isValue : String → Bool) : List (List Char) → Option (List Directive)
  | [] => some []
  | t :: ts =>
    (Directive.ofText? isValue t).bind fun d => (directives? isValue ts).map (d :: ·)

/-- The filter that a text spells; nothing may stand between two commas. -/
def ofText? (isValue : String → Bool) (s : String) : Option Filter :=
  (directives? isValue ((pieces [] s.toList).filter fun t => !t.isEmpty)).map Filter.mk

/-- The most specific directive for a part of the program, of those in a list and `best`. -/
def mostSpecific (o : Origin) (best : Option Directive) : List Directive → Option Directive
  | [] => best
  | d :: ds =>
    if d.concerns o && best.all (·.yields d) then mostSpecific o (some d) ds
    else mostSpecific o best ds

/-- Takes every value, as if every text were a regular expression. -/
def anyValue : String → Bool := fun _ => true

/-- What passes of the events of a part of the program. -/
def levelFor (f : Filter) (o : Origin) : Level :=
  if f.directives.isEmpty then .errorsOnly
  else
    match mostSpecific o none f.directives with
    | some d => d.level
    | none => ⟨0⟩

/-- Does the event pass? -/
def admits (f : Filter) (e : Event) : Bool := (f.levelFor e.origin).admits e.severity

end Filter
end TelemetryLog

/-!
# Number literals

A JSON number is kept as its digits, so no reading is ever rounded and no range is ever exceeded.
A `Number` holds the parts of a literal; `text` writes them back with the exponent spelled in one
way: a small `e` and always a sign.

## What is here

* `Number` — sign, whole digits, fraction digits and exponent of a literal.
* `Number.text` — the one spelling that is written.
* `Number.ofLiteral?` — the number of a literal, if the text is one.

Two literals of one value, such as `1.5` and `1.50`, are different numbers here, and a zero with a
minus is not the zero without it.  That is meant: what a sensor sent is logged as it was sent, and
the value of a literal (`Number.toRat`, in `Proofs.Json.Spelling`) is only needed to say that the
spelling of its exponent does not matter.
-/

set_option autoImplicit false

namespace TelemetryLog
namespace Json

/-- The exponent of a number literal. -/
structure Exponent where
  /-- Does a minus sign stand in front of it? -/
  negative : Bool
  /-- Its digits, leading zeros included. -/
  digits : List Char
deriving DecidableEq, Repr

/-- A JSON number, digit for digit. -/
structure Number where
  /-- Does a minus sign stand in front of it? -/
  negative : Bool
  /-- The digits before the point. -/
  whole : List Char
  /-- The digits after the point; none if there is no point. -/
  fraction : List Char
  /-- The exponent, if there is one. -/
  exponent : Option Exponent
deriving DecidableEq, Repr

namespace Exponent

/-- The exponent with a small `e` and a sign. -/
def text (e : Exponent) : List Char :=
  'e' :: (if e.negative then '-' else '+') :: e.digits

end Exponent

namespace Number

/-- The sign as it is written: nothing for a number without a minus. -/
def signText (n : Number) : List Char := if n.negative then ['-'] else []

/-- The fraction as it is written: nothing if there is no point. -/
def fractionText (n : Number) : List Char :=
  if n.fraction.isEmpty then [] else '.' :: n.fraction

/-- The exponent as it is written: nothing if there is none. -/
def exponentText (n : Number) : List Char :=
  match n.exponent with
  | none => []
  | some e => e.text

/-- The digits of the number as they were sent, with the exponent in its one spelling. -/
def text (n : Number) : List Char :=
  n.signText ++ (n.whole ++ (n.fractionText ++ n.exponentText))

/-- A minus sign at the front, and what follows it. -/
def takeSign : List Char → Bool × List Char
  | '-' :: cs => (true, cs)
  | cs => (false, cs)

/-- The digits at the front, and what follows them. -/
def takeDigits (cs : List Char) : List Char × List Char :=
  (cs.takeWhile Char.isDigit, cs.dropWhile Char.isDigit)

/-- May these digits stand before the point?  There is at least one, and a zero stands alone. -/
def isWhole (ds : List Char) : Bool :=
  match ds with
  | [] => false
  | d :: more => d != '0' || more.isEmpty

/-- The digits after a point, if a point is next; a point needs at least one digit. -/
def takeFraction? : List Char → Option (List Char × List Char)
  | '.' :: cs =>
    let (ds, rest) := takeDigits cs
    if ds.isEmpty then none else some (ds, rest)
  | cs => some ([], cs)

/-- The sign of an exponent, and what follows it. -/
def takeExponentSign : List Char → Bool × List Char
  | '-' :: cs => (true, cs)
  | '+' :: cs => (false, cs)
  | cs => (false, cs)

/-- The exponent after its letter; it needs at least one digit. -/
def exponentOf? (cs : List Char) : Option (Exponent × List Char) :=
  let (negative, cs) := takeExponentSign cs
  let (ds, rest) := takeDigits cs
  if ds.isEmpty then none else some (⟨negative, ds⟩, rest)

/-- The exponent, if its letter is next. -/
def takeExponent? : List Char → Option (Option Exponent × List Char)
  | [] => some (none, [])
  | c :: cs =>
    if c = 'e' ∨ c = 'E' then (exponentOf? cs).map fun p => (some p.1, p.2)
    else some (none, c :: cs)

/-- The number that the whole text spells, if it is a JSON number literal. -/
def ofLiteral? (cs : List Char) : Option Number :=
  let (negative, cs) := takeSign cs
  let (whole, cs) := takeDigits cs
  if isWhole whole then
    match takeFraction? cs with
    | none => none
    | some (fraction, cs) =>
      match takeExponent? cs with
      | some (exponent, []) => some ⟨negative, whole, fraction, exponent⟩
      | _ => none
  else none

end Number
end Json
end TelemetryLog

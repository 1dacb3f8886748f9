import TelemetryLog.Toml.Quoted
import TelemetryLog.Toml.Value

/-!
# Numbers, truth values, dates and times

Everything that is not quoted is read as one token: the longest run of letters, digits and the
characters `+ - _ . :`.  What may follow a value is none of these, so a token is judged as a whole.
Only a date and a time may stand apart, with one space between them.

## What is here

* `ungroup?` — digits with underscores between them.
* `integer?`, `float?`, `isMoment` — the three readings of a token that starts like a number.
* `scalar?` — the value of a token.

Integers are exact and must fit into 64 bits with a sign; a float is rounded to the nearest one, as
`Binary64.ofDecimal` says, because messages show the number and not its spelling.  Dates and times
are only checked.  No setting is a date, so they stay as they are written, and a date where a
setting is expected is a mismatch like any other.
-/

set_option autoImplicit false

namespace TelemetryLog
namespace Toml

/-- An ASCII digit. -/
def isDigit (c : Char) : Bool := '0' ≤ c && c ≤ '9'

/-- The characters of a token. -/
def isTokenChar (c : Char) : Bool :=
  isDigit c || ('a' ≤ c && c ≤ 'z') || ('A' ≤ c && c ≤ 'Z') ||
    c = '+' || c = '-' || c = '_' || c = '.' || c = ':'

/-! ## Digits -/

/-- The digits of a token in which single underscores stand between digits only; `after` tells
whether a digit comes right before. -/
def ungroup? (ok : Char → Bool) (after : Bool) : List Char → Option (List Char)
  | [] => if after then some [] else none
  | c :: cs =>
    if ok c then (ungroup? ok true cs).map (c :: ·)
    else if c = '_' && after then ungroup? ok false cs
    else none

/-- The number that digits spell in a base. -/
def valueIn (base : Nat) (ds : List Char) : Nat :=
  ds.foldl (fun n c => n * base + (hexValue? c).getD 0) 0

/-- The sign of a token, and the token without it. -/
def signed (cs : List Char) : Bool × List Char :=
  match cs with
  | '-' :: rest => (true, rest)
  | '+' :: rest => (false, rest)
  | _ => (false, cs)

/-- The decimal digits of a whole number, which has no needless zero in front. -/
def wholeDigits? (cs : List Char) : Option (List Char) :=
  match cs with
  | '0' :: _ :: _ => none
  | _ => ungroup? isDigit false cs

/-! ## Numbers -/

/-- The least integer. -/
def leastInteger : Int := -9223372036854775808

/-- The greatest integer. -/
def greatestInteger : Int := 9223372036854775807

/-- The integer, if it is in range. -/
def inRange? (n : Int) : Option Int :=
  if leastInteger ≤ n && n ≤ greatestInteger then some n else none

/-- The digits after a prefix for a base, if the token has one. -/
def based? : List Char → Option (Nat × List Char)
  | '0' :: 'x' :: cs => some (16, cs)
  | '0' :: 'o' :: cs => some (8, cs)
  | '0' :: 'b' :: cs => some (2, cs)
  | _ => none

/-- Is the character a digit in the base? -/
def isDigitIn (base : Nat) (c : Char) : Bool :=
  match hexValue? c with
  | some v => v < base
  | none => false

/-- The integer that a token spells. -/
def integer? (cs : List Char) : Option Int :=
  match based? cs with
  | some (base, ds) =>
    (ungroup? (isDigitIn base) false ds).bind fun ds => inRange? (valueIn base ds)
  | none =>
    let (negative, rest) := signed cs
    (wholeDigits? rest).bind fun ds =>
      inRange? (if negative then -(valueIn 10 ds : Int) else valueIn 10 ds)

/-- The parts of a float: whole digits, digits after the point, and exponent. -/
structure FloatParts where
  /-- The digits before the point. -/
  whole : List Char
  /-- The digits after the point. -/
  places : List Char
  /-- The exponent. -/
  exponent : Int

/-- The exponent that stands after the letter. -/
def exponent? (cs : List Char) : Option Int :=
  let (negative, rest) := signed cs
  (ungroup? isDigit false rest).map fun ds =>
    if negative then -(valueIn 10 ds : Int) else valueIn 10 ds

/-- Is the character the letter of an exponent? -/
def isExponentLetter (c : Char) : Bool := c = 'e' || c = 'E'

/-- The parts of a float without its sign; a point or an exponent must be there. -/
def floatParts? (cs : List Char) : Option FloatParts :=
  let mantissa := cs.takeWhile fun c => !isExponentLetter c
  let exponent := cs.dropWhile fun c => !isExponentLetter c
  let whole := mantissa.takeWhile (· ≠ '.')
  let places := mantissa.dropWhile (· ≠ '.')
  match wholeDigits? whole, places, exponent with
  | some w, [], _ :: e => (exponent? e).map fun e => ⟨w, [], e⟩
  | some w, _ :: p, [] => (ungroup? isDigit false p).map fun p => ⟨w, p, 0⟩
  | some w, _ :: p, _ :: e =>
    (ungroup? isDigit false p).bind fun p => (exponent? e).map fun e => ⟨w, p, e⟩
  | _, _, _ => none

/-- The number that the parts spell. -/
def FloatParts.value (negative : Bool) (p : FloatParts) : Binary64 :=
  .ofDecimal negative (valueIn 10 (p.whole ++ p.places)) (p.exponent - p.places.length)

/-- The float that a token spells; a finite one must not grow to positive infinity. -/
def float? (cs : List Char) : Option Binary64 :=
  let (negative, rest) := signed cs
  if rest = ['i', 'n', 'f'] then some (.infinite negative)
  else if rest = ['n', 'a', 'n'] then some .notNumber
  else
    match (floatParts? rest).map (FloatParts.value negative) with
    | some (.infinite false) => none
    | x => x

/-! ## Dates and times -/

/-- The number that two digits spell. -/
def pair? (a b : Char) : Option Nat :=
  if isDigit a && isDigit b then some (valueIn 10 [a, b]) else none

/-- Do two digits spell a number in this range? -/
def pairWithin (a b : Char) (low high : Nat) : Bool :=
  match pair? a b with
  | some n => low ≤ n && n ≤ high
  | none => false

/-- The number of days of a month. -/
def daysIn (year month : Nat) : Nat :=
  if month = 2 then
    if year % 4 = 0 && (year % 100 ≠ 0 || year % 400 = 0) then 29 else 28
  else if month = 4 || month = 6 || month = 9 || month = 11 then 30
  else 31

/-- What follows the date that the token starts with. -/
def afterDate? : List Char → Option (List Char)
  | y₁ :: y₂ :: y₃ :: y₄ :: '-' :: m₁ :: m₂ :: '-' :: d₁ :: d₂ :: rest =>
    match pair? y₁ y₂, pair? y₃ y₄, pair? m₁ m₂, pair? d₁ d₂ with
    | some c, some y, some m, some d =>
      if 1 ≤ m && m ≤ 12 && 1 ≤ d && d ≤ daysIn (c * 100 + y) m then some rest else none
    | _, _, _, _ => none
  | _ => none

/-- What follows the fraction of a second, if there is one. -/
def afterFraction : List Char → List Char
  | '.' :: d :: rest => if isDigit d then rest.dropWhile isDigit else '.' :: d :: rest
  | cs => cs

/-- What follows the time that the token starts with. -/
def afterTime? : List Char → Option (List Char)
  | h₁ :: h₂ :: ':' :: m₁ :: m₂ :: ':' :: s₁ :: s₂ :: rest =>
    if pairWithin h₁ h₂ 0 23 && pairWithin m₁ m₂ 0 59 && pairWithin s₁ s₂ 0 60 then
      some (afterFraction rest)
    else none
  | _ => none

/-- Is it the distance from universal time? -/
def isOffset : List Char → Bool
  | ['Z'] | ['z'] => true
  | [sign, h₁, h₂, ':', m₁, m₂] =>
    (sign = '+' || sign = '-') && pairWithin h₁ h₂ 0 23 && pairWithin m₁ m₂ 0 59
  | _ => false

/-- Is it a time that ends here, or that only its distance from universal time follows? -/
def isTimeTail (cs : List Char) : Bool :=
  match afterTime? cs with
  | some [] => true
  | some rest => isOffset rest
  | none => false

/-- Is the token a date, a time, or both? -/
def isMoment (cs : List Char) : Bool :=
  match afterDate? cs with
  | some [] => true
  | some (c :: rest) => (c = 'T' || c = 't' || c = ' ') && isTimeTail rest
  | none => afterTime? cs == some []

/-! ## Tokens -/

/-- The value of a token. -/
def scalar? (cs : List Char) : Option Value :=
  if cs = ['t', 'r', 'u', 'e'] then some (.boolean true)
  else if cs = ['f', 'a', 'l', 's', 'e'] then some (.boolean false)
  else if isMoment cs then some (.moment (String.ofList cs))
  else
    match integer? cs with
    | some n => some (.integer n)
    | none => (float? cs).map .float

/-- The token that starts here, and what follows it.  A date takes the time after it along. -/
def token (cs : List Char) : List Char × List Char :=
  let first := cs.takeWhile isTokenChar
  let rest := cs.dropWhile isTokenChar
  match afterDate? first, rest with
  | some [], ' ' :: d :: more =>
    if isDigit d then
      (first ++ ' ' :: (d :: more).takeWhile isTokenChar, (d :: more).dropWhile isTokenChar)
    else (first, rest)
  | _, _ => (first, rest)

end Toml
end TelemetryLog

/-!
# Binary floating point numbers of 64 bits

A finite number is `significand * 2 ^ exponent` with a significand below `2 ^ 53` and an exponent
of at least `-1074`.  `Binary64.ofDecimal` takes the number nearest to a decimal fraction, of two
equally near ones the one with the even significand.

## What is here

* `roundQuotient` — a quotient of natural numbers, rounded to the nearest one.
* `Binary64` and `Binary64.ofDecimal`.

All of it is done with natural numbers, so nothing is ever rounded twice.  Floating point numbers
occur in one place only: a setting that should be something else is shown as the number it is.  The
numbers in device lines are never converted (`Json.Number`).
-/

set_option autoImplicit false

namespace TelemetryLog

/-- The quotient `n / d` rounded to the nearest natural number, a tie to the even one. -/
def roundQuotient (n d : Nat) : Nat :=
  let q := n / d
  let r := n % d
  if 2 * r < d then q
  else if d < 2 * r then q + 1
  else if q % 2 = 0 then q else q + 1

/-- A floating point number. -/
inductive Binary64 where
  /-- The number `significand * 2 ^ exponent`, or its negative. -/
  | finite (negative : Bool) (significand : Nat) (exponent : Int)
  /-- An infinity. -/
  | infinite (negative : Bool)
  /-- No number. -/
  | notNumber
deriving DecidableEq, Repr

namespace Binary64

/-- The number of bits of a significand. -/
def precision : Nat := 53

/-- The least exponent. -/
def leastExponent : Int := -1074

/-- The exponent for the quotient `n / d`: the one that gives the significand all its bits, or the
least one. -/
def exponentFor (n d : Nat) : Int :=
  let e : Int := n.log2 - d.log2 - precision
  let e := if n.log2 < d.log2 + precision then
      if n * Nat.pow 2 (d.log2 + precision - n.log2) < d * Nat.pow 2 precision then e else e + 1
    else if n < d * Nat.pow 2 (n.log2 - d.log2) then e else e + 1
  max e leastExponent

/-- The significand of the quotient `n / d` at an exponent. -/
def significandFor (n d : Nat) (e : Int) : Nat :=
  if 0 ≤ e then roundQuotient n (d * Nat.pow 2 e.toNat)
  else roundQuotient (n * Nat.pow 2 (-e).toNat) d

/-- Is `m * 2 ^ e` beyond the largest finite number? -/
def overflows (m : Nat) (e : Int) : Bool :=
  0 ≤ e && Nat.pow 2 1024 ≤ m * Nat.pow 2 (min e.toNat 1024)

/-- The number `m * 2 ^ e`.  A significand that was rounded up to one bit too many is written with
the next exponent. -/
def ofRounded (negative : Bool) (m : Nat) (e : Int) : Binary64 :=
  if overflows m e then .infinite negative
  else if m = Nat.pow 2 precision then .finite negative (Nat.pow 2 (precision - 1)) (e + 1)
  else .finite negative m e

/-- The number nearest to the quotient `n / d`. -/
def ofQuotient (negative : Bool) (n d : Nat) : Binary64 :=
  let e := exponentFor n d
  ofRounded negative (significandFor n d e) e

/-- The number of decimal digits of a natural number; one for zero. -/
def digitCount (n : Nat) : Nat := (Nat.toDigits 10 n).length

/-- The number nearest to `digits * 10 ^ exponent`.  Magnitudes far out of range are settled
without computing the power. -/
def ofDecimal (negative : Bool) (digits : Nat) (exponent : Int) : Binary64 :=
  let magnitude : Int := digitCount digits + exponent
  if digits = 0 || magnitude < -330 then .finite negative 0 leastExponent
  else if 330 < magnitude then .infinite negative
  else if 0 ≤ exponent then ofQuotient negative (digits * Nat.pow 10 exponent.toNat) 1
  else ofQuotient negative digits (Nat.pow 10 (-exponent).toNat)

end Binary64
end TelemetryLog

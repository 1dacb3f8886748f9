import TelemetryLog.Decimal.Binary64

/-!
# The fewest digits that read back

A floating point number is printed with the fewest decimal digits that are nearer to it than to any
other floating point number; of those, with the digits nearest to it.

The numbers that round to `m * 2 ^ e` are those between the midpoints to its two neighbours,
midpoints included if `m` is even.  For one digit, two digits and so on, the two neighbours of the
number on that decimal grid are tried, in exact arithmetic.

## What is here

* `Rounding` — the range of numbers that round to a given one.
* `Decimal` — digits and the place of the point; `Binary64.shortest`.
* `Binary64.text` — the digits with a decimal point, without an exponent.
-/

set_option autoImplicit false

namespace TelemetryLog

/-- The number `digits * 10 ^ exponent`. -/
structure Decimal where
  /-- The digits, read as a natural number. -/
  digits : Nat
  /-- The power of ten. -/
  exponent : Int
deriving DecidableEq, Repr

namespace Decimal

/-- The text without an exponent: digits, a point, and at least one digit after it. -/
def text (d : Decimal) : String :=
  let ds := Nat.toDigits 10 d.digits
  let zeros (n : Nat) : List Char := List.replicate n '0'
  if 0 ≤ d.exponent then String.ofList (ds ++ zeros d.exponent.toNat ++ ['.', '0'])
  else
    let places := (-d.exponent).toNat
    if places < ds.length then
      String.ofList (ds.take (ds.length - places) ++ '.' :: ds.drop (ds.length - places))
    else String.ofList ('0' :: '.' :: zeros (places - ds.length) ++ ds)

end Decimal

/-- The range of numbers that round to a floating point number: the quotients between
`low / scale` and `high / scale`. -/
structure Rounding where
  /-- Four times the number itself. -/
  value : Nat
  /-- Four times the lower end. -/
  low : Nat
  /-- Four times the upper end. -/
  high : Nat
  /-- What all three are divided by. -/
  scale : Nat
  /-- Do the ends themselves round to the number? -/
  closed : Bool
deriving DecidableEq, Repr

namespace Rounding

/-- The range for `m * 2 ^ e`.  Below a power of two the next number is only half as far. -/
def of (m : Nat) (e : Int) : Rounding :=
  let up := Nat.pow 2 e.toNat
  let down := Nat.pow 2 (-e).toNat
  let gap := if m = Nat.pow 2 (Binary64.precision - 1) && Binary64.leastExponent < e then 1 else 2
  ⟨4 * m * up, (4 * m - gap) * up, (4 * m + 2) * up, 4 * down, m % 2 == 0⟩

/-- Is `n * 10 ^ e` in the range? -/
def contains (r : Rounding) (n : Nat) (e : Int) : Bool :=
  let x := n * Nat.pow 10 e.toNat * r.scale
  let s := Nat.pow 10 (-e).toNat
  if r.closed then r.low * s ≤ x && x ≤ r.high * s else r.low * s < x && x < r.high * s

/-- The greatest `n` for which `n * 10 ^ e` is not above the number. -/
def below (r : Rounding) (e : Int) : Nat :=
  r.value * Nat.pow 10 (-e).toNat / (r.scale * Nat.pow 10 e.toNat)

/-- Is `n + 1` at least as near to the number as `n` on the grid of `10 ^ e`? -/
def nearerAbove (r : Rounding) (n : Nat) (e : Int) : Bool :=
  2 * r.value * Nat.pow 10 (-e).toNat ≥ (2 * n + 1) * (r.scale * Nat.pow 10 e.toNat)

/-- The number on the grid of `10 ^ e` that rounds to the number, if there is one: the nearer one
if there are two. -/
def onGrid? (r : Rounding) (e : Int) : Option Decimal :=
  let n := r.below e
  match r.contains n e, r.contains (n + 1) e with
  | true, true => some ⟨if r.nearerAbove n e then n + 1 else n, e⟩
  | true, false => some ⟨n, e⟩
  | false, true => some ⟨n + 1, e⟩
  | false, false => none

/-- The first of the grids from `10 ^ e` down that has a number for it. -/
def search (r : Rounding) (e : Int) : Nat → Decimal
  | 0 => ⟨r.below e, e⟩
  | finer + 1 =>
    match r.onGrid? e with
    | some d => if d.digits = 0 then search r (e - 1) finer else d
    | none => search r (e - 1) finer

end Rounding

namespace Binary64

/-- The fewest digits for `m * 2 ^ e`, which is not zero. -/
def shortest (m : Nat) (e : Int) : Decimal :=
  let r := Rounding.of m e
  (r.search ((digitCount (r.value / r.scale) : Int) + 1) (digitCount (r.value / r.scale) + 345))

/-- The number with a decimal point and without an exponent. -/
def text : Binary64 → String
  | .notNumber => "NaN"
  | .infinite negative => if negative then "-inf" else "inf"
  | .finite negative m e =>
    let magnitude := if m = 0 then "0.0" else (shortest m e).text
    if negative then "-" ++ magnitude else magnitude

end Binary64
end TelemetryLog

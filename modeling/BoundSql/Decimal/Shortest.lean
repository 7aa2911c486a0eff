import BoundSql.Binary64
import BoundSql.Decimal.Digits

/-!
# Shortest decimals

The decimal with the fewest digits that still reads back as a given finite number, and
the nearest of those to the number itself. A decimal reads back if it lies in the
interval of reals that round to the number; the interval ends half way to the two
neighbours and contains its ends exactly if the significand is even. For each digit
count the two decimals of that length around the number are tried, in exact arithmetic,
so that every finite number has an answer of at most seventeen digits.
-/

namespace BoundSql.Decimal

/-- A positive number with the ends of the interval that rounds to it, as numerators
over one common denominator. -/
structure Interval where
  /-- Numerator of the lower end. -/
  lower : Nat
  /-- Numerator of the number itself. -/
  value : Nat
  /-- Numerator of the upper end. -/
  upper : Nat
  /-- The common denominator. -/
  denominator : Nat
  /-- The ends themselves round to the number. -/
  closed : Bool
deriving DecidableEq, Repr

namespace Interval

/-- The interval of reals that round to a finite number other than zero. Everything is
counted in quarters of the unit in the last place. -/
def of (x : Binary64) : Interval :=
  let quarters := x.scale - 2
  let up := Nat.pow 2 quarters.toNat
  let m := 4 * x.significand
  { lower := (m - if x.narrowBelow then 1 else 2) * up
    value := m * up
    upper := (m + 2) * up
    denominator := Nat.pow 2 (-quarters).toNat
    closed := x.significand % 2 == 0 }

/-- The exponent of the leading decimal digit of the number. -/
def order (i : Interval) : Int :=
  if i.denominator ≤ i.value then (digitCount (i.value / i.denominator) : Int) - 1
  else -(digitCount ((i.denominator + i.value - 1) / i.value - 1) : Int)

/-- The same interval in units of `10 ^ exponent`. -/
def inUnits (i : Interval) (exponent : Int) : Interval :=
  let up := Nat.pow 10 (-exponent).toNat
  { i with
    lower := i.lower * up
    value := i.value * up
    upper := i.upper * up
    denominator := i.denominator * Nat.pow 10 exponent.toNat }

/-- Whether a whole number of units lies in the interval. -/
def contains (i : Interval) (n : Nat) : Bool :=
  let point := n * i.denominator
  i.lower < point && point < i.upper ||
    i.closed && (point == i.lower || point == i.upper)

/-- The whole number of units in the interval that is nearest to the number, where of
two equally near ones the even one is taken. -/
def nearest? (i : Interval) : Option Nat :=
  let below := i.value / i.denominator
  let above := below + 1
  let toBelow := i.value - below * i.denominator
  let toAbove := above * i.denominator - i.value
  let belowFirst := toBelow < toAbove || toBelow == toAbove && below % 2 == 0
  match i.contains below, i.contains above with
  | true, true => some (if belowFirst then below else above)
  | true, false => some below
  | false, true => some above
  | false, false => none

/-- The nearest decimal of the given digit count, if one reads back. -/
def decimal? (i : Interval) (count : Nat) : Option Decimal :=
  let exponent := i.order + 1 - count
  (i.inUnits exponent).nearest?.map (⟨·, exponent⟩)

end Interval

/-- Digit counts that suffice for every finite number. -/
def digitCounts : List Nat := List.range' 1 17

/-- The shortest decimal that reads back as the magnitude of a finite number. -/
def shortest (x : Binary64) : Decimal :=
  if x.significand = 0 then ⟨0, 0⟩
  else ((digitCounts.findSome? (Interval.of x).decimal?).getD ⟨0, 0⟩).reduced

end BoundSql.Decimal

/-!
# Decimal digits

Digit counts, zero-padded numerals, and decimal numbers as digits with an exponent.
-/

namespace BoundSql

/-- The number of decimal digits of a natural number; zero has one. -/
def digitCount (n : Nat) : Nat :=
  if n < 10 then 1 else digitCount (n / 10) + 1

/-- A numeral with zeros in front until it has at least `width` digits. -/
def padded (width n : Nat) : String :=
  let numeral := toString n
  String.ofList (List.replicate (width - numeral.length) '0') ++ numeral

/-- The decimal number `digits · 10 ^ exponent`. -/
structure Decimal where
  /-- The significant digits, read as one natural number. -/
  digits : Nat
  /-- The power of ten they are multiplied by. -/
  exponent : Int
deriving DecidableEq, Repr

namespace Decimal

/-- The same number without trailing zeros among its digits. -/
def reduced (d : Decimal) : Decimal :=
  if d.digits = 0 then ⟨0, 0⟩
  else if d.digits % 10 = 0 then reduced ⟨d.digits / 10, d.exponent + 1⟩
  else d
termination_by d.digits
decreasing_by omega

/-- The exponent of the leading digit: `d.ddd · 10 ^ order`. -/
def order (d : Decimal) : Int := d.exponent + digitCount d.digits - 1

end Decimal

end BoundSql

/-!
# Binary floating-point numbers

A double-precision number is kept as its 64 bits. This module reads the bits: sign,
exponent and fraction fields, the special values, the exact magnitude
`significand · 2 ^ scale` of a finite number, and numeric equality, which differs from
equality of bits at zero and at the values that are not numbers.
-/

namespace BoundSql

/-- A double-precision number, given by its bits. -/
structure Binary64 where
  /-- Sign, eleven exponent bits and fifty-two fraction bits, most significant first. -/
  bits : UInt64
deriving DecidableEq, Repr

namespace Binary64

/-- The sign bit is set. -/
def isNegative (x : Binary64) : Bool := Nat.pow 2 63 ≤ x.bits.toNat

/-- The eleven exponent bits. -/
def exponentField (x : Binary64) : Nat := x.bits.toNat / Nat.pow 2 52 % Nat.pow 2 11

/-- The fifty-two fraction bits. -/
def fractionField (x : Binary64) : Nat := x.bits.toNat % Nat.pow 2 52

/-- Neither an infinity nor a value that is not a number. -/
def isFinite (x : Binary64) : Bool := x.exponentField != Nat.pow 2 11 - 1

/-- Not a number: all exponent bits set, and some fraction bit. -/
def isNaN (x : Binary64) : Bool := !x.isFinite && x.fractionField != 0

/-- One of the two zeros. -/
def isZero (x : Binary64) : Bool := x.exponentField == 0 && x.fractionField == 0

/-- The integer significand of a finite number, with the hidden bit of a normal one. -/
def significand (x : Binary64) : Nat :=
  if x.exponentField = 0 then x.fractionField else Nat.pow 2 52 + x.fractionField

/-- The power of two that scales the significand of a finite number. -/
def scale (x : Binary64) : Int :=
  if x.exponentField = 0 then -1074 else (x.exponentField : Int) - 1075

/-- The neighbour below is half as far away as the one above: a power of two whose
predecessor has a smaller exponent. -/
def narrowBelow (x : Binary64) : Bool := x.fractionField == 0 && 1 < x.exponentField

/-- Equality as numbers: the zeros are equal, and what is not a number equals nothing. -/
def agrees (x y : Binary64) : Bool :=
  !x.isNaN && !y.isNaN && (x == y || x.isZero && y.isZero)

end Binary64

end BoundSql

/-!
# Decimal numerals

A decimal numeral is a natural number of units of a power of ten. Reading one as a floating point
number rounds to the nearest, and numerals far outside the range are not expanded first.
-/

namespace DepGraph

/-- The value `digits * 10 ^ exponent`. -/
structure Decimal where
  /-- The digits, read as one number. -/
  digits : Nat
  /-- The power of ten that the last digit counts. -/
  exponent : Int
deriving DecidableEq, Repr

namespace Decimal

/-- The decimal digits of a number, highest first. -/
def digitChars (n : Nat) : List Char := Nat.toDigits 10 n

/-- How many decimal digits a number has. -/
def width (n : Nat) : Nat := (digitChars n).length

/-- The power of ten just above the value. -/
def magnitude (d : Decimal) : Int := width d.digits + d.exponent

/-- The nearest floating point number; beyond `10 ^ 310` it is infinite, below `10 ^ -330` zero. -/
def toFloat (d : Decimal) : Float :=
  if d.digits = 0 then 0.0
  else if d.magnitude > 310 then 1.0 / 0.0
  else if d.magnitude < -330 then 0.0
  else if d.exponent < 0 then Float.ofScientific d.digits true d.exponent.natAbs
  else Float.ofScientific d.digits false d.exponent.toNat

/-- The number that a list of decimal digits writes. -/
def ofDigits (cs : List Char) : Nat := cs.foldl (fun n c => n * 10 + (c.toNat - '0'.toNat)) 0

/-- The numeral with these digits before and after the point and this power of ten. -/
def ofParts (whole fraction : List Char) (exponent : Int) : Decimal where
  digits := ofDigits (whole ++ fraction)
  exponent := exponent - fraction.length

end Decimal

end DepGraph

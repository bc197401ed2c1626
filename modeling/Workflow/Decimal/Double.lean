namespace Workflow

/-!
# Double-precision numbers, exactly

A finite double is a sign and a whole number of units, the unit being the smallest positive double,
`2 ^ -1074`.  The whole number is a mantissa of at most 53 bits times a power of two, and the
mantissa uses all 53 bits unless the power is one.  That is the form in which every finite double
occurs exactly once, so that equality of the fields is equality of the numbers, up to the two zeros.

Arithmetic is on fractions of natural numbers and rounds once at the end, to the nearest double,
and to an even mantissa when two are equally near.
-/

/-- A finite double, `± mantissa * 2 ^ exponent` units of `2 ^ -1074`. -/
structure Double where
  negative : Bool
  mantissa : Nat
  exponent : Nat
  mantissa_lt : mantissa < Nat.pow 2 53
  normal : exponent = 0 ∨ Nat.pow 2 52 ≤ mantissa
  exponent_le : exponent ≤ 2045
  deriving DecidableEq

namespace Double

/-- The two zeros. -/
def zero (negative : Bool) : Double := ⟨negative, 0, 0, by decide, Or.inl rfl, by decide⟩

instance : Inhabited Double := ⟨zero false⟩

/-- The largest finite double of a sign. -/
def largest (negative : Bool) : Double :=
  ⟨negative, Nat.pow 2 53 - 1, 2045, by decide, Or.inr (by decide), by decide⟩

/-- The double of these parts, when they are within bounds. -/
def ofParts? (negative : Bool) (mantissa exponent : Nat) : Option Double :=
  if fits : mantissa < Nat.pow 2 53 ∧ (exponent = 0 ∨ Nat.pow 2 52 ≤ mantissa) ∧
      exponent ≤ 2045 then
    some ⟨negative, mantissa, exponent, fits.1, fits.2.1, fits.2.2⟩
  else none

/-- How many units there are in one. -/
def unitsPerOne : Nat := Nat.pow 2 1074

/-- The magnitude, in units. -/
def units (d : Double) : Nat := d.mantissa * Nat.pow 2 d.exponent

/-- The quotient rounded to the nearest whole number, and to the even one of two equally near. -/
def divideToEven (numerator denominator : Nat) : Nat :=
  let quotient := numerator / denominator
  let twiceRest := 2 * (numerator % denominator)
  if twiceRest < denominator then quotient
  else if denominator < twiceRest then quotient + 1
  else if quotient % 2 = 0 then quotient else quotient + 1

/-- The double nearest to a fraction, or none when the fraction is beyond the largest one. -/
def ofFraction? (negative : Bool) (numerator denominator : Nat) : Option Double :=
  let scaled := numerator * unitsPerOne
  let exponent := (scaled / denominator).log2 - 52
  let mantissa := divideToEven scaled (denominator * Nat.pow 2 exponent)
  if mantissa < Nat.pow 2 53 then ofParts? negative mantissa exponent
  else ofParts? negative (Nat.pow 2 52) (exponent + 1)

/-- The double nearest to a whole number; one beyond all doubles gives the largest. -/
def ofNat (n : Nat) : Double := (ofFraction? false n 1).getD (largest false)

/-- The double with the other sign. -/
def negate (d : Double) : Double := { d with negative := !d.negative }

/-- The double nearest to an integer. -/
def ofInt (i : Int) : Double := if i < 0 then (ofNat i.natAbs).negate else ofNat i.natAbs

/-- The rounded product of the magnitudes, with the sign of the first factor. -/
def scaleUp? (d factor : Double) : Option Double :=
  ofFraction? d.negative (d.units * factor.units) (unitsPerOne * unitsPerOne)

/-- The rounded quotient of the magnitudes, with the sign of the dividend. -/
def scaleDown? (d divisor : Double) : Option Double :=
  ofFraction? d.negative d.units divisor.units

/-- The numbers are equal; the two zeros are. -/
def equal (a b : Double) : Bool := a == b || (a.mantissa == 0 && b.mantissa == 0)

end Double

end Workflow

import Workflow.Decimal.Double

namespace Workflow

/-!
# Reading decimal literals

A literal is a sign, whole digits, fraction digits and a power of ten.  Its double is found in
steps: the first digits, as many as fit in 64 bits, make a whole number, which is rounded to a
double and then multiplied or divided by the power of ten that is left, with one more rounding.
The result can be off the nearest double by a unit in the last place.
-/

/-- A decimal literal as written. -/
structure Literal where
  negative : Bool
  whole : List Char
  fraction : List Char
  exponent : Int
  /-- Only whole digits were written: no point and no exponent. -/
  integral : Bool

namespace Literal

/-- The digit's number; characters that are no digits count as zero. -/
def digitValue (c : Char) : Nat := c.toNat - '0'.toNat

/-- The number that a run of digits writes. -/
def numberOf (digits : List Char) : Nat :=
  digits.foldl (fun n c => 10 * n + digitValue c) 0

/-- The digits kept so far, the power of ten they are to be multiplied by, and whether a digit has
been left out. -/
structure Significand where
  kept : Nat
  scale : Int
  full : Bool

/-- One more whole digit: a digit left out still multiplies by ten. -/
def Significand.whole (s : Significand) (c : Char) : Significand :=
  let next := 10 * s.kept + digitValue c
  if !s.full && next < Nat.pow 2 64 then { s with kept := next }
  else { s with scale := s.scale + 1, full := true }

/-- One more fraction digit: a digit kept divides by ten. -/
def Significand.fraction (s : Significand) (c : Char) : Significand :=
  let next := 10 * s.kept + digitValue c
  if !s.full && next < Nat.pow 2 64 then { s with kept := next, scale := s.scale - 1 }
  else { s with full := true }

/-- The leading digits as one number with its power of ten. -/
def significand (l : Literal) : Significand :=
  let afterWhole := l.whole.foldl Significand.whole ⟨0, 0, false⟩
  let afterFraction := l.fraction.foldl Significand.fraction { afterWhole with full := false }
  { afterFraction with scale := afterFraction.scale + l.exponent }

/-- The double nearest to a power of ten. -/
def powerOfTen (k : Nat) : Double := Double.ofNat (Nat.pow 10 k)

/-- Division by a power of ten, in steps of at most 308 places, until nothing is left. -/
def divideByPower (d : Double) (places : Nat) : Double :=
  if places ≤ 308 then (d.scaleDown? (powerOfTen places)).getD d
  else if d.mantissa = 0 then d
  else divideByPower ((d.scaleDown? (powerOfTen 308)).getD d) (places - 308)
termination_by places
decreasing_by omega

/-- The double of a literal; none when it is beyond all doubles. -/
def toDouble? (l : Literal) : Option Double :=
  let s := l.significand
  let kept := { Double.ofNat s.kept with negative := l.negative }
  if s.scale < 0 then some (divideByPower kept s.scale.natAbs)
  else if s.kept = 0 then some kept
  else if s.scale ≤ 308 then kept.scaleUp? (powerOfTen s.scale.toNat)
  else none

end Literal

end Workflow

import Workflow.Decimal.Double

namespace Workflow.Double

/-!
# The shortest decimal text of a double

A decimal stands for a double when it lies in the interval of numbers that round to the double.
For one, two, up to seventeen digits the two neighbours of the double among the decimals with that
many digits are tried; the first count with a hit is taken, and the nearer neighbour if both hit.

The text is positional from `1e-5` up to below `1e16`, with at least one digit on each side of the
point, and otherwise has one digit before the point, no point after a lone digit, and an exponent
with its sign.
-/

/-- A decimal `0.d₁d₂…dₙ * 10 ^ point`, its digits as one whole number. -/
structure Decimal where
  digits : Nat
  count : Nat
  point : Int

/-- The least `k` with `value < 10 ^ k`, for the value of a fraction no smaller than `10 ^ -330`.
Below one it is found as the first power of ten that lifts the fraction to one or more. -/
def decimalPoint (numerator denominator : Nat) : Int :=
  if denominator ≤ numerator then
    (Nat.toDigits 10 (numerator / denominator)).length
  else
    match (List.range 330).find? fun k => denominator ≤ numerator * Nat.pow 10 (k + 1) with
    | some k => Int.neg k
    | none => 0

/-- The ends of the interval of numbers that round to the double, in quarters of the unit.  Below a
power of two the doubles are twice as close, so there the lower half gap is smaller. -/
def roundingBounds (d : Double) : Nat × Nat :=
  let gap := Nat.pow 2 d.exponent
  let below := if d.mantissa = Nat.pow 2 52 ∧ 0 < d.exponent then gap else 2 * gap
  (4 * d.units - below, 4 * d.units + 2 * gap)

/-- The decimal with so many digits that stands for the double and is nearest to it, if any does.
Magnitudes are in quarters of the unit, and all are multiplied by `up` over `down` to make the last
decimal place one. -/
def decimalOf? (d : Double) (point : Int) (count : Nat) : Option Decimal :=
  let shift : Int := count - point
  let up := if 0 ≤ shift then Nat.pow 10 shift.toNat else 1
  let down := unitsPerOne * 4 * (if 0 ≤ shift then 1 else Nat.pow 10 (-shift).toNat)
  let value := 4 * d.units * up
  let (low, high) := d.roundingBounds
  let inside (n : Nat) : Bool :=
    if d.mantissa % 2 = 0 then low * up ≤ n * down && n * down ≤ high * up
    else low * up < n * down && n * down < high * up
  let floor := value / down
  let nearer :=
    if 2 * (value % down) < down then floor
    else if down < 2 * (value % down) then floor + 1
    else if floor % 2 = 0 then floor else floor + 1
  let farther := if nearer = floor then floor + 1 else floor
  if inside nearer then some ⟨nearer, count, point⟩
  else if inside farther then some ⟨farther, count, point⟩
  else none

/-- The decimal with the fewest digits that stands for a double other than zero. -/
def shortestDecimal (d : Double) : Decimal :=
  let point := decimalPoint d.units unitsPerOne
  ((List.range 17).findSome? fun n => decimalOf? d point (n + 1)).getD ⟨0, 1, 0⟩

/-- The digits of a decimal without zeros at the end, and the place of its point. -/
def Decimal.significant (decimal : Decimal) : List Char × Int :=
  let digits := Nat.toDigits 10 decimal.digits
  let point := decimal.point + (digits.length - decimal.count : Int)
  let stripped := (digits.reverse.dropWhile (· == '0')).reverse
  (if stripped.isEmpty then ['0'] else stripped, point)

/-- A decimal with its point at its place. -/
def positional (digits : List Char) (point : Int) : List Char :=
  if point ≤ 0 then
    '0' :: '.' :: (List.replicate (-point).toNat '0' ++ digits)
  else
    let whole := digits.take point.toNat
    let padding := List.replicate (point.toNat - digits.length) '0'
    let fraction := digits.drop point.toNat
    whole ++ padding ++ '.' :: (if fraction.isEmpty then ['0'] else fraction)

/-- A decimal with one digit before the point, and an exponent. -/
def scientific (digits : List Char) (point : Int) : List Char :=
  let exponent := point - 1
  let sign := if exponent < 0 then '-' else '+'
  let fraction := digits.drop 1
  digits.take 1 ++ (if fraction.isEmpty then [] else '.' :: fraction) ++
    'e' :: sign :: Nat.toDigits 10 exponent.natAbs

/-- The shortest text that reads back as the double. -/
def toText (d : Double) : String :=
  let magnitude :=
    if d.mantissa = 0 then ['0', '.', '0']
    else
      let (digits, point) := d.shortestDecimal.significant
      if -4 ≤ point ∧ point ≤ 16 then positional digits point else scientific digits point
  String.ofList (if d.negative then '-' :: magnitude else magnitude)

end Workflow.Double

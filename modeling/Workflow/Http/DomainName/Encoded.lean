namespace Workflow.Http.DomainName

/-!
# Labels encoded in ASCII

A label of any characters can be written in ASCII: its ASCII characters, a dash if there are any,
and then numbers that say which other characters stand where.  A number is written in digits of base
36, the lowest first; how high a digit must be for another one to follow changes with what has been
read, so that labels stay short.  The numbers say how far to go on, through the places of the text
and then through the code points.
-/

/-- The value of a digit: letters come before decimal digits. -/
def digitValue? (c : Char) : Option Nat :=
  if 'a' ≤ c ∧ c ≤ 'z' then some (c.toNat - 'a'.toNat)
  else if '0' ≤ c ∧ c ≤ '9' then some (c.toNat - '0'.toNat + 26)
  else none

/-- A digit from which on another one follows, by the position of the digit. -/
def threshold (position bias : Nat) : Nat := min 26 (max 1 (position - bias))

/-- How often a number can be divided by 35 until it is at most 455, and what it is then. -/
def reduced (n : Nat) : Nat × Nat :=
  if 455 < n then
    let (times, rest) := reduced (n / 35)
    (times + 1, rest)
  else (0, n)
termination_by n
decreasing_by omega

/-- The bias after a number; the first one is damped. -/
def adapted (distance count : Nat) (isFirst : Bool) : Nat :=
  let damped := if isFirst then distance / 700 else distance / 2
  let (times, rest) := reduced (damped + damped / count)
  36 * times + 36 * rest / (rest + 38)

/-- How far the reading of a label has come. -/
structure Decoding where
  text : List Char
  /-- The code point that has been reached. -/
  code : Nat
  /-- The place in the text that was reached by the numbers before. -/
  start : Nat
  /-- The place with what has been read of a number. -/
  reached : Nat
  /-- What the next digit counts. -/
  weight : Nat
  position : Nat
  bias : Nat

namespace Decoding

/-- The reading of a label with these ASCII characters. -/
def ofText (text : List Char) : Decoding := ⟨text, 128, 0, 0, 1, 36, 72⟩

/-- Numbers are kept in 32 bits. -/
def bound : Nat := Nat.pow 2 32

/-- Puts a character where a number says. -/
def insert? (d : Decoding) (number : Nat) : Option Decoding :=
  let count := d.text.length + 1
  let code := d.code + number / count
  let place := number % count
  if code.isValidChar then
    some ⟨d.text.insertIdx place (Char.ofNat code), code, place + 1, place + 1, 1, 36,
      adapted (number - d.start) count (d.start == 0)⟩
  else none

/-- Takes the next digit. -/
def take? (d : Decoding) (c : Char) : Option Decoding := do
  let digit ← digitValue? c
  let number := d.reached + digit * d.weight
  let limit := threshold d.position d.bias
  let weight := d.weight * (36 - limit)
  if bound ≤ number then none
  else if digit < limit then d.insert? number
  else if bound ≤ weight then none
  else return { d with reached := number, weight := weight, position := d.position + 36 }

/-- The text, if no number is left unfinished. -/
def text? (d : Decoding) : Option (List Char) := if d.position = 36 then some d.text else none

end Decoding

/-- The text of an encoded label. -/
def decode? (label : List Char) : Option (List Char) :=
  let digits := (label.reverse.takeWhile (· ≠ '-')).reverse
  let ascii := label.take (label.length - digits.length - 1)
  let numbers := if ascii.isEmpty then label else digits
  (numbers.foldlM Decoding.take? (.ofText ascii)).bind Decoding.text?

end Workflow.Http.DomainName

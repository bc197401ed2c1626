namespace Workflow.Text

/-!
# Digits of a base

Digits are ASCII digits, and letters of either case for the values from ten to fifteen.
-/

/-- The value of a hexadecimal digit. -/
def hexValue? (c : Char) : Option Nat :=
  if '0' ≤ c ∧ c ≤ '9' then some (c.toNat - '0'.toNat)
  else if 'a' ≤ c ∧ c ≤ 'f' then some (c.toNat - 'a'.toNat + 10)
  else if 'A' ≤ c ∧ c ≤ 'F' then some (c.toNat - 'A'.toNat + 10)
  else none

/-- A number with one more digit. -/
def appendDigit? (base : Nat) (value : Option Nat) (c : Char) : Option Nat := do
  let digit ← hexValue? c
  if digit < base then return (← value) * base + digit else none

/-- The number that some digits of a base write; no digits write zero. -/
def numberIn? (base : Nat) (digits : List Char) : Option Nat :=
  digits.foldl (appendDigit? base) (some 0)

end Workflow.Text

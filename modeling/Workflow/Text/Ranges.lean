namespace Workflow.Text

/-!
# Ranges of characters

A class of characters is written as the ranges of their code points.
-/

/-- Ranges of code points, both ends included. -/
abbrev Ranges := List (Nat × Nat)

/-- A character is in one of some ranges. -/
def Ranges.covers (ranges : Ranges) (c : Char) : Bool :=
  ranges.any fun range => range.1 ≤ c.toNat && c.toNat ≤ range.2

end Workflow.Text

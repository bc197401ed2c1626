namespace Workflow.Text

/-!
# Texts in columns

A text is cut to a precision first, and then filled with spaces up to a width.  Text in the middle
has the odd space on its right.
-/

/-- Where a text stands in its column. -/
inductive Alignment where
  | left
  | right
  | center
  deriving DecidableEq

/-- The greatest width and the greatest precision that a column can have. -/
def widest : Nat := 65535

/-- There are columns of a width with a precision. -/
def canPad (width : Nat) (precision : Option Nat) : Bool :=
  width ≤ widest && precision.all (· ≤ widest)

/-- A text in a column. -/
def pad (alignment : Alignment) (width : Nat) (precision : Option Nat) (s : String) : String :=
  let kept :=
    match precision with
    | some most => s.toList.take most
    | none => s.toList
  let missing := width - kept.length
  let before :=
    match alignment with
    | .left => 0
    | .right => missing
    | .center => missing / 2
  String.ofList (List.replicate before ' ' ++ kept ++ List.replicate (missing - before) ' ')

end Workflow.Text

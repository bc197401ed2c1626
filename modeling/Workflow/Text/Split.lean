namespace Workflow.Text

/-!
# Pieces of a text

A text is cut at each character that satisfies a test; those characters are in no piece.
-/

/-- The pieces between the characters that satisfy a test, at least one piece. -/
def splitAtEach (isSeparator : Char → Bool) : List Char → List (List Char)
  | [] => [[]]
  | c :: rest =>
    let pieces := splitAtEach isSeparator rest
    if isSeparator c then [] :: pieces
    else
      match pieces with
      | [] => [[c]]
      | piece :: others => (c :: piece) :: others

/-- The text without a byte order mark at its start. -/
def withoutMark (s : String) : String :=
  match s.toList with
  | c :: rest => if c.toNat = 0xFEFF then String.ofList rest else s
  | [] => s

end Workflow.Text

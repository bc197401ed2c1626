namespace Workflow.Text

/-!
# Blank characters and trimming

A character is blank when it has the Unicode property `White_Space`.  Names, labels, settings and
server messages count as missing when they hold blank characters only, and every trimming in this
library removes exactly these characters.
-/

/-- The characters with the Unicode property `White_Space`. -/
def isBlankChar (c : Char) : Bool :=
  let n := c.toNat
  (0x09 ≤ n && n ≤ 0x0D) || n == 0x20 || n == 0x85 || n == 0xA0 || n == 0x1680 ||
    (0x2000 ≤ n && n ≤ 0x200A) || n == 0x2028 || n == 0x2029 || n == 0x202F || n == 0x205F ||
    n == 0x3000

/-- The list without the blank characters at its start. -/
def trimStart (cs : List Char) : List Char := cs.dropWhile isBlankChar

/-- The text without the blank characters at both ends. -/
def trim (s : String) : String :=
  String.ofList (trimStart (trimStart s.toList).reverse).reverse

/-- A text with no character but blank ones. -/
def isBlank (s : String) : Bool := s.toList.all isBlankChar

theorem all_trimStart (cs : List Char) : (trimStart cs).all isBlankChar = cs.all isBlankChar := by
  induction cs with
  | nil => rfl
  | cons c rest inductionHypothesis =>
    unfold trimStart at inductionHypothesis ⊢
    by_cases blank : isBlankChar c = true
    · rw [List.dropWhile_cons_of_pos blank, inductionHypothesis, List.all_cons, blank,
        Bool.true_and]
    · rw [List.dropWhile_cons_of_neg blank]

theorem trimStart_eq_nil_iff (cs : List Char) : trimStart cs = [] ↔ cs.all isBlankChar = true := by
  induction cs with
  | nil => simp [trimStart]
  | cons c rest inductionHypothesis =>
    unfold trimStart at inductionHypothesis ⊢
    by_cases blank : isBlankChar c = true
    · rw [List.dropWhile_cons_of_pos blank, inductionHypothesis, List.all_cons, blank,
        Bool.true_and]
    · simp [List.dropWhile_cons_of_neg blank, blank]

/-- Trimming leaves nothing of a blank text, and something of every other. -/
theorem trim_eq_empty_iff (s : String) : trim s = "" ↔ isBlank s = true := by
  rw [trim, isBlank, String.ofList_eq_empty_iff, List.reverse_eq_nil_iff, trimStart_eq_nil_iff,
    List.all_reverse, all_trimStart]

end Workflow.Text

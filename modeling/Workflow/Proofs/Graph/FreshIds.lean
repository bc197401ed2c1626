import Workflow.Graph.Basic

namespace Workflow

/-!
# Ids with numbers

A generated id ends in a dash and a decimal number.  The number can be read back from the end of the
id, whatever stands before the dash, since no dash is a digit.  A search for a free id stops where
it starts when the first name is free.

The search forgets the taken names that it has met, so that its end says little at first.  As the
names of different numbers are different, no name that comes up later is among those forgotten, and
the name that is found is not taken at all.
-/

/-- Only digits stand in a decimal number. -/
theorem isDigit_of_mem_toString {n : Nat} {c : Char} (member : c ∈ (toString n).toList) :
    c.isDigit = true := by
  change c ∈ (Nat.repr n).toList at member
  rw [Nat.toList_repr] at member
  exact Nat.isDigit_of_mem_toDigits (by decide) (by decide) member

theorem toString_injective {m n : Nat} (same : toString m = toString n) : m = n := by
  have digits : Nat.toDigits 10 m = Nat.toDigits 10 n := by
    rw [← Nat.toList_repr, ← Nat.toList_repr]
    exact congrArg String.toList same
  rw [← Nat.ofDigitChars_ten_toDigits (n := m), digits, Nat.ofDigitChars_ten_toDigits]

/-- The digits at the end of an id with a number are those of the number. -/
theorem digits_of_numbered (base : String) (n : Nat) :
    (base ++ "-" ++ toString n).toList.reverse.takeWhile Char.isDigit =
      (toString n).toList.reverse := by
  have dash : Char.isDigit '-' = false := by decide
  rw [String.toList_append, String.toList_append, List.reverse_append, List.reverse_append,
    List.takeWhile_append_of_pos]
  · simp [dash]
  · intro c member
    exact isDigit_of_mem_toString (List.mem_reverse.mp member)

/-- Ids that are equal have equal numbers. -/
theorem number_eq_of_numbered_eq {first second : String} {m n : Nat}
    (same : first ++ "-" ++ toString m = second ++ "-" ++ toString n) : m = n := by
  have digits : (toString m).toList.reverse = (toString n).toList.reverse := by
    rw [← digits_of_numbered first, same, digits_of_numbered]
  exact toString_injective (String.toList_inj.mp (List.reverse_inj.mp digits))

namespace Graph

variable {name : Nat → String} {taken : List String} {start : Nat}

/-- A first name that is free is taken. -/
theorem firstFree_of_not_mem (free : name start ∉ taken) : firstFree name taken start = start := by
  rw [firstFree, if_neg free]

theorem le_firstFree (name : Nat → String) (taken : List String) (start : Nat) :
    start ≤ firstFree name taken start := by
  fun_induction firstFree name taken start with
  | case1 taken start met inductionHypothesis => exact Nat.le_of_succ_le inductionHypothesis
  | case2 taken start free => exact Nat.le_refl start

/-- The search finds a free name, if the names from its start on are different. -/
theorem firstFree_not_mem
    (different : ∀ i j, start ≤ i → start ≤ j → name i = name j → i = j) :
    name (firstFree name taken start) ∉ taken := by
  fun_induction firstFree name taken start with
  | case1 taken start met inductionHypothesis =>
      have above : start + 1 ≤ firstFree name (taken.erase (name start)) (start + 1) :=
        le_firstFree ..
      have later : name (firstFree name (taken.erase (name start)) (start + 1)) ∉
          taken.erase (name start) := by
        apply inductionHypothesis
        intro i j first second
        exact different i j (Nat.le_of_succ_le first) (Nat.le_of_succ_le second)
      have apart : name (firstFree name (taken.erase (name start)) (start + 1)) ≠ name start := by
        intro same
        have back := different _ _ (Nat.le_of_succ_le above) (Nat.le_refl start) same
        omega
      exact fun member => later ((List.mem_erase_of_ne apart).mpr member)
  | case2 taken start free => exact free

theorem freshNodeId_not_mem (g : Graph) (kind : NodeKind) :
    g.freshNodeId kind ∉ g.nodes.map Node.id :=
  firstFree_not_mem fun _ _ _ _ same => number_eq_of_numbered_eq same

/-- The id of a new node is the name of its kind with a number. -/
theorem exists_freshNodeId_eq (g : Graph) (kind : NodeKind) :
    ∃ k, 1 ≤ k ∧ g.freshNodeId kind = kind.name ++ "-" ++ toString k := by
  have above : 1 ≤ (g.nodesOfKind kind).length + 1 := Nat.succ_le_succ (Nat.zero_le _)
  let name (k : Nat) := kind.name ++ "-" ++ toString k
  exact ⟨firstFree name (g.nodes.map Node.id) _, Nat.le_trans above (le_firstFree ..), rfl⟩

/-- The edges between two nodes have different names from the first one on. -/
theorem edgeName_injective {source target : String} {i j : Nat} (first : 1 ≤ i) (second : 1 ≤ j)
    (same : edgeName source target i = edgeName source target j) : i = j := by
  have longer (base : String) (k : Nat) : base ≠ base ++ "-" ++ toString k := by
    intro equal
    have lengths := congrArg String.length equal
    simp only [String.length_append] at lengths
    have dash : "-".length = 1 := rfl
    omega
  unfold edgeName at same
  dsimp only at same
  split at same
  · split at same
    · omega
    · exact absurd same (longer _ j)
  · split at same
    · exact absurd same.symm (longer _ i)
    · exact number_eq_of_numbered_eq same

theorem freshEdgeId_not_mem (g : Graph) (source target : String) :
    g.freshEdgeId source target ∉ g.edges.map Edge.id :=
  firstFree_not_mem fun _ _ first second same => edgeName_injective first second same

end Graph

end Workflow

import Workflow.Graph.Basic

namespace Workflow

/-!
# Which nodes an edge connects

Nodes are known here by their position in the list.  An end of an edge names the last node that has
its id, and an edge counts as a link when both its ends name a node.  Links work in both directions.

The nodes that are reached from a start are marked by going over the links again and again, marking
both ends of a link when one of them is marked.  A round that marks nothing new is the last one;
every other round leaves fewer nodes without a mark.
-/

namespace Graph

/-- The position of the last node with an id. -/
def resolve (g : Graph) (id : String) : Option (Fin g.nodes.length) :=
  (g.nodes.reverse.findFinIdx? (·.id == id)).map fun i => (i.cast List.length_reverse).rev

/-- The links, from source to target, in the order of their edges. -/
def links (g : Graph) : List (Fin g.nodes.length × Fin g.nodes.length) :=
  g.edges.filterMap fun e =>
    match g.resolve e.source, g.resolve e.target with
    | some s, some t => some (s, t)
    | _, _ => none

end Graph

namespace Adjacency

variable {n : Nat}

/-- Some link ends at the position. -/
def touches (links : List (Fin n × Fin n)) (i : Nat) : Bool :=
  links.any fun link => link.1.val == i || link.2.val == i

/-- One mark for each position. -/
abbrev Marks (n : Nat) := Vector Bool n

/-- Marks both ends of a link if one of them is marked. -/
def mark (marks : Marks n) (link : Fin n × Fin n) : Marks n :=
  if marks[link.1] || marks[link.2] then (marks.set link.1 true).set link.2 true else marks

/-- One round over all links. -/
def round (links : List (Fin n × Fin n)) (marks : Marks n) : Marks n := links.foldl mark marks

/-- How many positions have no mark. -/
def unmarked (marks : Marks n) : Nat := marks.toList.count false

/-- No mark is taken away. -/
def Extends (before after : Marks n) : Prop := ∀ i : Fin n, before[i] = true → after[i] = true

theorem mark_extends (marks : Marks n) (link : Fin n × Fin n) :
    Extends marks (mark marks link) := by
  intro i marked
  unfold mark
  split
  · simp only [Fin.getElem_fin, Vector.getElem_set]
    split
    · rfl
    · split
      · rfl
      · exact marked
  · exact marked

theorem round_extends (links : List (Fin n × Fin n)) (marks : Marks n) :
    Extends marks (round links marks) := by
  induction links generalizing marks with
  | nil => exact fun _ marked => marked
  | cons link rest inductionHypothesis =>
    intro i marked
    exact inductionHypothesis (mark marks link) i (mark_extends marks link i marked)

/-- Among lists where no `true` is taken away, one that differs has fewer `false`. -/
theorem count_false_lt {before after : List Bool} (lengths : before.length = after.length)
    (extended : ∀ i : Nat, before[i]? = some true → after[i]? = some true)
    (differ : before ≠ after) : after.count false < before.count false := by
  induction before generalizing after with
  | nil =>
    cases after with
    | nil => exact absurd rfl differ
    | cons a as => cases lengths
  | cons b bs inductionHypothesis =>
    cases after with
    | nil => cases lengths
    | cons a as =>
      have tails : bs ≠ as → as.count false < bs.count false := by
        apply inductionHypothesis (Nat.succ.inj lengths)
        intro i marked
        exact extended (i + 1) marked
      have noMore : as.count false ≤ bs.count false := by
        by_cases same : bs = as
        · exact Nat.le_of_eq (congrArg (List.count false) same.symm)
        · exact Nat.le_of_lt (tails same)
      cases b with
      | true =>
        obtain rfl : a = true := Option.some.inj (extended 0 rfl)
        rw [List.count_cons_of_ne Bool.false_ne_true.symm,
          List.count_cons_of_ne Bool.false_ne_true.symm]
        exact tails fun same => differ (congrArg (true :: ·) same)
      | false =>
        cases a with
        | true =>
          rw [List.count_cons_of_ne Bool.false_ne_true.symm, List.count_cons_self]
          exact Nat.lt_succ_of_le noMore
        | false =>
          rw [List.count_cons_self, List.count_cons_self]
          exact Nat.succ_lt_succ (tails fun same => differ (congrArg (false :: ·) same))

theorem unmarked_round_lt {links : List (Fin n × Fin n)} {marks : Marks n}
    (differ : round links marks ≠ marks) : unmarked (round links marks) < unmarked marks := by
  refine count_false_lt (by simp) ?_ ?_
  · intro i marked
    rw [Vector.getElem?_toList] at marked ⊢
    obtain ⟨inside, value⟩ := Vector.getElem?_eq_some_iff.1 marked
    exact Vector.getElem?_eq_some_iff.2 ⟨inside, round_extends links marks ⟨i, inside⟩ value⟩
  · intro equal
    exact differ (Vector.toList_inj.1 equal.symm)

/-- Rounds until nothing new is marked. -/
def spread (links : List (Fin n × Fin n)) (marks : Marks n) : Marks n :=
  let next := round links marks
  if next = marks then marks else spread links next
termination_by unmarked marks
decreasing_by exact unmarked_round_lt (by assumption)

/-- The positions that are reached from a start; none from a start out of range. -/
def reachedFrom (links : List (Fin n × Fin n)) (start : Nat) : Marks n :=
  let none := Vector.replicate n false
  if inside : start < n then spread links (none.set start true) else none

end Adjacency

namespace Graph

/-- Some link ends at the position. -/
def isIncident (g : Graph) (i : Nat) : Bool := Adjacency.touches g.links i

/-- For each position, whether it is reached from a start. -/
def reachedFrom (g : Graph) (start : Nat) : List Bool :=
  (Adjacency.reachedFrom g.links start).toList

end Graph

end Workflow

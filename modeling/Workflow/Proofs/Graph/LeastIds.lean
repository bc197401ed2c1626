import Mathlib.Order.Bounds.Defs
import Workflow.Proofs.Graph.FreshIds

namespace Workflow

/-!
# New ids are the least free ones

Ids can come from anywhere, so any name that a new node or edge might get can be taken already, by a
node of another kind or by an edge between other nodes.  The search goes past all of these and stops
at the first name that is free.  It passes a taken name at each step and none of them twice, so that
it makes no more steps than there are ids.
-/

namespace Graph

variable {name : Nat → String} {taken : List String} {start : Nat}

/-- All names that the search goes past are taken. -/
theorem mem_of_lt_firstFree {i : Nat} (started : start ≤ i)
    (passed : i < firstFree name taken start) : name i ∈ taken := by
  fun_induction firstFree name taken start with
  | case1 taken start met inductionHypothesis =>
      rcases Nat.eq_or_lt_of_le started with same | later
      · exact same ▸ met
      · exact List.mem_of_mem_erase (inductionHypothesis later passed)
  | case2 taken start free => exact absurd passed (Nat.not_lt.mpr started)

/-- The search goes past each taken name once at most. -/
theorem firstFree_le (name : Nat → String) (taken : List String) (start : Nat) :
    firstFree name taken start ≤ start + taken.length := by
  fun_induction firstFree name taken start with
  | case1 taken start met inductionHypothesis =>
      have shorter := List.length_erase_of_mem met
      have positive := List.length_pos_of_mem met
      omega
  | case2 taken start free => exact Nat.le_add_right start taken.length

/-- The search finds the least number with a free name, if the names from its start on are
different. -/
theorem isLeast_firstFree
    (different : ∀ i j, start ≤ i → start ≤ j → name i = name j → i = j) :
    IsLeast {k | start ≤ k ∧ name k ∉ taken} (firstFree name taken start) := by
  refine ⟨⟨le_firstFree name taken start, firstFree_not_mem different⟩, ?_⟩
  rintro k ⟨started, free⟩
  exact Nat.le_of_not_lt fun passed => free (mem_of_lt_firstFree started passed)

/-- The search that keeps all taken names, and goes on with the next number, finds the same. -/
theorem firstFree_eq_if (different : ∀ i j, start ≤ i → start ≤ j → name i = name j → i = j) :
    firstFree name taken start =
      if name start ∈ taken then firstFree name taken (start + 1) else start := by
  split
  · next met =>
    have all : IsLeast {k | start ≤ k ∧ name k ∉ taken} (firstFree name taken start) :=
      isLeast_firstFree different
    have next : IsLeast {k | start + 1 ≤ k ∧ name k ∉ taken}
        (firstFree name taken (start + 1)) := by
      apply isLeast_firstFree
      intro i j first second
      exact different i j (Nat.le_of_succ_le first) (Nat.le_of_succ_le second)
    have apart : start ≠ firstFree name taken start := fun same => all.1.2 (same ▸ met)
    apply Nat.le_antisymm
    · exact all.2 ⟨Nat.le_of_succ_le next.1.1, next.1.2⟩
    · exact next.2 ⟨Nat.lt_of_le_of_ne all.1.1 apart, all.1.2⟩
  · next free => exact firstFree_of_not_mem free

variable (g : Graph)

theorem id_not_mem_map_iff {α : Type} {id : α → String} {items : List α} {name : String} :
    name ∉ items.map id ↔ ∀ a ∈ items, id a ≠ name := by
  simp

theorem length_nodesOfKind (kind : NodeKind) :
    (g.nodesOfKind kind).length = g.nodes.countP fun n => n.kind = kind := by
  rw [nodesOfKind, ← List.countP_eq_length_filter]
  apply List.countP_congr
  intro n _
  rw [beq_iff_eq, decide_eq_true_iff]

/-- The number in the id of a new node is the least one above the count of the nodes of its kind
with which the name of the kind is no id. -/
theorem exists_isLeast_freshNodeId (kind : NodeKind) :
    ∃ k, IsLeast {k | (g.nodes.countP fun n => n.kind = kind) < k ∧
          ∀ n ∈ g.nodes, n.id ≠ kind.name ++ "-" ++ toString k} k ∧
        k ≤ (g.nodes.countP fun n => n.kind = kind) + 1 + g.nodes.length ∧
        g.freshNodeId kind = kind.name ++ "-" ++ toString k := by
  rw [← length_nodesOfKind]
  let name (k : Nat) := kind.name ++ "-" ++ toString k
  let ids := g.nodes.map Node.id
  let above := (g.nodesOfKind kind).length + 1
  have least : IsLeast {k | above ≤ k ∧ name k ∉ ids} (firstFree name ids above) :=
    isLeast_firstFree fun _ _ _ _ same => number_eq_of_numbered_eq same
  have bound : firstFree name ids above ≤ above + ids.length := firstFree_le name ids above
  rw [List.length_map] at bound
  refine ⟨firstFree name ids above, ?_, bound, rfl⟩
  have same : {k | (g.nodesOfKind kind).length < k ∧
      ∀ n ∈ g.nodes, n.id ≠ kind.name ++ "-" ++ toString k} = {k | above ≤ k ∧ name k ∉ ids} := by
    ext k
    exact and_congr Nat.lt_iff_add_one_le id_not_mem_map_iff.symm
  rw [same]
  exact least

theorem edgeName_of_two_le {source target : String} {k : Nat} (several : 2 ≤ k) :
    edgeName source target k = "e-" ++ source ++ "-" ++ target ++ "-" ++ toString k :=
  if_neg (Nat.not_le.mpr several)

/-- If the name without a number is taken, a new edge gets the least number from two on with which
the name is free. -/
theorem exists_isLeast_freshEdgeId {source target : String}
    (met : edgeName source target 1 ∈ g.edges.map Edge.id) :
    ∃ k, IsLeast {k | 2 ≤ k ∧
          ∀ e ∈ g.edges, e.id ≠ "e-" ++ source ++ "-" ++ target ++ "-" ++ toString k} k ∧
        k ≤ g.edges.length + 1 ∧
        g.freshEdgeId source target = "e-" ++ source ++ "-" ++ target ++ "-" ++ toString k := by
  let name := edgeName source target
  let ids := g.edges.map Edge.id
  have least : IsLeast {k | 1 ≤ k ∧ name k ∉ ids} (firstFree name ids 1) :=
    isLeast_firstFree fun _ _ first second same => edgeName_injective first second same
  have bound : firstFree name ids 1 ≤ 1 + ids.length := firstFree_le name ids 1
  rw [List.length_map, Nat.add_comm] at bound
  have same : {k | 2 ≤ k ∧
      ∀ e ∈ g.edges, e.id ≠ "e-" ++ source ++ "-" ++ target ++ "-" ++ toString k} =
        {k | 1 ≤ k ∧ name k ∉ ids} := by
    ext k
    constructor
    · rintro ⟨several, free⟩
      rw [← edgeName_of_two_le several] at free
      exact ⟨Nat.le_of_succ_le several, id_not_mem_map_iff.mpr free⟩
    · rintro ⟨positive, free⟩
      have different : k ≠ 1 := fun one => free (one ▸ met)
      have several : 2 ≤ k := by omega
      refine ⟨several, ?_⟩
      rw [← edgeName_of_two_le several]
      exact id_not_mem_map_iff.mp free
  rw [← same] at least
  exact ⟨firstFree name ids 1, least, bound, edgeName_of_two_le least.1.1⟩

/-- Adding a node of a kind puts an empty node at the end whose id is the name of the kind with the
least number above the count of the nodes of this kind that no node has.  Connecting puts an edge at
the end, with a plain name if no edge has it, and otherwise with the least number from two on that
no edge has.  No search takes more steps than there are ids, and all else stays as it is, whatever
ids and edges are there. -/
theorem new_ids_least (g : Graph) :
    (∀ kind position, ∃ k,
      IsLeast {k | (g.nodes.countP fun n => n.kind = kind) < k ∧
        ∀ n ∈ g.nodes, n.id ≠ kind.name ++ "-" ++ toString k} k ∧
      k ≤ (g.nodes.countP fun n => n.kind = kind) + 1 + g.nodes.length ∧
      g.newNode kind position = ⟨kind.name ++ "-" ++ toString k, position, .empty kind⟩ ∧
      g.addNode kind position = ⟨g.nodes ++ [g.newNode kind position], g.edges⟩) ∧
    ∀ source target,
      g.connect source target = ⟨g.nodes, g.edges ++ [g.newEdge source target]⟩ ∧
      ((∀ e ∈ g.edges, e.id ≠ "e-" ++ source ++ "-" ++ target) ∧
          g.newEdge source target = ⟨"e-" ++ source ++ "-" ++ target, source, target⟩ ∨
        (∃ e ∈ g.edges, e.id = "e-" ++ source ++ "-" ++ target) ∧ ∃ k,
          IsLeast {k | 2 ≤ k ∧
            ∀ e ∈ g.edges, e.id ≠ "e-" ++ source ++ "-" ++ target ++ "-" ++ toString k} k ∧
          k ≤ g.edges.length + 1 ∧
          g.newEdge source target =
            ⟨"e-" ++ source ++ "-" ++ target ++ "-" ++ toString k, source, target⟩) := by
  constructor
  · intro kind position
    rcases g.exists_isLeast_freshNodeId kind with ⟨k, least, bound, id⟩
    exact ⟨k, least, bound, congrArg (Node.mk · position (.empty kind)) id, rfl⟩
  · intro source target
    refine ⟨rfl, ?_⟩
    by_cases met : edgeName source target 1 ∈ g.edges.map Edge.id
    · rcases g.exists_isLeast_freshEdgeId met with ⟨k, least, bound, id⟩
      exact .inr ⟨List.mem_map.mp met, k, least, bound, congrArg (Edge.mk · source target) id⟩
    · have stopped : g.freshEdgeId source target = edgeName source target 1 :=
        congrArg (edgeName source target) (firstFree_of_not_mem met)
      exact .inl ⟨id_not_mem_map_iff.mp met, congrArg (Edge.mk · source target) stopped⟩

/-- The names of a trigger and of an edge that leads nowhere are in the way. -/
example :
    let g : Graph := ⟨[⟨"action-2", .origin, .empty .trigger⟩, ⟨"x", .origin, .empty .action⟩],
      [⟨"e-x-y", "p", "q"⟩, ⟨"e-x-y-3", "x", "y"⟩]⟩
    g.freshNodeId .action = "action-3" ∧ g.freshEdgeId "x" "y" = "e-x-y-2" := by
  decide +kernel

end Graph

end Workflow

import Workflow.Proofs.Validation.Orphans

namespace Workflow

/-!
# More edges

A further edge takes nothing away: what was adjacent stays adjacent, and what was connected stays
connected, whatever the edge names with its ends and whether it names anything.  So a report never
gets worse when nodes are connected.  What is found without the edges is found again, no node
becomes an orphan, and the part of the first node only grows.
-/

namespace Graph

variable {nodes : List Node} {edges more : List Edge}

theorem adjacent_of_subset (included : edges ⊆ more) {i j : Fin nodes.length}
    (adjacent : Adjacent ⟨nodes, edges⟩ i j) : Adjacent ⟨nodes, more⟩ i j := by
  rcases adjacent with ⟨e, member, ends⟩
  exact ⟨e, included member, ends⟩

theorem component_subset (included : edges ⊆ more) (i : Fin nodes.length) :
    component ⟨nodes, edges⟩ i ⊆ component ⟨nodes, more⟩ i := by
  intro j reached
  induction reached with
  | refl => exact Relation.ReflTransGen.refl
  | tail _ adjacent inductionHypothesis =>
      exact Relation.ReflTransGen.tail inductionHypothesis (adjacent_of_subset included adjacent)

theorem edges_subset_connect (g : Graph) (source target : String) :
    g.edges ⊆ (g.connect source target).edges := List.subset_append_left _ _

end Graph

namespace Validation

open Rules

variable {schemas : Registry} {name : String}

theorem disconnected_mem_iff {g : Graph} {reachable total : Nat} :
    .disconnected reachable total ∈ (validate schemas name g).violations ↔
      2 ≤ g.nodes.length ∧ ∃ first : 0 < g.nodes.length, g.component ⟨0, first⟩ ≠ Set.univ ∧
        reachable = (g.component ⟨0, first⟩).ncard ∧ total = g.nodes.length := by
  have early : Violation.disconnected reachable total ∉ nodeViolations schemas name g := by
    intro member
    cases concernsEdges_of_mem_nodeViolations member
  rw [violations_eq_append, List.mem_append, or_iff_right early, connectivityViolations_eq]
  unfold connectionRule
  by_cases several : 2 ≤ g.nodes.length
  · have linked : Violation.disconnected reachable total ∉ orphanRule g := by
      intro member
      rcases mem_brokenAt_iff.mp member with ⟨_, _, impossible⟩
      cases impossible
    rw [dif_pos several, List.mem_append, or_iff_right linked, mem_componentRule_iff]
    constructor
    · rintro ⟨parted, same⟩
      cases same
      exact ⟨several, _, parted, rfl, rfl⟩
    · rintro ⟨_, _, parted, rfl, rfl⟩
      exact ⟨parted, rfl⟩
  · rw [dif_neg several]
    exact ⟨fun member => absurd member List.not_mem_nil, fun both => absurd both.1 several⟩

section MoreEdges

variable {nodes : List Node} {edges more : List Edge}

theorem filter_isOrphan_sublist (included : edges ⊆ more) :
    ((validate schemas name ⟨nodes, more⟩).violations.filter Violation.isOrphan).Sublist
      ((validate schemas name ⟨nodes, edges⟩).violations.filter Violation.isOrphan) := by
  rw [filter_isOrphan, filter_isOrphan]
  by_cases several : 2 ≤ nodes.length
  · rw [if_pos several, if_pos several]
    refine brokenAt_sublist ?_ _
    rintro i alone ⟨j, adjacent⟩
    exact alone ⟨j, Graph.adjacent_of_subset included adjacent⟩
  · rw [if_neg several, if_neg several]

/-- A graph that is in parts was so with fewer edges; the part of its first node was no larger. -/
theorem exists_disconnected_of_subset (included : edges ⊆ more) {reachable total : Nat}
    (parted : .disconnected reachable total ∈ (validate schemas name ⟨nodes, more⟩).violations) :
    ∃ fewer ≤ reachable,
      .disconnected fewer total ∈ (validate schemas name ⟨nodes, edges⟩).violations := by
  rcases disconnected_mem_iff.mp parted with ⟨several, first, notAll, rfl, rfl⟩
  have grown : Graph.component ⟨nodes, edges⟩ ⟨0, first⟩ ⊆
      Graph.component ⟨nodes, more⟩ ⟨0, first⟩ := Graph.component_subset included _
  refine ⟨_, Set.ncard_le_ncard grown, disconnected_mem_iff.mpr ⟨several, first, ?_, rfl, rfl⟩⟩
  intro whole
  exact notAll (Set.univ_subset_iff.mp (whole ▸ grown))

end MoreEdges

/-- What concerns the edges is an orphan or that the graph is in parts. -/
theorem isOrphan_or_disconnected {v : Violation} (concerns : v.concernsEdges = true) :
    v.isOrphan = true ∨ ∃ reachable total, v = .disconnected reachable total := by
  cases v with
  | orphanNode => exact .inl rfl
  | disconnected reachable total => exact .inr ⟨reachable, total, rfl⟩
  | _ => cases concerns

/-- Whatever two ids are connected: all violations that do not concern the edges stay as they are;
the orphans that are left were orphans before, and come in the same order; and if the graph is
still in parts, it was before, and its first part has not become smaller.  So a valid graph stays
valid. -/
theorem report_after_connect (schemas : Registry) (name : String) (g : Graph)
    (source target : String) :
    let before := (validate schemas name g).violations
    let after := (validate schemas name (g.connect source target)).violations
    after.filter (fun v => !v.concernsEdges) = before.filter (fun v => !v.concernsEdges) ∧
    (after.filter Violation.isOrphan).Sublist (before.filter Violation.isOrphan) ∧
    (∀ reachable total, .disconnected reachable total ∈ after →
      ∃ fewer ≤ reachable, .disconnected fewer total ∈ before) ∧
    ((validate schemas name g).isValid = true →
      (validate schemas name (g.connect source target)).isValid = true) := by
  intro before after
  have included := g.edges_subset_connect source target
  have others : after.filter (fun v => !v.concernsEdges) =
      before.filter (fun v => !v.concernsEdges) := by
    rw [filter_not_concernsEdges, filter_not_concernsEdges]
    rfl
  have orphans : (after.filter Violation.isOrphan).Sublist (before.filter Violation.isOrphan) :=
    filter_isOrphan_sublist included
  have parts : ∀ reachable total, .disconnected reachable total ∈ after →
      ∃ fewer ≤ reachable, .disconnected fewer total ∈ before :=
    fun _ _ parted => exists_disconnected_of_subset included parted
  refine ⟨others, orphans, parts, ?_⟩
  intro valid
  have nothing : before = [] := List.isEmpty_iff.mp valid
  rw [nothing] at others orphans parts
  refine List.isEmpty_iff.mpr (List.eq_nil_iff_forall_not_mem.mpr ?_)
  intro v member
  cases concerns : v.concernsEdges with
  | false =>
      have kept : v ∈ after.filter (fun v => !v.concernsEdges) :=
        List.mem_filter.mpr ⟨member, by rw [concerns]; rfl⟩
      rw [others] at kept
      exact List.not_mem_nil kept
  | true =>
      rcases isOrphan_or_disconnected concerns with orphan | ⟨reachable, total, rfl⟩
      · exact List.not_mem_nil (orphans.subset (List.mem_filter.mpr ⟨member, orphan⟩))
      · rcases parts reachable total member with ⟨_, _, listed⟩
        exact List.not_mem_nil listed

/-- A trigger and an action that are connected are valid, and still are after the action has been
connected with an id that no node has.  With two more actions, an edge to the first of them leaves
the last one alone, which it was before. -/
theorem report_after_connect_dangling :
    let t : Node := ⟨"t", .origin, .trigger ⟨"Start", some "MANUAL", .empty⟩⟩
    let a : Node := ⟨"a", .origin, .action ⟨"First", some "NOTE", .empty⟩⟩
    let b : Node := ⟨"b", .origin, .action ⟨"Second", some "NOTE", .empty⟩⟩
    let c : Node := ⟨"c", .origin, .action ⟨"Third", some "NOTE", .empty⟩⟩
    let pair : Graph := ⟨[t, a], [⟨"1", "t", "a"⟩]⟩
    let parts : Graph := ⟨[t, a, b, c], [⟨"1", "t", "a"⟩]⟩
    (validate .builtIn "Pair" pair).isValid = true ∧
    (validate .builtIn "Pair" (pair.connect "a" "x")).isValid = true ∧
    .disconnected 3 4 ∈ (validate .builtIn "Parts" (parts.connect "a" "b")).violations ∧
    ∃ fewer ≤ 3, .disconnected fewer 4 ∈ (validate .builtIn "Parts" parts).violations := by
  intro t a b c pair parts
  have valid : (validate .builtIn "Pair" pair).isValid = true := by decide +kernel
  have parted : .disconnected 3 4 ∈
      (validate .builtIn "Parts" (parts.connect "a" "b")).violations := by decide +kernel
  exact ⟨valid, (report_after_connect .builtIn "Pair" pair "a" "x").2.2.2 valid, parted,
    (report_after_connect .builtIn "Parts" parts "a" "b").2.2.1 3 4 parted⟩

end Validation

end Workflow

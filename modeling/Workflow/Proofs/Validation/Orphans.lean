import Workflow.Proofs.Validation.Arrangement

namespace Workflow

/-!
# Orphans and the connected part

Two checks look at the edges, each in its own way: one finds the positions at which no edge ends,
and the other follows edges from the first position.  What they find is tied together.  No path
leads away from an orphan, so what is connected with it is the orphan alone; and what is connected
with a position that is no orphan holds no orphan at all.  So whenever some node is an orphan the
graph is in parts, and the report says so in the end.
-/

namespace Violation

/-- A node is complained of at which no edge ends. -/
def isOrphan : Violation → Bool
  | .orphanNode _ _ => true
  | _ => false

/-- The violation depends on the edges, and not on the nodes alone. -/
def concernsEdges : Violation → Bool
  | .orphanNode _ _ => true
  | .disconnected _ _ => true
  | _ => false

end Violation

namespace Graph

variable {g : Graph}

/-- The positions at which no edge ends. -/
def orphans (g : Graph) : Set (Fin g.nodes.length) := {i | ¬ ∃ j, g.Adjacent i j}

/-- No path leads away from an orphan. -/
theorem eq_of_connected_of_orphan {i j : Fin g.nodes.length} (orphan : i ∈ g.orphans)
    (connected : g.Connected i j) : j = i := by
  rcases Relation.ReflTransGen.cases_head connected with same | ⟨k, adjacent, _⟩
  · exact same.symm
  · exact absurd ⟨k, adjacent⟩ orphan

theorem component_of_orphan {i : Fin g.nodes.length} (orphan : i ∈ g.orphans) :
    g.component i = {i} := by
  ext j
  constructor
  · exact eq_of_connected_of_orphan orphan
  · rintro rfl
    exact Relation.ReflTransGen.refl

/-- What is connected with a position that is no orphan holds no orphan. -/
theorem not_mem_orphans_of_mem_component {i j : Fin g.nodes.length} (linked : i ∉ g.orphans)
    (reached : j ∈ g.component i) : j ∉ g.orphans := by
  intro orphan
  have same : i = j := eq_of_connected_of_orphan orphan (Connected.symm reached)
  exact linked (same ▸ orphan)

/-- What is connected with a position is that position alone, or leaves room for all orphans. -/
theorem ncard_component_le (i : Fin g.nodes.length) :
    (g.component i).ncard ≤ max 1 (g.nodes.length - g.orphans.ncard) := by
  by_cases orphan : i ∈ g.orphans
  · rw [component_of_orphan orphan, Set.ncard_singleton]
    exact Nat.le_max_left _ _
  · have apart : Disjoint (g.component i) g.orphans :=
      Set.disjoint_left.mpr fun _ => not_mem_orphans_of_mem_component orphan
    have room : (g.component i).ncard + g.orphans.ncard ≤ g.nodes.length := calc
      (g.component i).ncard + g.orphans.ncard = (g.component i ∪ g.orphans).ncard :=
        (Set.ncard_union_eq apart).symm
      _ ≤ Nat.card (Fin g.nodes.length) := Set.ncard_le_card _
      _ = g.nodes.length := Nat.card_fin _
    omega

/-- Where there is an orphan beside other nodes, no component is everything. -/
theorem component_ne_univ_of_orphan (several : 2 ≤ g.nodes.length) {i : Fin g.nodes.length}
    (orphan : i ∈ g.orphans) (start : Fin g.nodes.length) : g.component start ≠ Set.univ := by
  intro whole
  have : Nontrivial (Fin g.nodes.length) := Fin.nontrivial_iff_two_le.mpr several
  rcases exists_ne i with ⟨j, different⟩
  exact different (eq_of_connected_of_orphan orphan (component_eq_univ_iff.mp whole i j))

end Graph

namespace Validation

open Rules

variable {schemas : Registry} {name : String} {g : Graph}

/-! ## The sections that look at edges -/

/-- What is found without looking at the edges. -/
def nodeViolations (schemas : Registry) (name : String) (g : Graph) : List Violation :=
  nameViolations name ++
    if g.nodes.isEmpty then [.empty]
    else triggerCountViolations g ++ triggerTypeViolations g ++ actionTypeViolations g ++
      configViolations schemas g

/-- What concerns the edges comes last in a report. -/
theorem violations_eq_append :
    (validate schemas name g).violations =
      nodeViolations schemas name g ++ connectivityViolations g := by
  unfold validate nodeViolations graphViolations
  by_cases none : g.nodes.isEmpty = true
  · have alone : g.nodes.length ≤ 1 := by
      rw [List.isEmpty_iff.mp none]
      exact Nat.zero_le 1
    have silent : connectivityViolations g = [] := if_pos alone
    rw [if_pos none, if_pos none, silent, List.append_nil]
  · rw [if_neg none, if_neg none, List.append_assoc (nameViolations name)]

theorem concernsEdges_of_mem_nodeViolations {v : Violation}
    (member : v ∈ nodeViolations schemas name g) : v.concernsEdges = false := by
  unfold nodeViolations at member
  rcases List.mem_append.mp member with named | rest
  · rw [(mem_nameViolations_iff.mp named).2]
    rfl
  · split at rest
    · rw [List.mem_singleton.mp rest]
      rfl
    · simp only [List.mem_append] at rest
      rcases rest with ((count | triggerType) | actionType) | config
      · rcases mem_triggerCountViolations_iff.mp count with ⟨_, rfl⟩ | ⟨_, rfl⟩ <;> rfl
      · rcases mem_triggerTypeViolations_iff.mp triggerType with ⟨_, _, _, _, _, rfl⟩
        rfl
      · rcases mem_actionTypeViolations_iff.mp actionType with ⟨_, _, _, _, _, rfl⟩
        rfl
      · rcases mem_configViolations_iff.mp config with ⟨_, _, _, _, rfl⟩
        rfl

theorem concernsEdges_of_mem_connectivityViolations {v : Violation}
    (member : v ∈ connectivityViolations g) : v.concernsEdges = true := by
  rcases (mem_connectivityViolations_iff.mp member).2 with ⟨_, _, _, _, rfl⟩ | ⟨_, rfl⟩ <;> rfl

theorem filter_not_concernsEdges :
    (validate schemas name g).violations.filter (fun v => !v.concernsEdges) =
      nodeViolations schemas name g := by
  have kept : (nodeViolations schemas name g).filter (fun v => !v.concernsEdges) =
      nodeViolations schemas name g := by
    refine List.filter_eq_self.mpr ?_
    intro v member
    rw [concernsEdges_of_mem_nodeViolations member]
    rfl
  have dropped : (connectivityViolations g).filter (fun v => !v.concernsEdges) = [] := by
    refine List.filter_eq_nil_iff.mpr ?_
    intro v member
    rw [concernsEdges_of_mem_connectivityViolations member]
    exact Bool.false_ne_true
  rw [violations_eq_append, List.filter_append, kept, dropped, List.append_nil]

theorem mem_componentRule_iff {i : Fin g.nodes.length} {v : Violation} :
    v ∈ componentRule g i ↔
      g.component i ≠ Set.univ ∧ v = .disconnected (g.component i).ncard g.nodes.length := by
  unfold componentRule
  by_cases whole : g.component i = Set.univ
  · simp [whole]
  · simp [whole]

/-- The orphans that are reported are all that there are, and none in a graph of one node. -/
theorem filter_isOrphan :
    (validate schemas name g).violations.filter Violation.isOrphan =
      if 2 ≤ g.nodes.length then orphanRule g else [] := by
  have dropped : (nodeViolations schemas name g).filter Violation.isOrphan = [] := by
    refine List.filter_eq_nil_iff.mpr ?_
    intro v member orphan
    have edgeless := concernsEdges_of_mem_nodeViolations member
    cases v with
    | orphanNode => cases edgeless
    | _ => cases orphan
  rw [violations_eq_append, List.filter_append, dropped, List.nil_append,
    connectivityViolations_eq]
  unfold connectionRule
  by_cases several : 2 ≤ g.nodes.length
  · rw [dif_pos several, if_pos several, List.filter_append]
    have orphans : (orphanRule g).filter Violation.isOrphan = orphanRule g := by
      refine List.filter_eq_self.mpr ?_
      intro v member
      rcases mem_brokenAt_iff.mp member with ⟨_, _, rfl⟩
      rfl
    have parts : (componentRule g ⟨0, by omega⟩).filter Violation.isOrphan = [] := by
      refine List.filter_eq_nil_iff.mpr ?_
      intro v member
      rw [(mem_componentRule_iff.mp member).2]
      exact Bool.false_ne_true
    rw [orphans, parts, List.append_nil]
  · rw [dif_neg several, if_neg several]
    rfl

theorem orphanNode_mem_iff {id label : String} :
    .orphanNode id label ∈ (validate schemas name g).violations ↔ 2 ≤ g.nodes.length ∧
      ∃ i ∈ g.orphans, .orphanNode id label =
        Violation.orphanNode (g.nodes.get i).id (g.nodes.get i).displayName := by
  have filtered : .orphanNode id label ∈ (validate schemas name g).violations ↔
      .orphanNode id label ∈ (validate schemas name g).violations.filter Violation.isOrphan :=
    ⟨fun member => List.mem_filter.mpr ⟨member, rfl⟩, fun member => (List.mem_filter.mp member).1⟩
  rw [filtered, filter_isOrphan]
  by_cases several : 2 ≤ g.nodes.length
  · rw [if_pos several, orphanRule, mem_brokenAt_iff]
    exact ⟨fun found => ⟨several, found⟩, fun both => both.2⟩
  · rw [if_neg several]
    exact ⟨fun member => absurd member List.not_mem_nil, fun both => absurd both.1 several⟩

/-! ## How many there are -/

/-- A rule lists one violation for each position at which it is broken. -/
theorem length_brokenAt {n : Nat} (broken : Fin n → Prop) (violation : Fin n → Violation) :
    (brokenAt broken violation).length = {i | broken i}.ncard := by
  classical
  rw [Adjacency.ncard_positions, brokenAt, List.length_filterMap_eq_countP]
  congr 1
  funext i
  by_cases holds : broken i
  · simp [holds]
  · simp [holds]

theorem countP_isOrphan (several : 2 ≤ g.nodes.length) :
    (validate schemas name g).violations.countP Violation.isOrphan = g.orphans.ncard := by
  rw [List.countP_eq_length_filter, filter_isOrphan, if_pos several]
  exact length_brokenAt _ _

/-- A report with an orphan ends by saying that the graph is in parts.  The part of the first node
is never empty and never everything, and it has at most one node, or leaves out all orphans. -/
theorem report_of_orphan_ends_disconnected {id label : String}
    (orphan : .orphanNode id label ∈ (validate schemas name g).violations) :
    let orphans := (validate schemas name g).violations.countP Violation.isOrphan
    ∃ reachable,
      (validate schemas name g).violations.getLast? =
        some (.disconnected reachable g.nodes.length) ∧
      1 ≤ reachable ∧ reachable < g.nodes.length ∧ orphans ≤ g.nodes.length ∧
      reachable ≤ max 1 (g.nodes.length - orphans) := by
  rcases orphanNode_mem_iff.mp orphan with ⟨several, i, alone, _⟩
  have first : 0 < g.nodes.length := by omega
  have parted : g.component ⟨0, first⟩ ≠ Set.univ :=
    Graph.component_ne_univ_of_orphan several alone _
  have within (s : Set (Fin g.nodes.length)) : s.ncard ≤ g.nodes.length :=
    (Set.ncard_le_card s).trans_eq (Nat.card_fin _)
  intro orphans
  have counted : orphans = g.orphans.ncard := countP_isOrphan several
  refine ⟨(g.component ⟨0, first⟩).ncard, ?_, ?_, ?_, ?_, ?_⟩
  · have last : componentRule g ⟨0, first⟩ =
        [.disconnected (g.component ⟨0, first⟩).ncard g.nodes.length] := if_neg parted
    rw [violations_eq_append, connectivityViolations_eq, connectionRule, dif_pos several, last,
      ← List.append_assoc, List.getLast?_concat]
  · have here : (⟨0, first⟩ : Fin g.nodes.length) ∈ g.component ⟨0, first⟩ :=
      Relation.ReflTransGen.refl
    exact (Set.ncard_pos (Set.toFinite _)).mpr ⟨_, here⟩
  · refine lt_of_le_of_ne (within _) ?_
    intro all
    exact parted (Set.eq_univ_iff_ncard _ |>.mpr (all.trans (Nat.card_fin _).symm))
  · rw [counted]
    exact within _
  · rw [counted]
    exact Graph.ncard_component_le _

/-- The first node has an edge to itself, so it is no orphan, and is alone nevertheless.  The edge
of the last node leads nowhere. -/
theorem report_of_orphan_ends_disconnected_loop :
    let t : Node := ⟨"t", .origin, .trigger ⟨"Start", some "MANUAL", .empty⟩⟩
    let a : Node := ⟨"a", .origin, .action ⟨"First", some "NOTE", .empty⟩⟩
    let b : Node := ⟨"b", .origin, .action ⟨"Second", some "NOTE", .empty⟩⟩
    let c : Node := ⟨"c", .origin, .action ⟨"Third", some "NOTE", .empty⟩⟩
    let g : Graph := ⟨[t, a, b, c], [⟨"1", "t", "t"⟩, ⟨"2", "a", "b"⟩, ⟨"3", "c", "d"⟩]⟩
    .orphanNode "c" "Third" ∈ (validate .builtIn "Parts" g).violations ∧
    (validate .builtIn "Parts" g).violations.countP Violation.isOrphan = 1 ∧
    ∃ reachable, (validate .builtIn "Parts" g).violations.getLast? =
        some (.disconnected reachable 4) ∧
      1 ≤ reachable ∧ reachable < 4 ∧ reachable ≤ max 1 (4 - 1) := by
  intro t a b c g
  have orphan : .orphanNode "c" "Third" ∈ (validate .builtIn "Parts" g).violations := by
    decide +kernel
  have count : (validate .builtIn "Parts" g).violations.countP Violation.isOrphan = 1 := by
    decide +kernel
  rcases report_of_orphan_ends_disconnected orphan with ⟨reachable, last, some, fewer, _, room⟩
  rw [count] at room
  exact ⟨orphan, count, reachable, last, some, fewer, room⟩

end Validation

end Workflow

import Workflow.Proofs.Definition.RoundTrip
import Workflow.Proofs.Graph.SinglePath
import Workflow.Proofs.Validation.Sections

namespace Workflow

/-!
# What a reconstructed chain passes

The ids of a chain are all different, so each end of an edge names the row that it was made for, and
the links lead from row to row.  The rest follows from the laws of chains: all nodes are connected,
and the walk along the edges meets the actions in the order of the nodes.  Only the configs are
taken as they are, and may be incomplete.
-/

namespace Definition

variable (d : Definition)

/-- The id of a row names its node. -/
theorem names_chainId {i : Nat} (inside : i < d.reconstruct.nodes.length) :
    d.reconstruct.Names (chainId i) ⟨i, inside⟩ := by
  have id (j : Fin d.reconstruct.nodes.length) :
      (d.reconstruct.nodes.get j).id = chainId j := by
    have listed : (d.reconstruct.nodes.map Node.id)[j.val]? = some (chainId j) := by
      rw [map_id_nodes_reconstruct, List.getElem?_map, List.getElem?_range]
      · rfl
      · rw [← length_nodes_reconstruct]
        exact j.isLt
    rw [List.getElem?_map, List.getElem?_eq_getElem j.isLt] at listed
    exact Option.some.inj listed
  refine ⟨id _, ?_⟩
  intro j above same
  rw [id] at same
  exact Nat.ne_of_gt above (chainId_injective same)

/-- The links of the chain lead from each row to the next. -/
theorem isChain_reconstruct : Adjacency.IsChain d.reconstruct.links := by
  have count : d.reconstruct.nodes.length - 1 = d.actions.length := by
    rw [length_nodes_reconstruct, Nat.add_sub_cancel]
  unfold Adjacency.IsChain Graph.links
  rw [count, List.map_filterMap, edges_reconstruct, List.filterMap_map, ← List.filterMap_eq_map]
  apply List.filterMap_congr
  intro k member
  have inside : k < d.actions.length := List.mem_range.mp member
  have bound : k + 1 < d.reconstruct.nodes.length := by
    rw [length_nodes_reconstruct]
    exact Nat.succ_lt_succ inside
  have source := Graph.resolve_eq_some_iff.mpr (d.names_chainId (Nat.lt_of_succ_lt bound))
  have target := Graph.resolve_eq_some_iff.mpr (d.names_chainId bound)
  simp [chainEdge, source, target]

theorem nodup_node_ids : (d.reconstruct.nodes.map Node.id).Nodup := by
  rw [map_id_nodes_reconstruct]
  exact List.nodup_range.map fun _ _ same => chainId_injective same

theorem nodup_edge_ids : (d.reconstruct.edges.map Edge.id).Nodup := by
  rw [edges_reconstruct, List.map_map]
  exact List.nodup_range.map fun _ _ same => chainEdge_id_injective same

/-- The edges of the chain give its actions in the order of the nodes. -/
theorem chainOrder_eq_node_order : d.reconstruct.chainOrder =
    some ((d.reconstruct.nodesOfKind .action).map Node.id) :=
  Graph.chainOrder_of_isChain d.isChain_reconstruct d.nodes_reconstruct rfl

/-- The edges of the chain connect each node with the next. -/
theorem edge_ends_reconstruct :
    d.reconstruct.edges.map (fun e => (e.source, e.target)) =
      (d.reconstruct.nodes.map Node.id).zip (d.reconstruct.nodes.map Node.id).tail := by
  rw [edges_reconstruct, map_id_nodes_reconstruct]
  apply List.ext_getElem
  · simp
  · intro k _ _
    simp [chainEdge]

/-- The order of the edges is the order of the nodes, so there is nothing to warn of. -/
theorem edgeOrderEvents_reconstruct : d.reconstruct.edgeOrderEvents = [] := by
  unfold Graph.edgeOrderEvents
  rw [chainOrder_eq_node_order]
  exact if_pos rfl

/-- Compiling the chain, under any name, gives no warning of the order of its edges. -/
theorem edgeOrderIgnored_not_mem (name description : String) (edgeOrder nodeOrder : List String) :
    .edgeOrderIgnored edgeOrder nodeOrder ∉
      (⟨name, description, d.reconstruct⟩ : Draft).compileEvents := by
  unfold Draft.compileEvents
  split
  · exact List.not_mem_nil
  · simp [edgeOrderEvents_reconstruct, mergeConditions_reconstruct]

/-- All nodes of the chain are connected. -/
theorem connectivityViolations_reconstruct :
    Validation.connectivityViolations d.reconstruct = [] := by
  rw [List.eq_nil_iff_forall_not_mem]
  intro v member
  rcases Validation.mem_connectivityViolations_iff.mp member with ⟨several, orphan | parted⟩
  · rcases orphan with ⟨i, n, here, alone, _⟩
    rcases List.getElem?_eq_some_iff.mp here with ⟨inside, _⟩
    have linked := Graph.isIncident_of_isChain d.isChain_reconstruct several ⟨i, inside⟩
    rw [alone] at linked
    cases linked
  · have start : 0 < d.reconstruct.nodes.length := Nat.lt_of_lt_of_le (by decide) several
    have whole : d.reconstruct.component ⟨0, start⟩ = Set.univ :=
      Graph.component_of_isChain d.isChain_reconstruct rfl
    exact absurd whole ((Graph.count_reachedFrom_lt_iff ⟨0, start⟩).mp parted.1)

/-- Under a name that is not blank only the configs of the chain can be complained of. -/
theorem violations_reconstruct (schemas : Registry) {name : String}
    (named : Text.isBlank name = false) :
    (Validation.validate schemas name d.reconstruct).violations =
      Validation.configViolations schemas d.reconstruct := by
  have names : Validation.nameViolations name = [] := by
    simp [Validation.nameViolations, named]
  have nodes : d.reconstruct.nodes.isEmpty = false := by
    rw [nodes_reconstruct]
    rfl
  have counts : Validation.triggerCountViolations d.reconstruct = [] := by
    rw [Validation.triggerCountViolations, triggers_reconstruct]
    rfl
  have types : Validation.triggerTypeViolations d.reconstruct = [] := by
    rw [Validation.triggerTypeViolations, triggers_reconstruct]
    rfl
  have actions : Validation.actionTypeViolations d.reconstruct = [] := by
    rw [List.eq_nil_iff_forall_not_mem]
    intro v member
    rcases Validation.mem_actionTypeViolations_iff.mp member with ⟨i, id, data, here, untyped, _⟩
    have listed := List.mem_of_getElem? here
    rw [actions_reconstruct, List.mem_map] at listed
    rcases listed with ⟨numbered, _, same⟩
    cases same
    cases untyped
  unfold Validation.validate Validation.graphViolations
  simp [names, nodes, counts, types, actions, d.connectivityViolations_reconstruct]

/-- A definition is opened as a chain that has one node more than actions, one of them a trigger,
with different ids and an edge from each node to the next.  Nothing but its configs is ever
complained of, and compiling it gives no warning. -/
theorem reconstruct_isSoundChain :
    d.reconstruct.nodes.length = d.actions.length + 1 ∧
    (d.reconstruct.nodes.map Node.id).Nodup ∧
    d.reconstruct.edges.length = d.actions.length ∧
    (d.reconstruct.edges.map Edge.id).Nodup ∧
    d.reconstruct.edges.map (fun e => (e.source, e.target)) =
      (d.reconstruct.nodes.map Node.id).zip (d.reconstruct.nodes.map Node.id).tail ∧
    d.reconstruct.triggers.length = 1 ∧
    (∀ (schemas : Registry) (name : String), Text.isBlank name = false →
      ∀ v ∈ (Validation.validate schemas name d.reconstruct).violations,
        ∃ id label issue, v = .incompleteConfig id label issue) ∧
    d.reconstruct.chainOrder = some ((d.reconstruct.nodesOfKind .action).map Node.id) ∧
    ∀ (name description : String) (edgeOrder nodeOrder : List String),
      .edgeOrderIgnored edgeOrder nodeOrder ∉
        (⟨name, description, d.reconstruct⟩ : Draft).compileEvents := by
  have edges : d.reconstruct.edges.length = d.actions.length := by
    rw [edges_reconstruct, List.length_map, List.length_range]
  have trigger : d.reconstruct.triggers.length = 1 := by
    rw [triggers_reconstruct]
    rfl
  refine ⟨d.length_nodes_reconstruct, d.nodup_node_ids, edges, d.nodup_edge_ids,
    d.edge_ends_reconstruct, trigger, ?_, d.chainOrder_eq_node_order, d.edgeOrderIgnored_not_mem⟩
  intro schemas name named v member
  rw [d.violations_reconstruct schemas named, Validation.mem_configViolations_iff] at member
  rcases member with ⟨n, _, issue, _, rfl⟩
  exact ⟨n.id, n.displayName, issue, rfl⟩

/-- Two actions that lack their tag are two complaints, both of them of a config. -/
theorem reconstruct_isSoundChain_untagged :
    Text.isBlank "Tags" = false ∧
    (Validation.validate .builtIn "Tags" (⟨"Tags", "", "MANUAL", .empty, .empty,
      [⟨"ADD_TAG", .empty, ""⟩, ⟨"REMOVE_TAG", .empty, ""⟩], none⟩ :
        Definition).reconstruct).violations.length = 2 ∧
    ∀ v ∈ (Validation.validate .builtIn "Tags" (⟨"Tags", "", "MANUAL", .empty, .empty,
      [⟨"ADD_TAG", .empty, ""⟩, ⟨"REMOVE_TAG", .empty, ""⟩], none⟩ :
        Definition).reconstruct).violations,
        ∃ id label issue, v = .incompleteConfig id label issue := by
  refine ⟨by decide +kernel, by decide +kernel, ?_⟩
  exact (reconstruct_isSoundChain _).2.2.2.2.2.2.1 .builtIn "Tags" (by decide +kernel)

end Definition

end Workflow

import Workflow.Definition.Reconstruct
import Workflow.Proofs.Graph.FreshIds

namespace Workflow

/-!
# The chain of a definition

Reconstruction adds a node and an edge for each action, to a graph that grows.  Here the outcome is
written down without the growing: the list of nodes, with the number of each action, and the list of
edges, with the ids that they get.  No edge needs a number after its id, since all pairs of ends are
different.
-/

namespace Definition

/-- The id of the node in row `i`: the trigger and then the actions. -/
def chainId : Nat → String
  | 0 => "trigger-1"
  | i + 1 => actionId (i + 1)

/-- The edge that leaves row `i`. -/
def chainEdge (i : Nat) : Edge :=
  ⟨Graph.edgeName (chainId i) (chainId (i + 1)) 1, chainId i, chainId (i + 1)⟩

theorem chainId_injective {i j : Nat} (same : chainId i = chainId j) : i = j := by
  have other (k : Nat) : "trigger-1" ≠ actionId (k + 1) := by
    intro equal
    have letters := congrArg (fun s => s.toList.head?) equal
    simp [actionId, String.toList_append] at letters
  cases i with
  | zero =>
      cases j with
      | zero => rfl
      | succ j => exact absurd same (other j)
  | succ i =>
      cases j with
      | zero => exact absurd same.symm (other i)
      | succ j => exact toString_injective ((String.append_right_inj "action-").mp same)

/-- The id of an edge of the chain ends in the number of the action that it leads to. -/
theorem chainEdge_id (i : Nat) :
    (chainEdge i).id = "e-" ++ chainId i ++ "-action" ++ "-" ++ toString (i + 1) := by
  have middle : "-" ++ "action-" = "-action" ++ "-" := by decide
  calc (chainEdge i).id
      = "e-" ++ chainId i ++ "-" ++ ("action-" ++ toString (i + 1)) := rfl
    _ = "e-" ++ chainId i ++ ("-" ++ "action-") ++ toString (i + 1) := by
        simp only [String.append_assoc]
    _ = "e-" ++ chainId i ++ "-action" ++ "-" ++ toString (i + 1) := by
        rw [middle]
        simp only [String.append_assoc]

theorem chainEdge_id_injective {i j : Nat} (same : (chainEdge i).id = (chainEdge j).id) :
    i = j := by
  rw [chainEdge_id, chainEdge_id] at same
  exact Nat.succ.inj (number_eq_of_numbered_eq same)

/-- The next edge of a chain gets its id without a number after it. -/
theorem newEdge_chain {g : Graph} {i : Nat} (edges : g.edges = (List.range i).map chainEdge) :
    g.newEdge (chainId i) (chainId (i + 1)) = chainEdge i := by
  have free : (chainEdge i).id ∉ g.edges.map Edge.id := by
    rw [edges, List.map_map, List.mem_map]
    rintro ⟨k, inside, same⟩
    exact Nat.ne_of_lt (List.mem_range.mp inside) (chainEdge_id_injective same)
  unfold Graph.newEdge Graph.freshEdgeId
  rw [Graph.firstFree_of_not_mem free]
  rfl

theorem nodes_extendChain (previous : String) (i : Nat) (steps : List ActionStep) (g : Graph) :
    (extendChain previous i steps g).nodes =
      g.nodes ++ (steps.zipIdx (i + 1)).map fun numbered => actionNode numbered.1 numbered.2 := by
  induction steps generalizing previous i g with
  | nil => simp [extendChain]
  | cons step rest inductionHypothesis =>
      rw [extendChain, inductionHypothesis]
      simp [Graph.connect, Graph.insertNode, List.zipIdx_cons]

/-- A chain of `i` actions that is extended keeps its edges and gets those of the later rows. -/
theorem edges_extendChain (i : Nat) (steps : List ActionStep) {g : Graph}
    (edges : g.edges = (List.range i).map chainEdge) :
    (extendChain (chainId i) i steps g).edges =
      (List.range (i + steps.length)).map chainEdge := by
  induction steps generalizing i g with
  | nil => exact edges
  | cons step rest inductionHypothesis =>
      have extended : ((g.insertNode (actionNode step (i + 1))).connect (chainId i)
          (chainId (i + 1))).edges = (List.range (i + 1)).map chainEdge := by
        change g.edges ++ [_] = _
        rw [newEdge_chain (g := g.insertNode (actionNode step (i + 1))) edges, edges,
          List.range_succ, List.map_append, List.map_singleton]
      rw [extendChain]
      refine (inductionHypothesis (i + 1) extended).trans ?_
      rw [List.length_cons, Nat.add_right_comm, Nat.add_assoc]

variable (d : Definition)

/-- The nodes of the chain: the trigger, and the actions with numbers from one. -/
theorem nodes_reconstruct : d.reconstruct.nodes =
    d.triggerNode :: (d.actions.zipIdx 1).map fun numbered => actionNode numbered.1 numbered.2 :=
  nodes_extendChain "trigger-1" 0 d.actions _

/-- The edges of the chain: one from each row to the next. -/
theorem edges_reconstruct :
    d.reconstruct.edges = (List.range d.actions.length).map chainEdge := by
  have built := edges_extendChain 0 d.actions (g := Graph.empty.insertNode d.triggerNode) rfl
  rw [Nat.zero_add] at built
  exact built

theorem length_nodes_reconstruct : d.reconstruct.nodes.length = d.actions.length + 1 := by
  rw [nodes_reconstruct]
  simp

/-- The ids of the nodes are those of the rows. -/
theorem map_id_nodes_reconstruct :
    d.reconstruct.nodes.map Node.id = (List.range (d.actions.length + 1)).map chainId := by
  rw [nodes_reconstruct, List.map_cons, List.map_map, List.range_succ_eq_map, List.map_cons]
  congr 1
  rw [List.map_map]
  apply List.ext_getElem
  · simp
  · intro i inside _
    simp [actionNode, chainId, Nat.add_comm]

end Definition

end Workflow

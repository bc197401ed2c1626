import Workflow.Graph.Codec
import Workflow.Proofs.Graph.EmptyTypes

namespace Workflow

/-!
# Reading a graph that was written

Positions, edges and nodes in the editor's format are read back as they were written, whichever of
the optional members are there.  A graph is read back unless it has an empty type, which no node
that is read has.
-/

open Decoder

variable (medium : Medium)

theorem Position.decoder_toJson (p : Position) :
    Position.decoder medium (.value p.toJson) = .ok p := by
  unfold Position.decoder Position.toJson
  rw [group_value]
  simp [once, required, Except.map, bind, Except.bind, pure, Except.pure]

theorem Edge.decoder_toJson (e : Edge) : Edge.decoder medium (.value e.toJson) = .ok e := by
  unfold Edge.decoder Edge.toJson
  rw [group_value]
  simp [once, required, Except.map, bind, Except.bind, pure, Except.pure]

theorem LooseData.decoder_toJson (d : LooseData) :
    LooseData.decoder medium (.value d.toJson) = .ok d := by
  rcases d with ⟨label, _ | triggerType, _ | actionType, _ | config, _ | condition⟩
  all_goals
    unfold LooseData.decoder LooseData.toJson
    rw [group_value]
    simp [optionalMember, once, Except.map, bind, Except.bind, pure, Except.pure]

theorem LooseNode.decoder_toJson (n : LooseNode) :
    LooseNode.decoder medium (.value n.toJson) = .ok n := by
  unfold LooseNode.decoder LooseNode.toJson
  rw [group_value]
  simp [once, required, Position.decoder_toJson, LooseData.decoder_toJson, Except.map, bind,
    Except.bind, pure, Except.pure]

theorem Node.noEmptyType_of_decoder {medium : Medium} {source : Source} {n : Node}
    (read : Node.decoder medium source = .ok n) : n.data.NoEmptyType := by
  rcases exists_of_bind_eq_ok read with ⟨raw, _, converted⟩
  exact LooseNode.noEmptyType_of_toNode (mapError_eq_ok_iff.mp converted)

namespace Graph

theorem list_nodes (g : Graph) :
    list LooseNode.decoder medium (.value (.array (g.nodes.map Node.toJson))) =
      .ok (g.nodes.map Node.toLoose) := by
  have written : g.nodes.map Node.toJson = (g.nodes.map Node.toLoose).map LooseNode.toJson :=
    List.map_map.symm
  rw [written]
  exact list_value medium fun n _ => LooseNode.decoder_toJson medium n

theorem list_edges (g : Graph) :
    list Edge.decoder medium (.value (.array (g.edges.map Edge.toJson))) = .ok g.edges :=
  list_value medium fun e _ => Edge.decoder_toJson medium e

/-- A graph without empty types is read back. -/
theorem decoder_toJson {g : Graph} (nonempty : g.NoEmptyTypes) :
    Graph.decoder medium (.value g.toJson) = .ok g := by
  have node : ∀ n ∈ g.nodes, Node.decoder medium (.value n.toJson) = .ok n := by
    intro n member
    change (LooseNode.decoder medium (.value n.toLoose.toJson)).bind _ = _
    rw [LooseNode.decoder_toJson, Except.bind, LooseNode.toNode_toLoose (nonempty n member)]
    rfl
  unfold Graph.decoder graphDecoder toJson members
  rw [group_value]
  simp [once, list_value medium node, list_edges, Except.map, bind, Except.bind, pure, Except.pure]

end Graph

end Workflow

import Workflow.Graph.Loose
import Workflow.Proofs.Graph.Edits
import Workflow.Proofs.Json.Decoding

namespace Workflow

/-!
# Empty types

A type that is not chosen should be missing, not empty.  Nothing in a node keeps an empty one out,
but reading a node does: the nodes without an empty type are those that the editor's format can
say, and writing such a node and reading it gives the node back.  Patches keep empty types out as
well, and with them all edits of a graph.
-/

/-- Whatever type there is is not the empty text. -/
def NodeData.NoEmptyType : NodeData → Prop
  | .trigger d => d.triggerType ≠ some ""
  | .condition _ => True
  | .action d => d.actionType ≠ some ""

/-- No node has an empty type. -/
def Graph.NoEmptyTypes (g : Graph) : Prop := ∀ n ∈ g.nodes, n.data.NoEmptyType

theorem chosenType_ne_empty (type : Option String) : chosenType type ≠ some "" := by
  intro empty
  have nonempty := (Option.filter_eq_some_iff.mp empty).2
  exact absurd nonempty (by decide)

theorem chosenType_eq_self {type : Option String} (nonempty : type ≠ some "") :
    chosenType type = type := by
  cases type with
  | none => rfl
  | some text =>
      have kept : (!text.isEmpty) = true := by
        have different : text ≠ "" := fun same => nonempty (congrArg some same)
        simpa using different
      exact Option.filter_some_pos kept

namespace NodeKind

@[simp] theorem parse_name (kind : NodeKind) : parse kind.name = .ok kind := by
  cases kind <;> rfl

end NodeKind

namespace LooseNode

theorem noEmptyType_of_toNode {raw : LooseNode} {n : Node} (read : raw.toNode = .ok n) :
    n.data.NoEmptyType := by
  unfold toNode at read
  cases parsed : NodeKind.parse raw.type with
  | error problem =>
      rw [parsed] at read
      cases read
  | ok kind =>
      rw [parsed] at read
      obtain rfl := Except.ok.inj read
      cases kind with
      | trigger => exact chosenType_ne_empty _
      | condition => trivial
      | action => exact chosenType_ne_empty _

theorem toNode_toLoose {n : Node} (nonempty : n.data.NoEmptyType) :
    n.toLoose.toNode = .ok n := by
  rcases n with ⟨id, position, data⟩
  have typed : dataAs data.toLoose data.kind = data := by
    cases data with
    | trigger d =>
        have kept : chosenType d.triggerType = d.triggerType := chosenType_eq_self nonempty
        rw [NodeData.kind, NodeData.toLoose, dataAs, kept]
        rfl
    | condition d => rfl
    | action d =>
        have kept : chosenType d.actionType = d.actionType := chosenType_eq_self nonempty
        rw [NodeData.kind, NodeData.toLoose, dataAs, kept]
        rfl
  unfold toNode Node.toLoose
  dsimp only
  rw [NodeKind.parse_name]
  dsimp only
  rw [Node.kind, typed]

/-- The nodes without an empty type are those that can be read. -/
theorem exists_toNode_iff (n : Node) :
    (∃ raw : LooseNode, raw.toNode = .ok n) ↔ n.data.NoEmptyType := by
  constructor
  · rintro ⟨raw, read⟩
    exact noEmptyType_of_toNode read
  · intro nonempty
    exact ⟨n.toLoose, toNode_toLoose nonempty⟩

end LooseNode

namespace LooseGraph

theorem noEmptyTypes_of_toGraph {raw : LooseGraph} {g : Graph} (read : raw.toGraph = .ok g) :
    g.NoEmptyTypes := by
  rcases exists_of_bind_eq_ok read with ⟨nodes, found, made⟩
  obtain rfl := Except.ok.inj made
  intro n member
  rcases exists_of_mem_mapM_ok found member with ⟨node, _, parsed⟩
  exact LooseNode.noEmptyType_of_toNode parsed

theorem toGraph_toLoose {g : Graph} (nonempty : g.NoEmptyTypes) :
    toGraph ⟨g.nodes.map Node.toLoose, g.edges⟩ = .ok g := by
  have read : (g.nodes.map Node.toLoose).mapM LooseNode.toNode = .ok g.nodes :=
    mapM_map_eq_ok fun n member => LooseNode.toNode_toLoose (nonempty n member)
  unfold toGraph
  dsimp only
  rw [read]
  rfl

end LooseGraph

/-! ## Edits -/

theorem NodePatch.noEmptyType_patched (patch : NodePatch) (data after : NodeData)
    (fits : patch.patched? data = some after) (nonempty : data.NoEmptyType) :
    after.NoEmptyType := by
  cases patch with
  | triggerType value =>
      cases data with
      | trigger d =>
          obtain rfl := Option.some.inj fits
          exact chosenType_ne_empty value
      | condition d | action d => cases fits
  | actionType value =>
      cases data with
      | action d =>
          obtain rfl := Option.some.inj fits
          exact chosenType_ne_empty value
      | trigger d | condition d => cases fits
  | label value | config value | condition value =>
      -- The type is left as it is, where the patch fits.
      cases data <;> cases fits <;> exact nonempty

namespace Graph

variable {g : Graph}

theorem NoEmptyTypes.edit (nonempty : g.NoEmptyTypes) (e : Edit) : (g.edit e).NoEmptyTypes := by
  have fresh : ∀ kind, (NodeData.empty kind).NoEmptyType := by
    intro kind
    cases kind with
    | trigger | action => exact nofun
    | condition => trivial
  exact edit_preserves fresh (fun patch _ => patch.noEmptyType_patched) nonempty

theorem NoEmptyTypes.insertNode (nonempty : g.NoEmptyTypes) {n : Node}
    (inserted : n.data.NoEmptyType) : (g.insertNode n).NoEmptyTypes := by
  intro m member
  rcases List.mem_append.mp member with old | new
  · exact nonempty m old
  · obtain rfl := List.mem_singleton.mp new
    exact inserted

end Graph

end Workflow

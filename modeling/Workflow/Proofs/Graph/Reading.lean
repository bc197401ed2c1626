import Workflow.Proofs.Graph.Codec
import Workflow.Proofs.Graph.Members
import Workflow.Proofs.Json.Parts

namespace Workflow

/-!
# Graphs that were read

Each node of a graph that was read comes from one source inside the source of the graph, and so does
each object in its data.  So no node has an empty type, and the objects are such as a text can say,
nested at most as deep as the four containers around them leave room for.
-/

variable {medium : Medium} {source : Source}

/-- The configs and conditions in the data. -/
def LooseData.objects (d : LooseData) : List Object := d.config.toList ++ d.condition.toList

theorem LooseData.exists_of_isLooseData {d : LooseData} (said : source.IsLooseData d) {o : Object}
    (member : o ∈ d.objects) : ∃ inner ∈ source.parts, inner.IsObject o := by
  rcases said with ⟨entries, lists, _, _, _, config, condition⟩
  rcases List.mem_append.mp member with inside | inside
  · rw [Option.mem_toList.mp inside] at config
    exact lists.exists_of_maySay config
  · rw [Option.mem_toList.mp inside] at condition
    exact lists.exists_of_maySay condition

theorem LooseNode.exists_of_isLooseNode {n : LooseNode} (said : source.IsLooseNode n) :
    n.data = .empty ∨ ∃ inner ∈ source.parts, inner.IsLooseData n.data := by
  rcases said with ⟨entries, lists, _, _, _, data⟩
  exact lists.eq_or_exists_of_orElse data

/-- The configs and conditions in the data of a node. -/
def NodeData.objects (data : NodeData) : List Object := data.toLoose.objects

/-- The objects in the data are such as a text can say, inside the four containers around them. -/
def NodeData.Readable (data : NodeData) : Prop :=
  ∀ o ∈ data.objects, (Json.ofObject o).Readable (Json.deepest - 4)

/-- Data of a kind has no object that the loose data has not, but for the empty config. -/
theorem LooseNode.mem_objects_dataAs {data : LooseData} {kind : NodeKind} {o : Object}
    (member : o ∈ (dataAs data kind).objects) : o = .empty ∨ o ∈ data.objects := by
  have config : ∀ o, o ∈ [data.config.getD .empty] ++ [] → o = .empty ∨ o ∈ data.objects := by
    intro o inside
    obtain rfl := List.mem_singleton.mp inside
    cases found : data.config with
    | none => exact .inl rfl
    | some config => exact .inr (List.mem_append_left _ (Option.mem_toList.mpr found))
  cases kind with
  | trigger => exact config o member
  | condition => exact .inr (List.mem_append_right _ member)
  | action => exact config o member

theorem Node.exists_of_isNode {n : Node} (said : source.IsNode n) {o : Object}
    (member : o ∈ n.data.objects) :
    o = .empty ∨ ∃ data ∈ source.parts, ∃ inner ∈ data.parts, inner.IsObject o := by
  rcases said with ⟨raw, loose, converted⟩
  unfold LooseNode.toNode at converted
  cases parsed : NodeKind.parse raw.type with
  | error problem =>
      rw [parsed] at converted
      cases converted
  | ok kind =>
      rw [parsed] at converted
      obtain rfl := Except.ok.inj converted
      rcases LooseNode.mem_objects_dataAs member with rfl | inside
      · exact .inl rfl
      · rcases LooseNode.exists_of_isLooseNode loose with empty | ⟨data, part, saidData⟩
        · rw [empty] at inside
          cases inside
        · exact .inr ⟨data, part, LooseData.exists_of_isLooseData saidData inside⟩

namespace Graph

/-- All data are such as a text can say. -/
def Readable (g : Graph) : Prop := ∀ n ∈ g.nodes, n.data.Readable

theorem exists_of_isGraph {g : Graph} (said : source.IsGraph g) {n : Node}
    (member : n ∈ g.nodes) : ∃ nodes ∈ source.parts, ∃ inner ∈ nodes.parts, inner.IsNode n := by
  rcases said with ⟨entries, lists, nodes, _⟩
  rcases lists.eq_or_exists_of_orElse nodes with none | ⟨inner, inside, list⟩
  · rw [none] at member
    cases member
  · exact ⟨inner, inside, Source.exists_of_isList list member⟩

theorem noEmptyTypes_of_decoder {g : Graph} (read : decoder medium source = .ok g) :
    g.NoEmptyTypes := by
  intro n member
  rcases exists_of_isGraph (decoder_eq_ok_iff.mp read) member with ⟨_, _, inner, _, said⟩
  rcases said with ⟨raw, _, converted⟩
  exact LooseNode.noEmptyType_of_toNode converted

theorem readable_of_decoder {g : Graph} (read : decoder medium source = .ok g)
    (within : source.Within Json.deepest) : g.Readable := by
  intro n member o inside
  rcases exists_of_isGraph (decoder_eq_ok_iff.mp read) member
    with ⟨nodes, nodesPart, node, nodePart, said⟩
  rcases Node.exists_of_isNode said inside with rfl | ⟨data, dataPart, inner, part, object⟩
  · exact .object .nil nofun
  · exact ((((within.parts nodesPart).parts nodePart).parts dataPart).parts
      part).readable_of_isObject object

end Graph

/-! ## Edits -/

/-- The object that a patch puts into the data, if it puts one there. -/
def NodePatch.object? : NodePatch → Option Object
  | .config value => some value
  | .condition value => value
  | .label _ | .triggerType _ | .actionType _ => none

theorem NodePatch.mem_objects_patched {patch : NodePatch} {data after : NodeData}
    (fits : patch.patched? data = some after) {o : Object} (member : o ∈ after.objects) :
    patch.object? = some o ∨ o ∈ data.objects := by
  cases patch with
  | label value | triggerType value | actionType value =>
      cases data <;> cases fits <;> exact .inr member
  | config value =>
      cases data with
      | condition d => cases fits
      | trigger d | action d =>
          cases fits
          obtain rfl := List.mem_singleton.mp member
          exact .inl rfl
  | condition value =>
      cases data with
      | trigger d | action d => cases fits
      | condition d =>
          cases fits
          exact .inl (Option.mem_toList.mp member)

/-- An edit keeps a graph readable if a text can say the objects that it puts in. -/
theorem Graph.Readable.edit {g : Graph} (readable : g.Readable) {e : Edit}
    (said : ∀ patch ∈ e.patches, ∀ o, patch.object? = some o →
      (Json.ofObject o).Readable (Json.deepest - 4)) : (g.edit e).Readable := by
  have fresh : ∀ kind, (NodeData.empty kind).Readable := by
    intro kind o member
    cases kind with
    | trigger | action =>
        obtain rfl := List.mem_singleton.mp member
        exact .object .nil nofun
    | condition => cases member
  refine edit_preserves (P := NodeData.Readable) fresh ?_ readable
  intro patch member data after fits before o inside
  rcases NodePatch.mem_objects_patched fits inside with own | earlier
  · exact said patch member o own
  · exact before o earlier

end Workflow

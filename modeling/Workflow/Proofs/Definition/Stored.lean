import Workflow.Definition.Record
import Workflow.Proofs.Graph.Codec

namespace Workflow

/-!
# The stored form of a save request

The members of a save request are those of two structures, and the backend puts an id and a version
among them, and later a flag.  In the order of their keys they are listed here once, with the flag
as it may be.  Reading the list gives back the definition, now with its version, and the nodes and
edges of the graph, so that nothing that was sent is lost between the two structures.
-/

open Decoder

theorem ActionStep.decoder_toJson (medium : Medium) (a : ActionStep) :
    ActionStep.decoder medium (.value a.toJson) = .ok a := by
  unfold ActionStep.decoder ActionStep.toJson
  rw [group_value]
  simp [once, required, Except.map, bind, Except.bind, pure, Except.pure]

theorem versionDecoder_value (medium : Medium) {version : Int}
    (bounds : -Int.pow 2 63 ≤ version ∧ version < Int.pow 2 63) :
    versionDecoder medium (.value (.ofInt version)) = .ok (some version) := by
  have present : Json.ofInt version ≠ .null := by nofun
  unfold versionDecoder
  rw [nullable_value medium _ present, integer_value medium bounds]
  rfl

namespace Definition

theorem list_actions (medium : Medium) (d : Definition) :
    list ActionStep.decoder medium (.value (.array (d.actions.map ActionStep.toJson))) =
      .ok d.actions :=
  list_value medium fun a _ => ActionStep.decoder_toJson medium a

/-- The members of a definition with a version, in the order of their keys. -/
def storedMembers (d : Definition) (version : Int) : List (String × Json) :=
  [("actions", .array (d.actions.map ActionStep.toJson)), ("conditions", .ofObject d.conditions),
    ("description", .string d.description), ("name", .string d.name),
    ("triggerConfig", .ofObject d.triggerConfig), ("triggerType", .string d.triggerType),
    ("version", .ofInt version)]

theorem decoder_storedMembers (medium : Medium) (d : Definition) {version : Int}
    (bounds : -Int.pow 2 63 ≤ version ∧ version < Int.pow 2 63) :
    Definition.decoder medium (.value (.object (d.storedMembers version))) =
      .ok { d with version := some version } := by
  unfold Definition.decoder storedMembers
  rw [group_value]
  simp [fieldGroup, once, required, list_actions, versionDecoder_value medium bounds, Except.map,
    bind, Except.bind, pure, Except.pure]

end Definition

namespace SaveRequest

variable (r : SaveRequest) (id : String) (version : Int) (active : Option Bool)

/-- A save request as it is stored, the members in the order of their keys. -/
def stored : Json :=
  .object ([("actions", .array (r.definition.actions.map ActionStep.toJson)),
    ("conditions", .ofObject r.definition.conditions),
    ("description", .string r.definition.description),
    ("edges", .array (r.graph.edges.map Edge.toJson)), ("id", .string id)] ++
    optionalMember "isActive" .bool active ++
    [("name", .string r.definition.name), ("nodes", .array (r.graph.nodes.map Node.toJson)),
    ("triggerConfig", .ofObject r.definition.triggerConfig),
    ("triggerType", .string r.definition.triggerType), ("version", .ofInt version)])

theorem ofObject_insert_body :
    .ofObject ((r.body.insert "id" (.string id)).insert "version" (.ofInt version)) =
      r.stored id version none := by
  -- The full simp set would turn the order of the keys into one of iterators, and be stuck there.
  simp only [body, members, Definition.members, Graph.members, stored, optionalMember,
    Json.ofObject, Dictionary.ofList, Dictionary.insert, Dictionary.insertEntry, Dictionary.empty,
    List.cons_append, List.nil_append, List.foldl_cons, List.foldl_nil, String.reduceLT, if_true,
    if_false]

theorem setMember_stored (flag : Bool) :
    (r.stored id version active).setMember "isActive" (.bool flag) =
      r.stored id version (some flag) := by
  cases active with
  | none | some before =>
      simp only [stored, optionalMember, Json.setMember, Dictionary.insertEntry, List.cons_append,
        List.nil_append, String.reduceLT, if_true, if_false]

/-- What was stored is read back. -/
theorem decoder_stored (bounds : -Int.pow 2 63 ≤ version ∧ version < Int.pow 2 63) :
    Record.decoder.ofJson (r.stored id version active) =
      .ok ⟨id, active.getD false, { r.definition with version := some version },
        some (r.graph.nodes.map Node.toLoose), some r.graph.edges⟩ := by
  have nodes : nullable (list LooseNode.decoder) .memory
      (.value (.array (r.graph.nodes.map Node.toJson))) =
        .ok (some (r.graph.nodes.map Node.toLoose)) := by
    rw [nullable_value .memory _ (by nofun), Graph.list_nodes]
    rfl
  have edges : nullable (list Edge.decoder) .memory
      (.value (.array (r.graph.edges.map Edge.toJson))) = .ok (some r.graph.edges) :=
    nullable_list .memory fun e _ => Edge.decoder_toJson .memory e
  -- The members that are not the record's own are handed on as an object that was read.
  have definition : Decoder.members Definition.fieldGroup .memory (.object
      ((r.definition.storedMembers version).map fun entry => (some entry.1, .value entry.2)) true) =
        .ok { r.definition with version := some version } :=
    r.definition.decoder_storedMembers .memory bounds
  simp only [Definition.storedMembers, List.map_cons, List.map_nil] at definition
  change Record.decoder .memory (.value (.object _)) = _
  unfold Record.decoder Record.fieldGroup
  rw [members_value]
  cases active with
  | none | some flag =>
      simp [once, required, nodes, edges, definition, optionalMember, Except.map, bind, Except.bind,
        pure, Except.pure]

end SaveRequest

end Workflow

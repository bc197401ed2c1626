import Workflow.Graph.Basic
import Workflow.Json.Decoder

namespace Workflow

/-!
# The editor's format

In the format of the editor, and of what the backend stores beside a definition, a node has the
fields of every kind, all of them optional.  Such a loose node becomes a node once its type is known
to be one of the three kinds: the fields of the other kinds are dropped, a missing config is empty,
and an empty type is no type.
-/

/-- Node data with the fields of every kind. -/
structure LooseData where
  label : String
  triggerType : Option String
  actionType : Option String
  config : Option Object
  condition : Option Object

/-- A node whose type is any text. -/
structure LooseNode where
  id : String
  type : String
  position : Position
  data : LooseData

/-- A graph as the editor sends it. -/
structure LooseGraph where
  nodes : List LooseNode
  edges : List Edge

/-- Data with nothing in it. -/
def LooseData.empty : LooseData := ⟨"", none, none, none, none⟩

namespace LooseNode

/-- The data as data of a kind. -/
def dataAs (data : LooseData) : NodeKind → NodeData
  | .trigger =>
    .trigger ⟨data.label, chosenType data.triggerType, data.config.getD .empty⟩
  | .condition => .condition ⟨data.label, data.condition⟩
  | .action => .action ⟨data.label, chosenType data.actionType, data.config.getD .empty⟩

/-- The node, if its type is a kind. -/
def toNode (raw : LooseNode) : Except GraphError Node :=
  match NodeKind.parse raw.type with
  | .ok kind => .ok ⟨raw.id, raw.position, dataAs raw.data kind⟩
  | .error e => .error e

end LooseNode

/-- The graph, if every node has a kind; the first node without one is reported. -/
def LooseGraph.toGraph (raw : LooseGraph) : Except GraphError Graph := do
  let nodes ← raw.nodes.mapM LooseNode.toNode
  return ⟨nodes, raw.edges⟩

/-- The data in the editor's format. -/
def NodeData.toLoose : NodeData → LooseData
  | .trigger d => ⟨d.label, d.triggerType, none, some d.config, none⟩
  | .condition d => ⟨d.label, none, none, none, d.condition⟩
  | .action d => ⟨d.label, none, d.actionType, some d.config, none⟩

/-- The node in the editor's format. -/
def Node.toLoose (n : Node) : LooseNode := ⟨n.id, n.kind.name, n.position, n.data.toLoose⟩

/-! ## Decoding -/

open Decoder

/-- The coordinates read so far. -/
structure PositionFields where
  x : Option Double := none
  y : Option Double := none

/-- A position needs both coordinates. -/
def Position.decoder : Decoder Position := group {
  names := ["x", "y"]
  start := ({} : PositionFields)
  visit := fun medium fields key source =>
    if key = "x" then (once "x" fields.x (double medium source)).map ({ fields with x := · })
    else if key = "y" then (once "y" fields.y (double medium source)).map ({ fields with y := · })
    else skip fields source
  finish := fun absent fields => do
    return ⟨← required absent "x" fields.x, ← required absent "y" fields.y⟩ }

/-- The data fields read so far. -/
structure LooseDataFields where
  label : Option String := none
  triggerType : Option (Option String) := none
  actionType : Option (Option String) := none
  config : Option (Option Object) := none
  condition : Option (Option Object) := none

/-- Node data: every field may be missing, and the two types have an older spelling. -/
def LooseData.decoder : Decoder LooseData := group {
  names := ["label", "triggerType", "actionType", "config", "condition"]
  start := ({} : LooseDataFields)
  visit := fun medium fields key source =>
    if key = "label" then
      (once "label" fields.label (string medium source)).map ({ fields with label := · })
    else if key = "triggerType" ∨ key = "trigger_type" then
      (once "triggerType" fields.triggerType (nullable string medium source)).map
        ({ fields with triggerType := · })
    else if key = "actionType" ∨ key = "action_type" then
      (once "actionType" fields.actionType (nullable string medium source)).map
        ({ fields with actionType := · })
    else if key = "config" then
      (once "config" fields.config (nullable object medium source)).map
        ({ fields with config := · })
    else if key = "condition" then
      (once "condition" fields.condition (nullable object medium source)).map
        ({ fields with condition := · })
    else skip fields source
  finish := fun _ fields =>
    .ok ⟨fields.label.getD "", fields.triggerType.getD none, fields.actionType.getD none,
      fields.config.getD none, fields.condition.getD none⟩ }

/-- The node fields read so far. -/
structure LooseNodeFields where
  id : Option String := none
  type : Option String := none
  position : Option Position := none
  data : Option LooseData := none

/-- A node needs an id and a type; the type may be any text. -/
def LooseNode.decoder : Decoder LooseNode := group {
  names := ["id", "type", "position", "data"]
  start := ({} : LooseNodeFields)
  visit := fun medium fields key source =>
    if key = "id" then (once "id" fields.id (string medium source)).map ({ fields with id := · })
    else if key = "type" then
      (once "type" fields.type (string medium source)).map ({ fields with type := · })
    else if key = "position" then
      (once "position" fields.position (Position.decoder medium source)).map
        ({ fields with position := · })
    else if key = "data" then
      (once "data" fields.data (LooseData.decoder medium source)).map ({ fields with data := · })
    else skip fields source
  finish := fun absent fields => do
    return ⟨← required absent "id" fields.id, ← required absent "type" fields.type,
      fields.position.getD .origin, fields.data.getD .empty⟩ }

/-- The edge fields read so far. -/
structure EdgeFields where
  id : Option String := none
  source : Option String := none
  target : Option String := none

/-- An edge needs all its fields. -/
def Edge.decoder : Decoder Edge := group {
  names := ["id", "source", "target"]
  start := ({} : EdgeFields)
  visit := fun medium fields key source =>
    if key = "id" then (once "id" fields.id (string medium source)).map ({ fields with id := · })
    else if key = "source" then
      (once "source" fields.source (string medium source)).map ({ fields with source := · })
    else if key = "target" then
      (once "target" fields.target (string medium source)).map ({ fields with target := · })
    else skip fields source
  finish := fun absent fields => do
    return ⟨← required absent "id" fields.id, ← required absent "source" fields.source,
      ← required absent "target" fields.target⟩ }

/-- The fields of a graph read so far. -/
structure GraphFields (ν : Type) where
  nodes : Option (List ν) := none
  edges : Option (List Edge) := none

/-- A graph of nodes of some form: both lists may be missing. -/
def graphDecoder {ν γ : Type} (node : Decoder ν) (make : List ν → List Edge → γ) : Decoder γ :=
  group {
    names := ["nodes", "edges"]
    start := ({} : GraphFields ν)
    visit := fun medium fields key source =>
      if key = "nodes" then
        (once "nodes" fields.nodes (list node medium source)).map ({ fields with nodes := · })
      else if key = "edges" then
        (once "edges" fields.edges (list Edge.decoder medium source)).map
          ({ fields with edges := · })
      else skip fields source
    finish := fun _ fields => .ok (make (fields.nodes.getD []) (fields.edges.getD [])) }

/-- A graph in the editor's format, whatever the types of its nodes. -/
def LooseGraph.decoder : Decoder LooseGraph := graphDecoder LooseNode.decoder .mk

/-! ## Encoding -/

/-- A position, its coordinates always written as doubles. -/
def Position.toJson (p : Position) : Json :=
  .object [("x", .number (.double p.x)), ("y", .number (.double p.y))]

/-- A member that is left out when its value is missing. -/
def optionalMember {α : Type} (key : String) (encode : α → Json) :
    Option α → List (String × Json)
  | some a => [(key, encode a)]
  | none => []

/-- Node data, without the fields that are missing. -/
def LooseData.toJson (d : LooseData) : Json :=
  .object (("label", .string d.label) :: (optionalMember "triggerType" .string d.triggerType ++
    optionalMember "actionType" .string d.actionType ++
    optionalMember "config" .ofObject d.config ++
    optionalMember "condition" .ofObject d.condition))

/-- A node. -/
def LooseNode.toJson (n : LooseNode) : Json :=
  .object [("id", .string n.id), ("type", .string n.type), ("position", n.position.toJson),
    ("data", n.data.toJson)]

/-- An edge. -/
def Edge.toJson (e : Edge) : Json :=
  .object [("id", .string e.id), ("source", .string e.source), ("target", .string e.target)]

end Workflow

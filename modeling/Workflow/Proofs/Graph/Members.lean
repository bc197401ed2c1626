import Mathlib.Data.List.Basic
import Workflow.Graph.Codec
import Workflow.Proofs.Json.Fields

namespace Workflow

/-!
# What nodes and edges say

A position, the data of a node, a node, an edge and a graph are defined here by their members: which
names a field goes by, which of them must be there, what may stand under them, and what counts where
nothing does.  Their decoders find in a source just what it says.
-/

open Decoder

namespace Source

/-- A position needs both coordinates. -/
def IsPosition (root : Source) (p : Position) : Prop :=
  ∃ entries, root.Lists [["x"], ["y"]] entries ∧
    Says IsDouble (under ["x"] entries) p.x ∧ Says IsDouble (under ["y"] entries) p.y

/-- Node data, every field of which may be missing. -/
def IsLooseData (root : Source) (d : LooseData) : Prop :=
  ∃ entries, root.Lists [["label"], ["triggerType", "trigger_type"],
      ["actionType", "action_type"], ["config"], ["condition"]] entries ∧
    OrElse IsText "" (under ["label"] entries) d.label ∧
    MaySay IsText (under ["triggerType", "trigger_type"] entries) d.triggerType ∧
    MaySay IsText (under ["actionType", "action_type"] entries) d.actionType ∧
    MaySay IsObject (under ["config"] entries) d.config ∧
    MaySay IsObject (under ["condition"] entries) d.condition

/-- A node whose type may be any text. -/
def IsLooseNode (root : Source) (n : LooseNode) : Prop :=
  ∃ entries, root.Lists [["id"], ["type"], ["position"], ["data"]] entries ∧
    Says IsText (under ["id"] entries) n.id ∧ Says IsText (under ["type"] entries) n.type ∧
    OrElse IsPosition .origin (under ["position"] entries) n.position ∧
    OrElse IsLooseData .empty (under ["data"] entries) n.data

/-- An edge needs all its fields. -/
def IsEdge (root : Source) (e : Edge) : Prop :=
  ∃ entries, root.Lists [["id"], ["source"], ["target"]] entries ∧
    Says IsText (under ["id"] entries) e.id ∧ Says IsText (under ["source"] entries) e.source ∧
    Says IsText (under ["target"] entries) e.target

/-- A node whose type is one of the three kinds. -/
def IsNode (root : Source) (n : Node) : Prop :=
  ∃ raw, root.IsLooseNode raw ∧ raw.toNode = .ok n

/-- A graph, both of whose lists may be missing. -/
def IsGraph (root : Source) (g : Graph) : Prop :=
  ∃ entries, root.Lists [["nodes"], ["edges"]] entries ∧
    OrElse (IsList IsNode) [] (under ["nodes"] entries) g.nodes ∧
    OrElse (IsList IsEdge) [] (under ["edges"] entries) g.edges

end Source

open Source

variable {medium : Medium} {root : Source}

/-! ## Positions -/

/-- The coordinates of a position. -/
def positionFields : List (GroupField PositionFields Position) :=
  [.needed ["x"] double (·.x) (fun fields x => { fields with x }) (fun _ _ => rfl) Position.x,
    .needed ["y"] double (·.y) (fun fields y => { fields with y }) (fun _ _ => rfl) Position.y]

theorem hasFields_position : Position.decoder.HasFields positionFields := by
  refine ⟨_, rfl, rfl, rfl, ⟨rfl, rfl⟩, ?visit, ?apart, ?state, ?finish⟩
  case visit =>
    intro medium state key source
    simp only [positionFields, GroupField.needed, visitField_cons, visitField_nil,
      List.mem_singleton]
    rfl
  case apart => simp [positionFields, GroupField.needed, GroupField.apart_iff]
  case state =>
    rintro ⟨_, _⟩ ⟨_, _⟩ same
    rwa [PositionFields.mk.injEq]
  case finish =>
    rintro absent ⟨_, _⟩ ⟨_, _⟩
    simp only [bind_eq_ok_iff, required_eq_ok_iff]
    simp [positionFields, GroupField.needed, pure, Except.pure]

theorem Position.decoder_eq_ok_iff {p : Position} :
    Position.decoder medium root = .ok p ↔ root.IsPosition p := by
  refine hasFields_position.eq_ok_iff fun entries => ?_
  exact and_congr (GroupField.means_needed_iff fun _ _ => double_eq_ok_iff)
    (GroupField.means_needed_iff fun _ _ => double_eq_ok_iff)

/-! ## Node data -/

/-- The fields of node data. -/
def looseDataFields : List (GroupField LooseDataFields LooseData) :=
  [.spared ["label"] string (·.label) (fun fields label => { fields with label })
      (fun _ _ => rfl) LooseData.label "",
    .spared ["triggerType", "trigger_type"] (nullable string) (·.triggerType)
      (fun fields triggerType => { fields with triggerType }) (fun _ _ => rfl)
      LooseData.triggerType none,
    .spared ["actionType", "action_type"] (nullable string) (·.actionType)
      (fun fields actionType => { fields with actionType }) (fun _ _ => rfl)
      LooseData.actionType none,
    .spared ["config"] (nullable object) (·.config) (fun fields config => { fields with config })
      (fun _ _ => rfl) LooseData.config none,
    .spared ["condition"] (nullable object) (·.condition)
      (fun fields condition => { fields with condition }) (fun _ _ => rfl)
      LooseData.condition none]

theorem hasFields_looseData : LooseData.decoder.HasFields looseDataFields := by
  refine ⟨_, rfl, rfl, rfl, ⟨rfl, rfl, rfl, rfl, rfl⟩, ?visit, ?apart, ?state, ?finish⟩
  case visit =>
    intro medium state key source
    simp only [looseDataFields, GroupField.spared, visitField_cons, visitField_nil, List.mem_cons,
      List.not_mem_nil, or_false]
    rfl
  case apart => simp [looseDataFields, GroupField.spared, GroupField.apart_iff]
  case state =>
    rintro ⟨_, _⟩ ⟨_, _⟩ same
    rwa [LooseDataFields.mk.injEq]
  case finish =>
    rintro absent ⟨_, _⟩ ⟨_, _⟩
    rw [Except.ok.injEq, LooseData.mk.injEq]
    rfl

theorem LooseData.decoder_eq_ok_iff {d : LooseData} :
    LooseData.decoder medium root = .ok d ↔ root.IsLooseData d := by
  refine hasFields_looseData.eq_ok_iff fun entries => ?_
  exact and_congr (GroupField.means_spared_iff fun _ _ => string_eq_ok_iff) <|
    and_congr (GroupField.means_spared_iff fun _ _ => nullable_string_eq_ok_iff) <|
    and_congr (GroupField.means_spared_iff fun _ _ => nullable_string_eq_ok_iff) <|
    and_congr (GroupField.means_spared_iff fun _ _ => nullable_object_eq_ok_iff)
      (GroupField.means_spared_iff fun _ _ => nullable_object_eq_ok_iff)

/-! ## Nodes -/

/-- The fields of a node. -/
def looseNodeFields : List (GroupField LooseNodeFields LooseNode) :=
  [.needed ["id"] string (·.id) (fun fields id => { fields with id }) (fun _ _ => rfl)
      LooseNode.id,
    .needed ["type"] string (·.type) (fun fields type => { fields with type }) (fun _ _ => rfl)
      LooseNode.type,
    .spared ["position"] Position.decoder (·.position)
      (fun fields position => { fields with position }) (fun _ _ => rfl) LooseNode.position .origin,
    .spared ["data"] LooseData.decoder (·.data) (fun fields data => { fields with data })
      (fun _ _ => rfl) LooseNode.data .empty]

theorem hasFields_looseNode : LooseNode.decoder.HasFields looseNodeFields := by
  refine ⟨_, rfl, rfl, rfl, ⟨rfl, rfl, rfl, rfl⟩, ?visit, ?apart, ?state, ?finish⟩
  case visit =>
    intro medium state key source
    simp only [looseNodeFields, GroupField.needed, GroupField.spared, visitField_cons,
      visitField_nil, List.mem_singleton]
    rfl
  case apart =>
    simp [looseNodeFields, GroupField.needed, GroupField.spared, GroupField.apart_iff]
  case state =>
    rintro ⟨_, _⟩ ⟨_, _⟩ same
    rwa [LooseNodeFields.mk.injEq]
  case finish =>
    rintro absent ⟨_, _⟩ ⟨_, _⟩
    simp only [bind_eq_ok_iff, required_eq_ok_iff]
    simp [looseNodeFields, GroupField.needed, GroupField.spared, pure, Except.pure]

theorem LooseNode.decoder_eq_ok_iff {n : LooseNode} :
    LooseNode.decoder medium root = .ok n ↔ root.IsLooseNode n := by
  refine hasFields_looseNode.eq_ok_iff fun entries => ?_
  exact and_congr (GroupField.means_needed_iff fun _ _ => string_eq_ok_iff) <|
    and_congr (GroupField.means_needed_iff fun _ _ => string_eq_ok_iff) <|
    and_congr (GroupField.means_spared_iff fun _ _ => Position.decoder_eq_ok_iff)
      (GroupField.means_spared_iff fun _ _ => LooseData.decoder_eq_ok_iff)

/-! ## Edges -/

/-- The fields of an edge. -/
def edgeFields : List (GroupField EdgeFields Edge) :=
  [.needed ["id"] string (·.id) (fun fields id => { fields with id }) (fun _ _ => rfl) Edge.id,
    .needed ["source"] string (·.source) (fun fields source => { fields with source })
      (fun _ _ => rfl) Edge.source,
    .needed ["target"] string (·.target) (fun fields target => { fields with target })
      (fun _ _ => rfl) Edge.target]

theorem hasFields_edge : Edge.decoder.HasFields edgeFields := by
  refine ⟨_, rfl, rfl, rfl, ⟨rfl, rfl, rfl⟩, ?visit, ?apart, ?state, ?finish⟩
  case visit =>
    intro medium state key source
    simp only [edgeFields, GroupField.needed, visitField_cons, visitField_nil, List.mem_singleton]
    rfl
  case apart => simp [edgeFields, GroupField.needed, GroupField.apart_iff]
  case state =>
    rintro ⟨_, _⟩ ⟨_, _⟩ same
    rwa [EdgeFields.mk.injEq]
  case finish =>
    rintro absent ⟨_, _⟩ ⟨_, _⟩
    simp only [bind_eq_ok_iff, required_eq_ok_iff]
    simp [edgeFields, GroupField.needed, pure, Except.pure]

theorem Edge.decoder_eq_ok_iff {e : Edge} :
    Edge.decoder medium root = .ok e ↔ root.IsEdge e := by
  refine hasFields_edge.eq_ok_iff fun entries => ?_
  exact and_congr (GroupField.means_needed_iff fun _ _ => string_eq_ok_iff) <|
    and_congr (GroupField.means_needed_iff fun _ _ => string_eq_ok_iff)
      (GroupField.means_needed_iff fun _ _ => string_eq_ok_iff)

/-! ## Graphs -/

theorem Node.decoder_eq_ok_iff {n : Node} : Node.decoder medium root = .ok n ↔ root.IsNode n :=
  bind_eq_ok_iff.trans <| exists_congr fun _ =>
    and_congr LooseNode.decoder_eq_ok_iff mapError_eq_ok_iff

/-- The fields of a graph. -/
def graphFields : List (GroupField (GraphFields Node) Graph) :=
  [.spared ["nodes"] (list Node.decoder) (·.nodes) (fun fields nodes => { fields with nodes })
      (fun _ _ => rfl) Graph.nodes [],
    .spared ["edges"] (list Edge.decoder) (·.edges) (fun fields edges => { fields with edges })
      (fun _ _ => rfl) Graph.edges []]

theorem hasFields_graph : Graph.decoder.HasFields graphFields := by
  refine ⟨_, rfl, rfl, rfl, ⟨rfl, rfl⟩, ?visit, ?apart, ?state, ?finish⟩
  case visit =>
    intro medium state key source
    simp only [graphFields, GroupField.spared, visitField_cons, visitField_nil,
      List.mem_singleton]
    rfl
  case apart => simp [graphFields, GroupField.spared, GroupField.apart_iff]
  case state =>
    rintro ⟨_, _⟩ ⟨_, _⟩ same
    rwa [GraphFields.mk.injEq]
  case finish =>
    rintro absent ⟨_, _⟩ ⟨_, _⟩
    rw [Except.ok.injEq, Graph.mk.injEq]
    rfl

theorem Graph.decoder_eq_ok_iff {g : Graph} :
    Graph.decoder medium root = .ok g ↔ root.IsGraph g := by
  refine hasFields_graph.eq_ok_iff fun entries => ?_
  exact and_congr
    (GroupField.means_spared_iff fun _ _ => list_eq_ok_iff fun _ _ => Node.decoder_eq_ok_iff)
    (GroupField.means_spared_iff fun _ _ => list_eq_ok_iff fun _ _ => Edge.decoder_eq_ok_iff)

end Workflow

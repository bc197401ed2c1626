import Workflow.Graph.Codec
import Workflow.Proofs.Json.Converting

namespace Workflow

/-!
# Two ways of reading a graph

A graph can be read node by node, with a look at the type of each node before the next one.  Or it
can be read in the editor's format first, where a type may be any text, and become a graph then.
Both accept the same sources and give the same graph.  If only the types are wrong, both name the
type of the first node where it is.

Edges are the same in both, and so is everything in a node but its type.
-/

open Decoder

/-- A node as a decoder takes it: one whose type is no kind is a problem of the source. -/
def LooseNode.settle (raw : LooseNode) : Except DecodeError Node :=
  raw.toNode.mapError GraphError.toDecodeError

/-- The nodes of a graph, if they were read. -/
def GraphFields.settleNodes : Option (List LooseNode) → Except DecodeError (Option (List Node))
  | none => .ok none
  | some nodes => (nodes.mapM LooseNode.settle).map some

/-- The fields of a graph read so far, with the nodes that were read settled. -/
def GraphFields.settle (fields : GraphFields LooseNode) : Except DecodeError (GraphFields Node) :=
  (settleNodes fields.nodes).map fun nodes => ⟨nodes, fields.edges⟩

/-- A graph as a decoder takes it. -/
def LooseGraph.settle (raw : LooseGraph) : Except DecodeError Graph :=
  raw.toGraph.mapError GraphError.toDecodeError

/-- A graph is settled by settling its nodes. -/
theorem LooseGraph.settle_eq (raw : LooseGraph) :
    raw.settle = (raw.nodes.mapM LooseNode.settle).map fun settled => ⟨settled, raw.edges⟩ := by
  have nodes : raw.nodes.mapM LooseNode.settle =
      (raw.nodes.mapM LooseNode.toNode).mapError GraphError.toDecodeError :=
    mapM_mapError GraphError.toDecodeError LooseNode.toNode raw.nodes
  rw [nodes, settle, toGraph]
  cases raw.nodes.mapM LooseNode.toNode <;> rfl

theorem LooseGraph.settle_eq_ok_iff {raw : LooseGraph} {g : Graph} :
    raw.settle = .ok g ↔ raw.toGraph = .ok g :=
  mapError_eq_ok_iff

variable (medium : Medium) (source : Source)

theorem GraphFields.converts_nodes (fields : GraphFields LooseNode) :
    Converts settle
      ((once "nodes" fields.nodes (list LooseNode.decoder medium source)).map
        ({ fields with nodes := · }))
      (fields.settle >>= fun found =>
        (once "nodes" found.nodes (list Node.decoder medium source)).map
          ({ found with nodes := · })) := by
  rcases fields with ⟨nodes, edges⟩
  cases nodes with
  | none =>
      have lists : Converts (·.mapM LooseNode.settle) (list LooseNode.decoder medium source)
          (list Node.decoder medium source) :=
        converts_list LooseNode.decoder LooseNode.settle medium source
      have slots : Converts settleNodes ((list LooseNode.decoder medium source).map some)
          ((list Node.decoder medium source).map some) := lists.map fun nodes => rfl
      exact slots.map fun slot => rfl
  | some nodes =>
      -- Nodes were read before, so that these are refused by both readers.
      unfold settle settleNodes
      dsimp only
      cases nodes.mapM LooseNode.settle with
      | ok settled => exact .of_eq_error rfl rfl
      | error problem => exact .of_eq_error rfl rfl

theorem GraphFields.converts_edges (fields : GraphFields LooseNode) :
    Converts settle
      ((once "edges" fields.edges (list Edge.decoder medium source)).map
        ({ fields with edges := · }))
      (fields.settle >>= fun found =>
        (once "edges" found.edges (list Edge.decoder medium source)).map
          ({ found with edges := · })) := by
  rcases fields with ⟨nodes, edges⟩
  have same : ((⟨nodes, edges⟩ : GraphFields LooseNode).settle >>= fun found =>
      (once "edges" found.edges (list Edge.decoder medium source)).map
        ({ found with edges := · })) =
      ((⟨nodes, edges⟩ : GraphFields LooseNode).settle >>= fun found =>
        (once "edges" edges (list Edge.decoder medium source)).map
          ({ found with edges := · })) := by
    unfold settle
    dsimp only
    cases settleNodes nodes <;> rfl
  rw [same]
  cases once "edges" edges (list Edge.decoder medium source) with
  | error problem => exact .error problem problem _
  | ok slot =>
      refine .of_eq_ok rfl ?_
      unfold settle
      dsimp only
      cases settleNodes nodes <;> rfl

theorem GraphFields.converts_skip (fields : GraphFields LooseNode) :
    Converts settle (skip fields source) (fields.settle >>= fun found => skip found source) := by
  unfold skip
  split
  · refine .of_eq_ok rfl ?_
    cases fields.settle <;> rfl
  · exact .error .malformed .malformed fields.settle

/-- Where a graph is read node by node, the graph that is read first is settled. -/
theorem LooseGraph.converts_decoder :
    Converts settle (decoder medium source) (Graph.decoder medium source) := by
  unfold decoder Graph.decoder graphDecoder
  refine GroupConverts.group (⟨rfl, rfl, ?_, ?_⟩ : GroupConverts GraphFields.settle settle _ _)
    medium source
  · intro medium fields key source
    dsimp only
    by_cases nodes : key = "nodes"
    · simp only [if_pos nodes]
      exact fields.converts_nodes medium source
    · by_cases edges : key = "edges"
      · simp only [if_neg nodes, if_pos edges]
        exact fields.converts_edges medium source
      · simp only [if_neg nodes, if_neg edges]
        exact fields.converts_skip source
  · intro absent fields
    refine .of_eq_ok rfl ?_
    rw [settle_eq]
    rcases fields with ⟨_ | nodes, edges⟩
    · rfl
    · unfold GraphFields.settle GraphFields.settleNodes
      rw [Option.getD_some]
      dsimp only
      cases nodes.mapM LooseNode.settle <;> rfl

/-- A node is refused for its type alone. -/
theorem LooseNode.toNode_eq_error_iff {raw : LooseNode} {problem : GraphError} :
    raw.toNode = .error problem ↔
      NodeKind.ofName? raw.type = none ∧ problem = .unknownKind raw.type := by
  unfold toNode NodeKind.parse
  cases NodeKind.ofName? raw.type with
  | some kind => simp
  | none => simp [eq_comm]

/-- The problem of a graph is the type of the first node whose type is no kind. -/
theorem LooseGraph.exists_of_toGraph_eq_error {raw : LooseGraph} {problem : GraphError}
    (refused : raw.toGraph = .error problem) :
    ∃ earlier n later, raw.nodes = earlier ++ n :: later ∧
      (∀ m ∈ earlier, (NodeKind.ofName? m.type).isSome = true) ∧
      NodeKind.ofName? n.type = none ∧ problem = .unknownKind n.type := by
  have nodes : raw.nodes.mapM LooseNode.toNode = .error problem := by
    cases read : raw.nodes.mapM LooseNode.toNode with
    | ok nodes =>
        rw [toGraph, read] at refused
        cases refused
    | error other =>
        rw [toGraph, read] at refused
        exact congrArg Except.error (Except.error.inj refused)
  rcases exists_of_mapM_eq_error nodes with ⟨earlier, n, later, split, read, missing⟩
  refine ⟨earlier, n, later, split, ?_, LooseNode.toNode_eq_error_iff.mp missing⟩
  intro m member
  rcases read m member with ⟨node, found⟩
  cases kind : NodeKind.ofName? m.type with
  | some kind => rfl
  | none =>
      rw [LooseNode.toNode_eq_error_iff.mpr ⟨kind, rfl⟩] at found
      cases found

/-- A source, be it a value or a text, is read as a graph exactly if it is read in the editor's
format and every node of what is read has a kind, and both give the same graph.  If it is read in
the editor's format only, then reading it as a graph fails with the same complaint: that of the type
of the first node that has no kind. -/
theorem two_readers_agree :
    (∀ g, Graph.decoder medium source = .ok g ↔
      ∃ raw, LooseGraph.decoder medium source = .ok raw ∧ raw.toGraph = .ok g) ∧
    ∀ raw problem, LooseGraph.decoder medium source = .ok raw → raw.toGraph = .error problem →
      ∃ earlier n later, raw.nodes = earlier ++ n :: later ∧
        (∀ m ∈ earlier, (NodeKind.ofName? m.type).isSome = true) ∧
        NodeKind.ofName? n.type = none ∧ problem = .unknownKind n.type ∧
        Graph.decoder medium source = .error (.unknownNodeKind n.type) ∧
        (DecodeError.unknownNodeKind n.type).message = problem.message := by
  have converts := LooseGraph.converts_decoder medium source
  constructor
  · intro g
    rw [converts.eq_ok_iff]
    apply exists_congr
    intro raw
    rw [LooseGraph.settle_eq_ok_iff]
  · intro raw problem read refused
    rcases LooseGraph.exists_of_toGraph_eq_error refused with
      ⟨earlier, n, later, split, kinds, unknown, rfl⟩
    refine ⟨earlier, n, later, split, kinds, unknown, rfl, ?_, rfl⟩
    rw [converts.eq_convert raw read, LooseGraph.settle, refused]
    rfl

/-- An action, and two nodes whose types are no kinds. -/
def strangeGraph : Json :=
  let node (id type : String) : Json := .object [("id", .string id), ("type", .string type)]
  .object [("nodes", .array [node "a" "action", node "b" "step", node "c" "loop"])]

/-- Both readers complain of the first type that is no kind. -/
theorem two_readers_agree_strange :
    ∃ raw, LooseGraph.decoder .memory (.value strangeGraph) = .ok raw ∧
      raw.toGraph = .error (.unknownKind "step") ∧
      Graph.decoder .memory (.value strangeGraph) = .error (.unknownNodeKind "step") := by
  have refused : ∃ raw, LooseGraph.decoder .memory (.value strangeGraph) = .ok raw ∧
      raw.toGraph = .error (.unknownKind "step") := ⟨_, rfl, rfl⟩
  rcases refused with ⟨raw, read, first⟩
  rcases (two_readers_agree .memory (.value strangeGraph)).2 raw _ read first with
    ⟨_, n, _, _, _, _, problem, direct, _⟩
  have type : "step" = n.type := GraphError.unknownKind.inj problem
  exact ⟨raw, read, first, type ▸ direct⟩

end Workflow

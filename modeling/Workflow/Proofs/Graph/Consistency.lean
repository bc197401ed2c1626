import Workflow.Proofs.Graph.Edits
import Workflow.Proofs.Graph.FreshIds

namespace Workflow

/-!
# Graphs that were built by edits

A graph may have any shape, but not every shape comes from editing.  Ids of new nodes and new edges
are free when they are given, a node that is removed takes its edges along, and no other edit
touches an id.  So the ids in a graph that was built from nothing are unambiguous, and its edges
lead from node to node, although ids are given again after a removal.

Edges can be made between any two texts.  Here they are made between nodes that are there at that
moment; only this is asked of the edits, and every other edit may have any arguments and may fail.
-/

namespace Graph

/-- All nodes and all edges can be told apart by their ids, the id of a node is the name of its kind
with a number, and edges connect nodes that are there. -/
structure Consistent (g : Graph) : Prop where
  node_ids : (g.nodes.map Node.id).Nodup
  numbered : ∀ n ∈ g.nodes, ∃ k, 1 ≤ k ∧ n.id = n.kind.name ++ "-" ++ toString k
  edge_ids : (g.edges.map Edge.id).Nodup
  ends : ∀ e ∈ g.edges, e.source ∈ g.nodes.map Node.id ∧ e.target ∈ g.nodes.map Node.id

/-- What the edits other than adding and removing leave of a node. -/
def tag (n : Node) : String × NodeKind := (n.id, n.kind)

theorem map_modifyFirst {α β : Type} {f : α → β} {test : α → Bool} {change : α → α}
    {items : List α} (kept : ∀ a, items.find? test = some a → f (change a) = f a) :
    (modifyFirst test change items).map f = items.map f := by
  induction items with
  | nil => rfl
  | cons head rest inductionHypothesis =>
      rw [modifyFirst]
      split
      · next hit =>
        rw [List.map_cons, List.map_cons, kept head (List.find?_cons_of_pos hit)]
      · next missed =>
        rw [List.find?_cons_of_neg missed] at kept
        rw [List.map_cons, List.map_cons, inductionHypothesis kept]

theorem kind_of_patchData {patches : List NodePatch} {data after : NodeData}
    (applied : patchData data patches = .ok after) : after.kind = data.kind := by
  refine patchData_preserves (P := fun d => d.kind = data.kind) ?_ applied rfl
  intro patch _ before next fits same
  rw [← same]
  cases patch <;> cases before <;> cases fits <;> rfl

variable {g : Graph}

theorem map_tag_updateNode {after : Graph} {id : String} {patches : List NodePatch}
    (updated : g.updateNode id patches = .ok after) :
    after.nodes.map tag = g.nodes.map tag ∧ after.edges = g.edges := by
  unfold updateNode at updated
  split at updated
  · cases updated
  · next n found =>
    split at updated
    · cases updated
    · next data applied =>
      obtain rfl := Except.ok.inj updated
      refine ⟨map_modifyFirst ?_, rfl⟩
      intro m first
      obtain rfl := Option.some.inj (found.symm.trans first)
      exact Prod.ext rfl (kind_of_patchData applied)

theorem map_tag_moveNode {after : Graph} {id : String} {position : Position}
    (moved : g.moveNode id position = .ok after) :
    after.nodes.map tag = g.nodes.map tag ∧ after.edges = g.edges := by
  unfold moveNode at moved
  split at moved
  · cases moved
  · obtain rfl := Except.ok.inj moved
    exact ⟨map_modifyFirst fun _ _ => rfl, rfl⟩

namespace Consistent

theorem empty : Graph.empty.Consistent := ⟨List.nodup_nil, nofun, List.nodup_nil, nofun⟩

/-- Consistency does not depend on positions and data. -/
theorem of_map_tag (consistent : g.Consistent) {after : Graph}
    (same : after.nodes.map tag = g.nodes.map tag ∧ after.edges = g.edges) : after.Consistent := by
  have ids : after.nodes.map Node.id = g.nodes.map Node.id := by
    have firsts := congrArg (List.map Prod.fst) same.1
    rwa [List.map_map, List.map_map] at firsts
  refine ⟨ids ▸ consistent.node_ids, ?_, same.2 ▸ consistent.edge_ids, ?_⟩
  · intro n member
    have tagged : tag n ∈ g.nodes.map tag := same.1 ▸ List.mem_map_of_mem member
    rcases List.mem_map.mp tagged with ⟨m, old, equal⟩
    rcases Prod.mk.inj equal with ⟨sameId, sameKind⟩
    rw [← sameId, ← sameKind]
    exact consistent.numbered m old
  · rw [ids, same.2]
    exact consistent.ends

theorem addNode (consistent : g.Consistent) (kind : NodeKind) (position : Position) :
    (g.addNode kind position).Consistent := by
  have ids : (g.addNode kind position).nodes.map Node.id =
      g.nodes.map Node.id ++ [g.freshNodeId kind] := List.map_append
  refine ⟨?_, ?_, consistent.edge_ids, ?_⟩
  · rw [ids]
    exact (List.perm_append_singleton _ _).nodup_iff.mpr
      (List.nodup_cons.mpr ⟨g.freshNodeId_not_mem kind, consistent.node_ids⟩)
  · intro n member
    rcases List.mem_append.mp member with old | new
    · exact consistent.numbered n old
    · obtain rfl := List.mem_singleton.mp new
      have sameKind : (g.newNode kind position).kind = kind := by cases kind <;> rfl
      rw [sameKind]
      exact g.exists_freshNodeId_eq kind
  · intro e member
    rw [ids]
    rcases consistent.ends e member with ⟨source, target⟩
    exact ⟨List.mem_append_left _ source, List.mem_append_left _ target⟩

/-- The edges that stay do not touch the node that goes. -/
theorem removeNode (consistent : g.Consistent) (id : String) : (g.removeNode id).Consistent := by
  unfold Graph.removeNode
  split
  · have nodes : (g.nodes.eraseP (·.id == id)).Sublist g.nodes := List.eraseP_sublist
    have stays {other : String} (present : other ∈ g.nodes.map Node.id) (apart : other ≠ id) :
        other ∈ (g.nodes.eraseP (·.id == id)).map Node.id := by
      rcases List.mem_map.mp present with ⟨n, member, rfl⟩
      exact List.mem_map_of_mem ((List.mem_eraseP_of_neg (by simpa using apart)).mpr member)
    refine ⟨consistent.node_ids.sublist (nodes.map _), ?_,
      consistent.edge_ids.sublist (List.filter_sublist.map _), ?_⟩
    · exact fun n member => consistent.numbered n (nodes.subset member)
    · intro e member
      rcases List.mem_filter.mp member with ⟨old, apart⟩
      rw [Bool.and_eq_true, bne_iff_ne, bne_iff_ne] at apart
      rcases consistent.ends e old with ⟨source, target⟩
      exact ⟨stays source apart.1, stays target apart.2⟩
  · exact consistent

theorem connect (consistent : g.Consistent) {source target : String}
    (sourceThere : source ∈ g.nodes.map Node.id) (targetThere : target ∈ g.nodes.map Node.id) :
    (g.connect source target).Consistent := by
  refine ⟨consistent.node_ids, consistent.numbered, ?_, ?_⟩
  · have ids : (g.connect source target).edges.map Edge.id =
        g.edges.map Edge.id ++ [g.freshEdgeId source target] := List.map_append
    rw [ids]
    exact (List.perm_append_singleton _ _).nodup_iff.mpr
      (List.nodup_cons.mpr ⟨g.freshEdgeId_not_mem source target, consistent.edge_ids⟩)
  · intro e member
    rcases List.mem_append.mp member with old | new
    · exact consistent.ends e old
    · obtain rfl := List.mem_singleton.mp new
      exact ⟨sourceThere, targetThere⟩

theorem disconnect (consistent : g.Consistent) (id : String) : (g.disconnect id).Consistent := by
  have edges : (g.edges.eraseP (·.id == id)).Sublist g.edges := List.eraseP_sublist
  refine ⟨consistent.node_ids, consistent.numbered, consistent.edge_ids.sublist (edges.map _), ?_⟩
  exact fun e member => consistent.ends e (edges.subset member)

end Consistent

/-! ## Edits -/

/-- Whether an edit keeps to the nodes that are there: only connecting need not do so by itself. -/
def permits (g : Graph) : Edit → Bool
  | .connect source target => (g.node? source).isSome && (g.node? target).isSome
  | _ => true

/-- Whether each edit keeps to the nodes that are there when it is made. -/
def permitsAll (g : Graph) : List Edit → Bool
  | [] => true
  | e :: rest => g.permits e && (g.edit e).permitsAll rest

/-- The graph after some edits. -/
def edits (g : Graph) (es : List Edit) : Graph := es.foldl edit g

theorem mem_ids_of_node?_isSome {id : String} (found : (g.node? id).isSome = true) :
    id ∈ g.nodes.map Node.id := by
  rcases List.find?_isSome.mp found with ⟨n, member, same⟩
  exact List.mem_map.mpr ⟨n, member, beq_iff_eq.mp same⟩

theorem Consistent.edit (consistent : g.Consistent) {e : Edit} (permitted : g.permits e = true) :
    (g.edit e).Consistent := by
  cases e with
  | addNode kind position => exact consistent.addNode kind position
  | removeNode id => exact consistent.removeNode id
  | connect source target =>
      rcases Bool.and_eq_true_iff.mp permitted with ⟨sourceThere, targetThere⟩
      exact consistent.connect (mem_ids_of_node?_isSome sourceThere)
        (mem_ids_of_node?_isSome targetThere)
  | disconnect id => exact consistent.disconnect id
  | updateNode id patches =>
      change ((g.updateNode id patches).toOption.getD g).Consistent
      cases updated : g.updateNode id patches with
      | error problem => exact consistent
      | ok after => exact consistent.of_map_tag (map_tag_updateNode updated)
  | moveNode id position =>
      change ((g.moveNode id position).toOption.getD g).Consistent
      cases moved : g.moveNode id position with
      | error problem => exact consistent
      | ok after => exact consistent.of_map_tag (map_tag_moveNode moved)

theorem Consistent.edits (consistent : g.Consistent) {es : List Edit}
    (permitted : g.permitsAll es = true) : (g.edits es).Consistent := by
  induction es generalizing g with
  | nil => exact consistent
  | cons e rest inductionHypothesis =>
      rcases Bool.and_eq_true_iff.mp permitted with ⟨first, others⟩
      exact inductionHypothesis (consistent.edit first) others

/-- No edge touches a node that is new. -/
theorem Consistent.newNode_untouched (consistent : g.Consistent) (kind : NodeKind)
    (position : Position) {e : Edge} (member : e ∈ (g.addNode kind position).edges) :
    e.source ≠ (g.newNode kind position).id ∧ e.target ≠ (g.newNode kind position).id := by
  have fresh : (g.newNode kind position).id ∉ g.nodes.map Node.id := g.freshNodeId_not_mem kind
  rcases consistent.ends e member with ⟨source, target⟩
  exact ⟨fun same => fresh (same ▸ source), fun same => fresh (same ▸ target)⟩

/-- Whatever edits a graph is built by, if nodes are connected only while they are there: its nodes
have different ids, each the name of the node's kind with a number; its edges have different ids,
and connect nodes that are there; and a further new node is touched by no edge. -/
theorem built_consistent (es : List Edit) (permitted : empty.permitsAll es = true) :
    let g := empty.edits es
    (g.nodes.map Node.id).Nodup ∧
      (∀ n ∈ g.nodes, ∃ k, 1 ≤ k ∧ n.id = n.kind.name ++ "-" ++ toString k) ∧
      (g.edges.map Edge.id).Nodup ∧
      (∀ e ∈ g.edges, (∃ n ∈ g.nodes, n.id = e.source) ∧ ∃ n ∈ g.nodes, n.id = e.target) ∧
      ∀ kind position, ∀ e ∈ (g.addNode kind position).edges,
        e.source ≠ (g.newNode kind position).id ∧ e.target ≠ (g.newNode kind position).id := by
  intro g
  have consistent : g.Consistent := Consistent.empty.edits permitted
  refine ⟨consistent.node_ids, consistent.numbered, consistent.edge_ids, ?_, ?_⟩
  · intro e member
    rcases consistent.ends e member with ⟨source, target⟩
    exact ⟨List.mem_map.mp source, List.mem_map.mp target⟩
  · exact fun kind position e member => consistent.newNode_untouched kind position member

/-- An id is given again after its node was removed, and the edges of that node are gone. -/
theorem built_consistent_reused :
    let es : List Edit := [.addNode .trigger .origin, .addNode .action .origin,
      .connect "trigger-1" "action-1", .removeNode "trigger-1", .addNode .trigger .origin]
    let g := empty.edits es
    empty.permitsAll es = true ∧ g.nodes.map Node.id = ["action-1", "trigger-1"] ∧
      (g.nodes.map Node.id).Nodup ∧ (g.edges.map Edge.id).Nodup ∧
      ∀ e ∈ (g.addNode .trigger .origin).edges,
        e.source ≠ (g.newNode .trigger .origin).id ∧
          e.target ≠ (g.newNode .trigger .origin).id := by
  intro es g
  have permitted : empty.permitsAll es = true := by decide +kernel
  rcases built_consistent es permitted with ⟨nodeIds, _, edgeIds, _, untouched⟩
  exact ⟨permitted, by decide +kernel, nodeIds, edgeIds, untouched .trigger .origin⟩

end Graph

end Workflow

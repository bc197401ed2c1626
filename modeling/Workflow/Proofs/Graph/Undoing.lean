import Workflow.Proofs.Graph.Consistency

namespace Workflow

/-!
# Edits that are undone

Removing looks for the first node or edge with an id, so that it takes back an addition only if the
id was free before.  The ids of new nodes and edges are free, whatever else the graph holds.  One
thing can be in the way: an edge that names a node before it is there goes when the node goes.  No
graph that was built by edits has such an edge.

Where all nodes can be told apart, removing a node leaves just the other nodes and the edges that do
not touch it.
-/

namespace Graph

section Lists

variable {α : Type} {id : α → String} {items : List α} {a : α} {name : String}

theorem not_named_of_not_mem (absent : name ∉ items.map id) :
    ∀ a ∈ items, ¬(id a == name) = true := by
  intro a member same
  exact absent (List.mem_map.mpr ⟨a, member, beq_iff_eq.mp same⟩)

theorem find?_of_not_mem (absent : name ∉ items.map id) : items.find? (id · == name) = none :=
  List.find?_eq_none.mpr (not_named_of_not_mem absent)

theorem eraseP_of_not_mem (absent : name ∉ items.map id) : items.eraseP (id · == name) = items :=
  List.eraseP_of_forall_not (not_named_of_not_mem absent)

/-- What is added at the end under a free name is the first with that name. -/
theorem find?_append_of_not_mem (free : id a ∉ items.map id) :
    (items ++ [a]).find? (id · == id a) = some a := by
  rw [List.find?_append, find?_of_not_mem free, Option.none_or]
  exact List.find?_cons_of_pos (beq_self_eq_true (id a))

theorem eraseP_append_of_not_mem (free : id a ∉ items.map id) :
    (items ++ [a]).eraseP (id · == id a) = items := by
  have last : [a].eraseP (id · == id a) = [] := List.eraseP_cons_of_pos (beq_self_eq_true (id a))
  rw [List.eraseP_append_right _ (not_named_of_not_mem free), last, List.append_nil]

/-- Where names are different, the first with a name is the only one. -/
theorem find?_of_mem (different : (items.map id).Nodup) (member : a ∈ items) :
    items.find? (id · == id a) = some a := by
  induction items with
  | nil => cases member
  | cons head rest inductionHypothesis =>
      rcases List.nodup_cons.mp different with ⟨unique, others⟩
      rcases List.mem_cons.mp member with rfl | later
      · exact List.find?_cons_of_pos (beq_self_eq_true (id a))
      · have missed : ¬(id head == id a) = true := by
          intro same
          exact unique (List.mem_map.mpr ⟨a, later, (beq_iff_eq.mp same).symm⟩)
        rw [← inductionHypothesis others later]
        exact List.find?_cons_of_neg missed

theorem eraseP_eq_filter (different : (items.map id).Nodup) :
    items.eraseP (id · == name) = items.filter (id · ≠ name) := by
  induction items with
  | nil => rfl
  | cons head rest inductionHypothesis =>
      rcases List.nodup_cons.mp different with ⟨unique, others⟩
      by_cases same : id head = name
      · subst same
        have erased : (head :: rest).eraseP (id · == id head) = rest :=
          List.eraseP_cons_of_pos (beq_self_eq_true (id head))
        have kept : rest.filter (id · ≠ id head) = rest := by
          refine List.filter_eq_self.mpr ?_
          intro a member
          exact decide_eq_true fun equal => unique (List.mem_map.mpr ⟨a, member, equal⟩)
        rw [erased, List.filter_cons_of_neg (by simp), kept]
      · have missed : ¬(id head == name) = true := mt beq_iff_eq.mp same
        have erased : (head :: rest).eraseP (id · == name) = head :: rest.eraseP (id · == name) :=
          List.eraseP_cons_of_neg missed
        have kept : (head :: rest).filter (id · ≠ name) = head :: rest.filter (id · ≠ name) :=
          List.filter_cons_of_pos (decide_eq_true same)
        rw [erased, kept, inductionHypothesis others]

end Lists

variable {g : Graph} {id : String}

theorem removeNode_of_mem (present : id ∈ g.nodes.map Node.id) :
    g.removeNode id =
      ⟨g.nodes.eraseP (·.id == id), g.edges.filter fun e => e.source ≠ id ∧ e.target ≠ id⟩ := by
  rcases List.mem_map.mp present with ⟨n, member, same⟩
  have found : (g.node? id).isSome = true :=
    List.find?_isSome.mpr ⟨n, member, beq_iff_eq.mpr same⟩
  rw [removeNode, if_pos found]
  congr 2
  funext e
  rw [Bool.decide_and, bne, bne, decide_not, decide_not]
  rfl

theorem removeNode_of_not_mem (absent : id ∉ g.nodes.map Node.id) : g.removeNode id = g :=
  if_neg (mt mem_ids_of_node?_isSome absent)

theorem disconnect_of_not_mem (absent : id ∉ g.edges.map Edge.id) : g.disconnect id = g :=
  congrArg (Graph.mk g.nodes) (eraseP_of_not_mem absent)

theorem disconnect_connect (g : Graph) (source target : String) :
    (g.connect source target).disconnect (g.newEdge source target).id = g :=
  congrArg (Graph.mk g.nodes) (eraseP_append_of_not_mem (g.freshEdgeId_not_mem source target))

theorem removeNode_addNode {kind : NodeKind} {position : Position}
    (untouched : ∀ e ∈ g.edges, e.source ≠ (g.newNode kind position).id ∧
      e.target ≠ (g.newNode kind position).id) :
    (g.addNode kind position).removeNode (g.newNode kind position).id = g := by
  have present : (g.newNode kind position).id ∈ (g.addNode kind position).nodes.map Node.id :=
    List.mem_map_of_mem (List.mem_append_right _ List.mem_cons_self)
  have nodes : (g.addNode kind position).nodes.eraseP (·.id == (g.newNode kind position).id) =
      g.nodes := eraseP_append_of_not_mem (g.freshNodeId_not_mem kind)
  have edges : (g.addNode kind position).edges.filter (fun e =>
      e.source ≠ (g.newNode kind position).id ∧ e.target ≠ (g.newNode kind position).id) =
      g.edges := List.filter_eq_self.mpr fun e member => decide_eq_true (untouched e member)
  rw [removeNode_of_mem present, nodes, edges]

/-- In a graph that was built by edits, adding a node can always be taken back. -/
theorem Consistent.removeNode_addNode (consistent : g.Consistent) (kind : NodeKind)
    (position : Position) :
    (g.addNode kind position).removeNode (g.newNode kind position).id = g :=
  Graph.removeNode_addNode fun _ member => consistent.newNode_untouched kind position member

theorem removeNode_of_nodup (different : (g.nodes.map Node.id).Nodup)
    (present : id ∈ g.nodes.map Node.id) :
    g.removeNode id =
      ⟨g.nodes.filter (·.id ≠ id), g.edges.filter fun e => e.source ≠ id ∧ e.target ≠ id⟩ := by
  rw [removeNode_of_mem present, eraseP_eq_filter different]

/-- Disconnecting the id of a new edge, whatever it connects, gives back the graph; and so does
removing the id of a new node that no edge names.  What is found under these ids is what was added.
If nodes have different ids, removing one that is there leaves exactly the nodes with other ids and
the edges with no end at it, each as it is and in the same order; so no node has the id any more,
and no edge names it.  Removing an id that no node has, and disconnecting one that no edge has,
changes nothing. -/
theorem edits_can_be_undone (g : Graph) :
    (∀ source target,
      (g.connect source target).edge? (g.newEdge source target).id =
        some (g.newEdge source target) ∧
      (g.connect source target).disconnect (g.newEdge source target).id = g) ∧
    (∀ kind position,
      (∀ e ∈ g.edges, e.source ≠ (g.newNode kind position).id ∧
        e.target ≠ (g.newNode kind position).id) →
      (g.addNode kind position).node? (g.newNode kind position).id =
        some (g.newNode kind position) ∧
      (g.addNode kind position).removeNode (g.newNode kind position).id = g) ∧
    ((g.nodes.map Node.id).Nodup → ∀ n ∈ g.nodes,
      g.node? n.id = some n ∧
      g.removeNode n.id =
        ⟨g.nodes.filter (·.id ≠ n.id),
          g.edges.filter fun e => e.source ≠ n.id ∧ e.target ≠ n.id⟩ ∧
      n.id ∉ (g.removeNode n.id).nodes.map Node.id ∧
      ∀ e ∈ (g.removeNode n.id).edges, e.source ≠ n.id ∧ e.target ≠ n.id) ∧
    (∀ id, id ∉ g.nodes.map Node.id → g.node? id = none ∧ g.removeNode id = g) ∧
    ∀ id, id ∉ g.edges.map Edge.id → g.edge? id = none ∧ g.disconnect id = g := by
  refine ⟨?connecting, ?adding, ?removing, ?noNode, ?noEdge⟩
  case connecting =>
    intro source target
    exact ⟨find?_append_of_not_mem (g.freshEdgeId_not_mem source target),
      g.disconnect_connect source target⟩
  case adding =>
    intro kind position untouched
    exact ⟨find?_append_of_not_mem (g.freshNodeId_not_mem kind), removeNode_addNode untouched⟩
  case removing =>
    intro different n member
    have left := removeNode_of_nodup different (List.mem_map_of_mem member)
    refine ⟨find?_of_mem different member, left, ?_, ?_⟩
    · rw [left]
      intro named
      rcases List.mem_map.mp named with ⟨m, stays, same⟩
      exact of_decide_eq_true (List.mem_filter.mp stays).2 same
    · rw [left]
      exact fun e stays => of_decide_eq_true (List.mem_filter.mp stays).2
  case noNode =>
    exact fun id absent => ⟨find?_of_not_mem absent, removeNode_of_not_mem absent⟩
  case noEdge =>
    exact fun id absent => ⟨find?_of_not_mem absent, disconnect_of_not_mem absent⟩

/-- A graph with two triggers, an edge from one to the other and an edge to nowhere, between ids
that look like new ones.  A new action can be taken back, and so can another edge of the same name;
with one of the triggers goes the edge between them, and an id that is not there takes nothing
along. -/
theorem edits_can_be_undone_crowded :
    let s : Node := ⟨"action-2", .origin, .empty .trigger⟩
    let t : Node := ⟨"t", .origin, .empty .trigger⟩
    let g : Graph := ⟨[s, t], [⟨"e-action-2-t", "action-2", "t"⟩, ⟨"x", "t", "nowhere"⟩]⟩
    (g.newEdge "action-2" "t").id = "e-action-2-t-2" ∧
    (g.connect "action-2" "t").disconnect "e-action-2-t-2" = g ∧
    (g.newNode .action .origin).id = "action-1" ∧
    (g.addNode .action .origin).removeNode "action-1" = g ∧
    g.removeNode "action-2" = ⟨[t], [⟨"x", "t", "nowhere"⟩]⟩ ∧
    g.removeNode "nowhere" = g ∧ g.disconnect "e-t-nowhere" = g := by
  intro s t g
  rcases edits_can_be_undone g with ⟨connecting, adding, removing, noNode, noEdge⟩
  have edgeId : (g.newEdge "action-2" "t").id = "e-action-2-t-2" := by decide +kernel
  have nodeId : (g.newNode .action .origin).id = "action-1" := by decide +kernel
  have untouched : ∀ e ∈ g.edges, e.source ≠ (g.newNode .action .origin).id ∧
      e.target ≠ (g.newNode .action .origin).id := by
    rw [nodeId]
    decide
  have different : (g.nodes.map Node.id).Nodup := by decide
  refine ⟨edgeId, edgeId ▸ (connecting "action-2" "t").2, nodeId,
    nodeId ▸ (adding .action .origin untouched).2, ?_, (noNode "nowhere" (by decide)).2,
    (noEdge "e-t-nowhere" (by decide)).2⟩
  exact (removing different s List.mem_cons_self).2.1

end Graph

end Workflow

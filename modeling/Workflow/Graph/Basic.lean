import Workflow.Graph.Node

namespace Workflow

/-!
# Graphs and their edits

A graph is a list of nodes and a list of edges, with no condition on either: ids may repeat, edges
may lead nowhere, and there may be no trigger, so that a half-built graph can be edited.

New nodes and edges get ids that are free.  An edit of a node's data is made as a whole or not at
all.
-/

/-- A connection from one node to another, which it names by id. -/
structure Edge where
  id : String
  source : String
  target : String
  deriving DecidableEq

/-- Nodes and edges in the order in which they were added. -/
structure Graph where
  nodes : List Node
  edges : List Edge

namespace Graph

/-- The graph with nothing in it. -/
def empty : Graph := ⟨[], []⟩

instance : Inhabited Graph := ⟨empty⟩

/-- The first node with an id. -/
def node? (g : Graph) (id : String) : Option Node := g.nodes.find? (·.id == id)

/-- The nodes of a kind. -/
def nodesOfKind (g : Graph) (kind : NodeKind) : List Node := g.nodes.filter (·.kind == kind)

/-- The data of the triggers, with their ids. -/
def triggers (g : Graph) : List (String × TriggerData) :=
  g.nodes.filterMap fun n =>
    match n.data with
    | .trigger d => some (n.id, d)
    | _ => none

/-- The data of the conditions, with their ids. -/
def conditions (g : Graph) : List (String × ConditionData) :=
  g.nodes.filterMap fun n =>
    match n.data with
    | .condition d => some (n.id, d)
    | _ => none

/-- The data of the actions, with their ids. -/
def actions (g : Graph) : List (String × ActionData) :=
  g.nodes.filterMap fun n =>
    match n.data with
    | .action d => some (n.id, d)
    | _ => none

/-- The first of some names that is not taken, starting at a number.  The taken names are dropped
as they are met, so that the search ends. -/
def firstFree (name : Nat → String) (taken : List String) (start : Nat) : Nat :=
  if name start ∈ taken then
    firstFree name (taken.erase (name start)) (start + 1)
  else start
termination_by taken.length
decreasing_by
  have met : name start ∈ taken := by assumption
  have shorter := List.length_erase_of_mem met
  have positive := List.length_pos_of_mem met
  omega

/-- The id of a new node: the kind and a number above the count of its nodes. -/
def freshNodeId (g : Graph) (kind : NodeKind) : String :=
  let name (k : Nat) := kind.name ++ "-" ++ toString k
  name (firstFree name (g.nodes.map Node.id) ((g.nodesOfKind kind).length + 1))

/-- The id of the `k`-th edge between two nodes; the first has no number. -/
def edgeName (source target : String) (k : Nat) : String :=
  let base := "e-" ++ source ++ "-" ++ target
  if k ≤ 1 then base else base ++ "-" ++ toString k

/-- The id of a new edge. -/
def freshEdgeId (g : Graph) (source target : String) : String :=
  edgeName source target (firstFree (edgeName source target) (g.edges.map Edge.id) 1)

/-- Adds a node as it is. -/
def insertNode (g : Graph) (n : Node) : Graph := { g with nodes := g.nodes ++ [n] }

/-- A new node of a kind, with nothing filled in. -/
def newNode (g : Graph) (kind : NodeKind) (position : Position) : Node :=
  ⟨g.freshNodeId kind, position, .empty kind⟩

/-- Adds a new node of a kind. -/
def addNode (g : Graph) (kind : NodeKind) (position : Position) : Graph :=
  g.insertNode (g.newNode kind position)

/-- Removes the first node with an id, and every edge that touches the id. -/
def removeNode (g : Graph) (id : String) : Graph :=
  if (g.node? id).isSome then
    ⟨g.nodes.eraseP (·.id == id), g.edges.filter fun e => e.source != id && e.target != id⟩
  else g

/-- A new edge between two ids. -/
def newEdge (g : Graph) (source target : String) : Edge :=
  ⟨g.freshEdgeId source target, source, target⟩

/-- Connects two ids by a new edge. -/
def connect (g : Graph) (source target : String) : Graph :=
  { g with edges := g.edges ++ [g.newEdge source target] }

/-- The first edge with an id. -/
def edge? (g : Graph) (id : String) : Option Edge := g.edges.find? (·.id == id)

/-- Removes the first edge with an id. -/
def disconnect (g : Graph) (id : String) : Graph :=
  { g with edges := g.edges.eraseP (·.id == id) }

/-- Changes the first element that satisfies a test. -/
def modifyFirst {α : Type} (test : α → Bool) (change : α → α) : List α → List α
  | [] => []
  | a :: rest => if test a then change a :: rest else a :: modifyFirst test change rest

/-- The data after some patches, or the field of the first patch that does not fit. -/
def patchData (data : NodeData) : List NodePatch → Except String NodeData
  | [] => .ok data
  | patch :: rest =>
    match patch.patched? data with
    | some patched => patchData patched rest
    | none => .error patch.field

/-- Patches the data of the first node with an id. -/
def updateNode (g : Graph) (id : String) (patches : List NodePatch) : Except GraphError Graph :=
  match g.node? id with
  | none => .error (.nodeNotFound id)
  | some n =>
    match patchData n.data patches with
    | .error field => .error (.patchMismatch id n.kind field)
    | .ok data =>
      .ok { g with nodes := modifyFirst (·.id == id) ({ · with data := data }) g.nodes }

/-- Moves the first node with an id. -/
def moveNode (g : Graph) (id : String) (position : Position) : Except GraphError Graph :=
  match g.node? id with
  | none => .error (.nodeNotFound id)
  | some _ =>
    .ok { g with nodes := modifyFirst (·.id == id) ({ · with position := position }) g.nodes }

end Graph

end Workflow

import Workflow.Graph.Adjacency

namespace Workflow

/-!
# The order in which edges chain the actions

The walk starts at the first trigger and follows the only link that leaves each node.  It must end
at a node that no link leaves, without meeting a node twice, and must have met every action.  This
order is for diagnosis only: a definition keeps the order of the nodes.
-/

namespace Adjacency

variable {n : Nat}

/-- The positions that links lead to from a position, each link counted. -/
def successors (links : List (Fin n × Fin n)) (i : Fin n) : List (Fin n) :=
  (links.filter fun link => link.1 == i).map Prod.snd

/-- The walk from a position through positions that are not visited yet, if it is a single path. -/
def walk (links : List (Fin n × Fin n)) (unvisited : List (Fin n)) (current : Fin n) :
    Option (List (Fin n)) :=
  if current ∈ unvisited then
    match successors links current with
    | [] => some [current]
    | [next] => (walk links (unvisited.erase current) next).map (current :: ·)
    | _ => none
  else none
termination_by unvisited.length
decreasing_by
  have fresh : current ∈ unvisited := by assumption
  have shorter := List.length_erase_of_mem fresh
  have positive := List.length_pos_of_mem fresh
  omega

end Adjacency

namespace Graph

/-- The position of the first trigger. -/
def firstTrigger (g : Graph) : Option (Fin g.nodes.length) :=
  g.nodes.findFinIdx? (·.kind == .trigger)

/-- The ids of the actions in the order of the walk, if the walk meets all of them. -/
def chainOrder (g : Graph) : Option (List String) := do
  let path ← Adjacency.walk g.links (List.finRange g.nodes.length) (← g.firstTrigger)
  let order := (path.filter fun i => g.nodes[i].kind == .action).map fun i => g.nodes[i].id
  if order.length = (g.nodesOfKind .action).length then some order else none

end Graph

end Workflow

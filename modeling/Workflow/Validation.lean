import Workflow.Graph.Adjacency
import Workflow.Schema.Catalogue

namespace Workflow

/-!
# Whether a graph may be saved

All checks run, and every violation is reported, in the order of the checks: the name, the number of
triggers, the types of the trigger and the actions, the configs, and then whether each node is
connected and the first node reaches all others.  A graph without nodes is not checked further, and
one with a single node need not be connected to anything.
-/

/-- One reason why a graph may not be saved. -/
inductive Violation where
  | missingName
  | empty
  | noTrigger
  | multipleTriggers (count : Nat)
  | untypedTrigger (nodeId : String)
  /-- An action without a type, with its rank among the actions, counted from one. -/
  | untypedAction (position : Nat) (nodeId : String)
  | incompleteConfig (nodeId nodeLabel : String) (issue : ConfigIssue)
  | orphanNode (nodeId nodeLabel : String)
  | disconnected (reachable total : Nat)
  deriving DecidableEq

/-- The text of a violation. -/
def Violation.message : Violation → String
  | .missingName => "Workflow name is required"
  | .empty => "Workflow must have at least one node"
  | .noTrigger => "Workflow must have at least one trigger"
  | .multipleTriggers count => "Workflow can only have one trigger (found " ++ toString count ++ ")"
  | .untypedTrigger _ => "Trigger type must be selected"
  | .untypedAction position _ =>
    "Action " ++ toString position ++ " must have an action type selected"
  | .incompleteConfig _ label issue => label ++ ": " ++ issue.message
  | .orphanNode _ label => "Node '" ++ label ++ "' is not connected to any other node"
  | .disconnected reachable total =>
    "Workflow has disconnected components: only " ++ toString reachable ++ " of " ++
      toString total ++ " nodes are connected"

/-- The violations of a graph, in the order of the checks. -/
structure Report where
  violations : List Violation
  deriving DecidableEq

namespace Report

/-- Nothing is violated. -/
def isValid (r : Report) : Bool := r.violations.isEmpty

/-- The texts of the violations. -/
def errors (r : Report) : List String := r.violations.map Violation.message

/-- The report as it is shown: whether it is valid, and the texts. -/
def toJson (r : Report) : Json :=
  .object [("isValid", .bool r.isValid), ("errors", .array (r.errors.map .string))]

end Report

namespace Validation

/-- The name must not be blank. -/
def nameViolations (name : String) : List Violation :=
  if Text.isBlank name then [.missingName] else []

/-- There must be one trigger. -/
def triggerCountViolations (g : Graph) : List Violation :=
  match g.triggers.length with
  | 0 => [.noTrigger]
  | 1 => []
  | count => [.multipleTriggers count]

/-- The first trigger must have a type. -/
def triggerTypeViolations (g : Graph) : List Violation :=
  match g.triggers with
  | (id, d) :: _ => if d.triggerType.isNone then [.untypedTrigger id] else []
  | [] => []

/-- Every action must have a type. -/
def actionTypeViolations (g : Graph) : List Violation :=
  g.actions.zipIdx.filterMap fun ((id, d), i) =>
    if d.actionType.isNone then some (.untypedAction (i + 1) id) else none

/-- The issues of a node's config, if the node has a type. -/
def nodeIssues (schemas : Registry) (n : Node) : List ConfigIssue :=
  match n.data with
  | .trigger ⟨_, some type, config⟩ => schemas.checkConfig .trigger type config
  | .action ⟨_, some type, config⟩ => schemas.checkConfig .action type config
  | _ => []

/-- Every config must be complete. -/
def configViolations (schemas : Registry) (g : Graph) : List Violation :=
  g.nodes.flatMap fun n =>
    (nodeIssues schemas n).map fun issue => .incompleteConfig n.id n.displayName issue

/-- Every node must have a link. -/
def orphanViolations (g : Graph) : List Violation :=
  let links := g.links
  g.nodes.zipIdx.filterMap fun (n, i) =>
    if Adjacency.touches links i then none else some (.orphanNode n.id n.displayName)

/-- How many nodes the first node reaches, itself included. -/
def reachableCount (g : Graph) : Nat := (g.reachedFrom 0).count true

/-- The first node must reach all nodes. -/
def componentViolations (g : Graph) : List Violation :=
  if reachableCount g < g.nodes.length then [.disconnected (reachableCount g) g.nodes.length]
  else []

/-- A graph with more than one node must be connected. -/
def connectivityViolations (g : Graph) : List Violation :=
  if g.nodes.length ≤ 1 then [] else orphanViolations g ++ componentViolations g

/-- What a graph with nodes violates. -/
def graphViolations (schemas : Registry) (g : Graph) : List Violation :=
  triggerCountViolations g ++ triggerTypeViolations g ++ actionTypeViolations g ++
    configViolations schemas g ++ connectivityViolations g

/-- Checks a graph under a name. -/
def validate (schemas : Registry) (name : String) (g : Graph) : Report :=
  ⟨nameViolations name ++ if g.nodes.isEmpty then [.empty] else graphViolations schemas g⟩

end Validation

end Workflow

import Workflow.Event
import Workflow.Graph.Chain

namespace Workflow

/-!
# Definitions, and compiling a graph into one

A definition is the flat form of a workflow that the backend runs: one trigger, one object of
conditions, and the actions in order.  Compiling takes the first trigger, merges the objects of all
conditions, and takes the actions in the order of the nodes, whatever the edges say.  Where two
conditions give a key different values the later node wins.

Compiling fails only for the lack of a trigger or of a type, and depends on the graph alone.
-/

/-- One action of a definition. -/
structure ActionStep where
  type : String
  config : Object
  description : String

/-- The flat form of a workflow. -/
structure Definition where
  name : String
  description : String
  triggerType : String
  triggerConfig : Object
  conditions : Object
  actions : List ActionStep
  /-- Given by the backend, one more with every update; never sent to it. -/
  version : Option Int

/-- A workflow as it is edited. -/
structure Draft where
  name : String
  description : String
  graph : Graph

/-- Why a graph has no definition. -/
inductive CompileError where
  | missingTrigger
  | untypedTrigger (nodeId : String)
  | untypedAction (nodeId : String)
  deriving DecidableEq

/-- The text of a failure. -/
def CompileError.message : CompileError → String
  | .missingTrigger => "Cannot compile a workflow without a trigger node"
  | .untypedTrigger id => "Trigger node '" ++ id ++ "' has no trigger type"
  | .untypedAction id => "Action node '" ++ id ++ "' has no action type"

namespace Graph

/-- Conditions merged so far, and the events of keys that got another value. -/
structure Merge where
  merged : Object
  overwritten : List Event

/-- Takes over one key of a condition. -/
def mergeEntry (node : String) (m : Merge) (entry : String × Json) : Merge :=
  let changed :=
    match m.merged.get? entry.1 with
    | some previous => !previous.agrees entry.2
    | none => false
  ⟨m.merged.insert entry.1 entry.2,
    if changed then m.overwritten ++ [.conditionOverwritten node entry.1] else m.overwritten⟩

/-- Takes over the object of a condition, if it has one. -/
def mergeCondition (m : Merge) (node : String × ConditionData) : Merge :=
  match node.2.condition with
  | some condition => condition.entries.foldl (mergeEntry node.1) m
  | none => m

/-- The objects of all conditions, a later one over an earlier one. -/
def mergeConditions (g : Graph) : Merge := g.conditions.foldl mergeCondition ⟨.empty, []⟩

/-- The action as a step, if it has a type. -/
def stepOf (action : String × ActionData) : Except CompileError ActionStep :=
  match action.2.actionType with
  | some type => .ok ⟨type, action.2.config, action.2.label⟩
  | none => .error (.untypedAction action.1)

/-- The event of a chain of edges that orders the actions otherwise than the nodes do. -/
def edgeOrderEvents (g : Graph) : List Event :=
  let nodeOrder := (g.nodesOfKind .action).map Node.id
  match g.chainOrder with
  | some edgeOrder =>
    if edgeOrder = nodeOrder then [] else [.edgeOrderIgnored edgeOrder nodeOrder]
  | none => []

end Graph

namespace Draft

/-- The definition of a draft, without a version. -/
def compile (d : Draft) : Except CompileError Definition :=
  match d.graph.triggers with
  | [] => .error .missingTrigger
  | (id, trigger) :: _ =>
    match trigger.triggerType with
    | none => .error (.untypedTrigger id)
    | some type =>
      match d.graph.actions.mapM Graph.stepOf with
      | .error e => .error e
      | .ok actions =>
        .ok ⟨d.name, d.description, type, trigger.config, d.graph.mergeConditions.merged, actions,
          none⟩

/-- What compiling logs; nothing, if it fails. -/
def compileEvents (d : Draft) : List Event :=
  match d.compile with
  | .error _ => []
  | .ok definition =>
    d.graph.edgeOrderEvents ++ d.graph.mergeConditions.overwritten ++
      [.graphCompiled d.name definition.actions.length definition.conditions.size]

end Draft

end Workflow

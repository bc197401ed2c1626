import Workflow.Json.Basic
import Workflow.Text.Blank

namespace Workflow

/-!
# Nodes

A node is a trigger, a condition or an action, and its data has the fields of that kind only: a
trigger has no condition and an action no trigger type.  A type that is not chosen yet is missing;
decoding and patching never leave an empty one.
-/

/-- The three kinds of node. -/
inductive NodeKind where
  | trigger
  | condition
  | action
  deriving DecidableEq

/-- Why an edit of a graph, or the reading of a node kind, is refused. -/
inductive GraphError where
  | nodeNotFound (id : String)
  | patchMismatch (id : String) (kind : NodeKind) (field : String)
  | unknownKind (name : String)
  deriving DecidableEq

namespace NodeKind

/-- The name that stands for the kind in the editor's format. -/
def name : NodeKind → String
  | .trigger => "trigger"
  | .condition => "condition"
  | .action => "action"

/-- The kind of a name. -/
def ofName? (name : String) : Option NodeKind :=
  if name = "trigger" then some .trigger
  else if name = "condition" then some .condition
  else if name = "action" then some .action
  else none

/-- The kind of a name, or the complaint about it. -/
def parse (name : String) : Except GraphError NodeKind :=
  match ofName? name with
  | some kind => .ok kind
  | none => .error (.unknownKind name)

/-- The label that a node of the kind starts with. -/
def defaultLabel : NodeKind → String
  | .trigger => "Trigger"
  | .condition => "Condition"
  | .action => "Action"

end NodeKind

/-- The text of a refusal. -/
def GraphError.message : GraphError → String
  | .nodeNotFound id => "Node '" ++ id ++ "' does not exist in the graph"
  | .patchMismatch id kind field =>
    "Field '" ++ field ++ "' cannot be set on " ++ kind.name ++ " node '" ++ id ++ "'"
  | .unknownKind name =>
    "Unknown node type '" ++ name ++ "', expected trigger, condition or action"

/-- The data of a trigger. -/
structure TriggerData where
  label : String
  triggerType : Option String
  config : Object

/-- The data of a condition: an object with its type and parameters, once there is one. -/
structure ConditionData where
  label : String
  condition : Option Object

/-- The data of an action. -/
structure ActionData where
  label : String
  actionType : Option String
  config : Object

/-- The type of the condition, if its object names one. -/
def ConditionData.conditionType (d : ConditionData) : Option String :=
  (d.condition.bind (·.get? "type")).bind Json.text?

/-- The data of a node of any kind. -/
inductive NodeData where
  | trigger (data : TriggerData)
  | condition (data : ConditionData)
  | action (data : ActionData)

namespace NodeData

/-- The data of a new node. -/
def empty (kind : NodeKind) : NodeData :=
  match kind with
  | .trigger => .trigger ⟨kind.defaultLabel, none, .empty⟩
  | .condition => .condition ⟨kind.defaultLabel, none⟩
  | .action => .action ⟨kind.defaultLabel, none, .empty⟩

/-- The kind that has such data. -/
def kind : NodeData → NodeKind
  | .trigger _ => .trigger
  | .condition _ => .condition
  | .action _ => .action

/-- The label. -/
def label : NodeData → String
  | .trigger d => d.label
  | .condition d => d.label
  | .action d => d.label

end NodeData

/-- A type as it is kept: an empty one counts as missing. -/
def chosenType (type : Option String) : Option String := type.filter (!·.isEmpty)

/-- A change of one field of a node's data. -/
inductive NodePatch where
  | label (value : String)
  | triggerType (value : Option String)
  | actionType (value : Option String)
  | config (value : Object)
  | condition (value : Option Object)

namespace NodePatch

/-- The name of the field that is changed. -/
def field : NodePatch → String
  | .label _ => "label"
  | .triggerType _ => "triggerType"
  | .actionType _ => "actionType"
  | .config _ => "config"
  | .condition _ => "condition"

/-- The changed data, if data of this kind has the field. -/
def patched? : NodePatch → NodeData → Option NodeData
  | .label value, .trigger d => some (.trigger { d with label := value })
  | .label value, .condition d => some (.condition { d with label := value })
  | .label value, .action d => some (.action { d with label := value })
  | .triggerType value, .trigger d => some (.trigger { d with triggerType := chosenType value })
  | .actionType value, .action d => some (.action { d with actionType := chosenType value })
  | .config value, .trigger d => some (.trigger { d with config := value })
  | .config value, .action d => some (.action { d with config := value })
  | .condition value, .condition d => some (.condition { d with condition := value })
  | _, _ => none

end NodePatch

/-- Where a node stands on the canvas. -/
structure Position where
  x : Double
  y : Double
  deriving DecidableEq

/-- The corner of the canvas, where nodes are put that have no position. -/
def Position.origin : Position := ⟨Double.zero false, Double.zero false⟩

/-- A node of an automation graph. -/
structure Node where
  id : String
  position : Position
  data : NodeData

namespace Node

/-- The kind of the node. -/
def kind (n : Node) : NodeKind := n.data.kind

/-- The label of the node. -/
def label (n : Node) : String := n.data.label

/-- The type of a trigger. -/
def triggerType (n : Node) : Option String :=
  match n.data with
  | .trigger d => d.triggerType
  | _ => none

/-- The type of an action. -/
def actionType (n : Node) : Option String :=
  match n.data with
  | .action d => d.actionType
  | _ => none

/-- The type of a condition. -/
def conditionType (n : Node) : Option String :=
  match n.data with
  | .condition d => d.conditionType
  | _ => none

/-- The name of the node in messages: its label, or its type when the label is blank, or else the
label that nodes of its kind start with. -/
def displayName (n : Node) : String :=
  if Text.isBlank n.label then
    (n.triggerType.or n.actionType).getD n.kind.defaultLabel
  else n.label

end Node

end Workflow

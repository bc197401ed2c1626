import Workflow.Execution.Status
import Workflow.Text.Quoted

namespace Workflow

/-!
# What is logged

Each event has a level, a message and named fields.  Events are data: the functions that cause them
return them, in the order in which they happen.
-/

/-- How much an event matters. -/
inductive Level where
  | debug
  | info
  | warn
  deriving DecidableEq

/-- The name of a level. -/
def Level.name : Level → String
  | .debug => "DEBUG"
  | .info => "INFO"
  | .warn => "WARN"

/-- The value of a field of an event. -/
inductive FieldValue where
  | count (n : Nat)
  | text (s : String)
  deriving DecidableEq

/-- Something that is logged. -/
inductive Event where
  /-- The edges chain the actions in another order than that of the nodes. -/
  | edgeOrderIgnored (edgeOrder nodeOrder : List String)
  /-- A condition has a key with another value than an earlier condition gave it. -/
  | conditionOverwritten (node key : String)
  | graphCompiled (workflow : String) (actions conditionKeys : Nat)
  | conditionsDropped (workflow : String) (keys : Nat)
  | unexpectedStatus (execution : String) (before after : ExecutionStatus)
  | transitionRequested (execution : String) (action : ExecutionAction)
      (current expected : ExecutionStatus)
  | storedGraphUnreadable (workflow problem : String)
  | workflowSaved (workflow : String) (version : Option Int)
  | executionStarted (workflow execution : String)
  deriving DecidableEq

namespace Event

/-- How much the event matters. -/
def level : Event → Level
  | .edgeOrderIgnored .. => .warn
  | .conditionOverwritten .. => .debug
  | .graphCompiled .. => .debug
  | .conditionsDropped .. => .warn
  | .unexpectedStatus .. => .warn
  | .transitionRequested .. => .info
  | .storedGraphUnreadable .. => .warn
  | .workflowSaved .. => .info
  | .executionStarted .. => .info

/-- The message of the event. -/
def message : Event → String
  | .edgeOrderIgnored .. =>
    "actions are wired in a different order than they were added; node order is used"
  | .conditionOverwritten .. => "condition key overwritten by later node"
  | .graphCompiled .. => "compiled workflow graph"
  | .conditionsDropped .. =>
    "conditions cannot be reconstructed from a flat definition and were dropped"
  | .unexpectedStatus .. => "backend reported an unexpected status change"
  | .transitionRequested .. => "requesting execution transition"
  | .storedGraphUnreadable .. => "stored graph is unreadable, rebuilding from definition"
  | .workflowSaved .. => "workflow saved"
  | .executionStarted .. => "workflow execution started"

/-- A number that may be missing, as fields show it. -/
def optionalNumber : Option Int → String
  | some n => "Some(" ++ toString n ++ ")"
  | none => "None"

/-- The fields of the event. -/
def fields : Event → List (String × FieldValue)
  | .edgeOrderIgnored edgeOrder nodeOrder =>
    [("edge_order", .text (Text.quotedList edgeOrder)),
      ("node_order", .text (Text.quotedList nodeOrder))]
  | .conditionOverwritten node key => [("node", .text node), ("key", .text key)]
  | .graphCompiled workflow actions conditionKeys =>
    [("workflow", .text workflow), ("actions", .count actions),
      ("condition_keys", .count conditionKeys)]
  | .conditionsDropped workflow keys => [("workflow", .text workflow), ("keys", .count keys)]
  | .unexpectedStatus execution before after =>
    [("execution", .text execution), ("from", .text before.name), ("to", .text after.name)]
  | .transitionRequested execution action current expected =>
    [("execution", .text execution), ("action", .text action.name), ("from", .text current.name),
      ("expected", .text expected.name)]
  | .storedGraphUnreadable workflow problem =>
    [("workflow", .text workflow), ("error", .text problem)]
  | .workflowSaved workflow version =>
    [("workflow", .text workflow), ("version", .text (optionalNumber version))]
  | .executionStarted workflow execution =>
    [("workflow", .text workflow), ("execution", .text execution)]

end Event

end Workflow

import Workflow.Definition.Basic

namespace Workflow

/-!
# A graph from a definition

A definition that was stored without a graph is opened as a chain: the trigger at a fixed place, and
the actions below it in their order, each connected to the one before.  Types and descriptions are
taken as they are, even empty ones, so that compiling gives the same trigger and actions again.  The
conditions have no place in the chain and are lost.
-/

namespace Definition

/-- The distance of all nodes from the left edge of the canvas. -/
def column : Double := Double.ofNat 250

/-- The place of the trigger is row zero; the `i`-th action stands in row `i`. -/
def row (i : Nat) : Double := Double.ofNat (50 + 150 * i)

/-- The node of the trigger. -/
def triggerNode (d : Definition) : Node :=
  ⟨"trigger-1", ⟨column, row 0⟩, .trigger ⟨"Trigger", some d.triggerType, d.triggerConfig⟩⟩

/-- The id of the `i`-th action, counted from one. -/
def actionId (i : Nat) : String := "action-" ++ toString i

/-- The node of the `i`-th action. -/
def actionNode (step : ActionStep) (i : Nat) : Node :=
  ⟨actionId i, ⟨column, row i⟩, .action ⟨step.description, some step.type, step.config⟩⟩

/-- Adds the remaining actions to a chain that ends at `previous` and has `i` actions. -/
def extendChain (previous : String) (i : Nat) : List ActionStep → Graph → Graph
  | [], g => g
  | step :: rest, g =>
    extendChain (actionId (i + 1)) (i + 1) rest
      ((g.insertNode (actionNode step (i + 1))).connect previous (actionId (i + 1)))

/-- The chain of a definition. -/
def reconstruct (d : Definition) : Graph :=
  extendChain "trigger-1" 0 d.actions (Graph.empty.insertNode d.triggerNode)

/-- The event of conditions that are lost. -/
def reconstructEvents (d : Definition) : List Event :=
  if d.conditions.isEmpty then [] else [.conditionsDropped d.name d.conditions.size]

/-- The draft of a definition that has no graph. -/
def toDraft (d : Definition) : Draft := ⟨d.name, d.description, d.reconstruct⟩

end Definition

end Workflow

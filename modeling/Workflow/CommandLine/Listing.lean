import Workflow.Execution.Page
import Workflow.Schema.Catalogue
import Workflow.Text.Padding

namespace Workflow.CommandLine

/-!
# Listings

What commands print line by line: the known schemas, an execution with its steps, and executions in
columns.
-/

/-- A text in a column, filled with spaces on its right. -/
def column (width : Nat) (s : String) : String := Text.pad .left width none s

/-- The key of a field, marked if the field must be filled in. -/
def fieldText (f : FieldSpec) : String := if f.required then f.key ++ "*" else f.key

/-- The line of a schema. -/
def schemaLine (s : NodeSchema) : String :=
  "  " ++ column 24 s.typeName ++ " " ++ column 24 s.label ++ " " ++
    String.intercalate ", " (s.fields.map fieldText)

/-- The schemas of triggers and actions. -/
def schemaLines (r : Registry) : List String :=
  [NodeKind.trigger, .action].flatMap fun kind =>
    (kind.name ++ "s:") :: (r.schemas kind).map schemaLine

/-- The line of a step. -/
def stepLine (s : StepLog) : String :=
  "  [" ++ toString s.stepIndex.toNat ++ "] " ++ column 20 s.actionType ++ " " ++ s.status.title ++
    (s.errorMessage.map (" - " ++ ·)).getD ""

/-- An execution with its steps. -/
def executionLines (e : Execution) : List String :=
  ["Execution " ++ e.id ++ " (" ++ e.status.name ++ ")",
    "  Workflow:     " ++ e.workflowId,
    "  Current step: " ++ toString e.currentStep.toNat,
    "  Started:      " ++ e.startedAt.display] ++
  e.durationNanos.toList.map (fun nanos =>
    "  Duration:     " ++ toString (Execution.wholeUnits nanos 1000000000) ++ "s") ++
  e.errorMessage.toList.map ("  Error:        " ++ ·) ++
  e.logs.map stepLine

/-- An execution in one line. -/
def executionLine (e : Execution) : String :=
  column 12 e.id ++ " " ++ column 12 e.workflowId ++ " " ++ column 10 e.status.name ++ " " ++
    e.startedAt.display

end Workflow.CommandLine

import Workflow.Definition.Codec
import Workflow.Execution.Status
import Workflow.Time.Reader

namespace Workflow

/-!
# Executions

An execution is one run of a workflow as the backend records it, with a log of its steps.
-/

/-- The record of one step. -/
structure StepLog where
  stepIndex : UInt32
  actionType : String
  status : StepStatus
  inputData : Json
  outputData : Json
  errorMessage : Option String
  executedAt : Instant

/-- One run of a workflow. -/
structure Execution where
  id : String
  workflowId : String
  status : ExecutionStatus
  currentStep : UInt32
  startedAt : Instant
  completedAt : Option Instant
  errorMessage : Option String
  logs : List StepLog

namespace Execution

/-- The execution has ended. -/
def isTerminal (e : Execution) : Bool := e.status.isTerminal

/-- The steps that failed. -/
def failedSteps (e : Execution) : List StepLog := e.logs.filter (·.status == .failure)

/-- The nanoseconds from start to end, once there is an end. -/
def durationNanos (e : Execution) : Option Int := e.completedAt.map (·.nanosSince e.startedAt)

/-- A span in whole units, cut towards zero. -/
def wholeUnits (nanos : Int) (nanosPerUnit : Nat) : Int := nanos.tdiv nanosPerUnit

end Execution

/-! ## Decoding -/

open Decoder

/-- An integer of 32 bits without sign. -/
def wordDecoder : Decoder UInt32 := fun medium source =>
  (integer 0 (Int.pow 2 32) medium source).map fun i => UInt32.ofNat i.toNat

/-- An instant, as a text. -/
def Instant.decoder : Decoder Instant := andThen string fun text =>
  match Instant.ofText? text with
  | some i => .ok i
  | none => .error .malformed

/-- The fields of a step's record read so far. -/
structure StepLogFields where
  stepIndex : Option UInt32 := none
  actionType : Option String := none
  status : Option StepStatus := none
  inputData : Option Json := none
  outputData : Option Json := none
  errorMessage : Option (Option String) := none
  executedAt : Option Instant := none

/-- The record of a step. -/
def StepLog.decoder : Decoder StepLog := group {
  names := ["stepIndex", "actionType", "status", "inputData", "outputData", "errorMessage",
    "executedAt"]
  start := ({} : StepLogFields)
  visit := fun medium fields key source =>
    if key = "stepIndex" then
      (once "stepIndex" fields.stepIndex (wordDecoder medium source)).map
        ({ fields with stepIndex := · })
    else if key = "actionType" then
      (once "actionType" fields.actionType (string medium source)).map
        ({ fields with actionType := · })
    else if key = "status" then
      (once "status" fields.status (variant StepStatus.ofName? medium source)).map
        ({ fields with status := · })
    else if key = "inputData" then
      (once "inputData" fields.inputData (any medium source)).map ({ fields with inputData := · })
    else if key = "outputData" then
      (once "outputData" fields.outputData (any medium source)).map
        ({ fields with outputData := · })
    else if key = "errorMessage" then
      (once "errorMessage" fields.errorMessage (nullable string medium source)).map
        ({ fields with errorMessage := · })
    else if key = "executedAt" then
      (once "executedAt" fields.executedAt (Instant.decoder medium source)).map
        ({ fields with executedAt := · })
    else skip fields source
  finish := fun absent fields => do
    return ⟨← required absent "stepIndex" fields.stepIndex,
      ← required absent "actionType" fields.actionType, ← required absent "status" fields.status,
      fields.inputData.getD .null, fields.outputData.getD .null, fields.errorMessage.getD none,
      ← required absent "executedAt" fields.executedAt⟩ }

/-- The fields of an execution read so far. -/
structure ExecutionFields where
  id : Option String := none
  workflowId : Option String := none
  status : Option ExecutionStatus := none
  currentStep : Option UInt32 := none
  startedAt : Option Instant := none
  completedAt : Option (Option Instant) := none
  errorMessage : Option (Option String) := none
  logs : Option (List StepLog) := none

/-- An execution. -/
def Execution.decoder : Decoder Execution := group {
  names := ["id", "workflowId", "status", "currentStep", "startedAt", "completedAt",
    "errorMessage", "logs"]
  start := ({} : ExecutionFields)
  visit := fun medium fields key source =>
    if key = "id" then
      (once "id" fields.id (Decoder.id medium source)).map ({ fields with id := · })
    else if key = "workflowId" then
      (once "workflowId" fields.workflowId (Decoder.id medium source)).map
        ({ fields with workflowId := · })
    else if key = "status" then
      (once "status" fields.status (variant ExecutionStatus.ofName? medium source)).map
        ({ fields with status := · })
    else if key = "currentStep" then
      (once "currentStep" fields.currentStep (wordDecoder medium source)).map
        ({ fields with currentStep := · })
    else if key = "startedAt" then
      (once "startedAt" fields.startedAt (Instant.decoder medium source)).map
        ({ fields with startedAt := · })
    else if key = "completedAt" then
      (once "completedAt" fields.completedAt (nullable Instant.decoder medium source)).map
        ({ fields with completedAt := · })
    else if key = "errorMessage" then
      (once "errorMessage" fields.errorMessage (nullable string medium source)).map
        ({ fields with errorMessage := · })
    else if key = "logs" then
      (once "logs" fields.logs (list StepLog.decoder medium source)).map ({ fields with logs := · })
    else skip fields source
  finish := fun absent fields => do
    return ⟨← required absent "id" fields.id, ← required absent "workflowId" fields.workflowId,
      ← required absent "status" fields.status, fields.currentStep.getD 0,
      ← required absent "startedAt" fields.startedAt, fields.completedAt.getD none,
      fields.errorMessage.getD none, fields.logs.getD []⟩ }

/-! ## Encoding -/

/-- An instant. -/
def Instant.toJson (i : Instant) : Json := .string i.toText

/-- The record of a step, with all its fields. -/
def StepLog.toJson (s : StepLog) : Json :=
  .object [("stepIndex", .ofNat s.stepIndex.toNat), ("actionType", .string s.actionType),
    ("status", .string s.status.name), ("inputData", s.inputData), ("outputData", s.outputData),
    ("errorMessage", .ofOption .string s.errorMessage), ("executedAt", s.executedAt.toJson)]

/-- An execution, with all its fields. -/
def Execution.toJson (e : Execution) : Json :=
  .object [("id", .string e.id), ("workflowId", .string e.workflowId),
    ("status", .string e.status.name), ("currentStep", .ofNat e.currentStep.toNat),
    ("startedAt", e.startedAt.toJson), ("completedAt", .ofOption Instant.toJson e.completedAt),
    ("errorMessage", .ofOption .string e.errorMessage),
    ("logs", .array (e.logs.map StepLog.toJson))]

end Workflow

namespace Workflow

/-!
# The states of an execution

The backend moves an execution from `PENDING` to `RUNNING`, between `RUNNING` and `PAUSED`, from
`RUNNING` to one of the ends `COMPLETED` and `FAILED`, and from `PENDING` or `RUNNING` to the end
`CANCELLED`.  A user may ask to pause, resume or cancel, each from the states where the backend
allows it.
-/

/-- The status of an execution. -/
inductive ExecutionStatus where
  | pending
  | running
  | paused
  | completed
  | failed
  | cancelled
  deriving DecidableEq

/-- The status of one step of an execution. -/
inductive StepStatus where
  | success
  | failure
  | skipped
  deriving DecidableEq

/-- What a user may ask for. -/
inductive ExecutionAction where
  | pause
  | resume
  | cancel
  deriving DecidableEq

namespace ExecutionStatus

/-- The name of a status. -/
def name : ExecutionStatus → String
  | .pending => "PENDING"
  | .running => "RUNNING"
  | .paused => "PAUSED"
  | .completed => "COMPLETED"
  | .failed => "FAILED"
  | .cancelled => "CANCELLED"

/-- The status of a name. -/
def ofName? (name : String) : Option ExecutionStatus :=
  [pending, running, paused, completed, failed, cancelled].find? (·.name == name)

/-- The execution has ended. -/
def isTerminal : ExecutionStatus → Bool
  | .completed | .failed | .cancelled => true
  | .pending | .running | .paused => false

/-- The execution was completed, it failed, or it was cancelled. -/
inductive Ended : ExecutionStatus → Prop
  | completed : Ended .completed
  | failed : Ended .failed
  | cancelled : Ended .cancelled

theorem isTerminal_iff {status : ExecutionStatus} : status.isTerminal = true ↔ status.Ended := by
  constructor
  · intro terminal
    cases status with
    | completed => exact .completed
    | failed => exact .failed
    | cancelled => exact .cancelled
    | pending | running | paused => cases terminal
  · intro ended
    cases ended with
    | completed | failed | cancelled => rfl

/-- The backend may take an execution from one status to another in one step. -/
def canTransitionTo : ExecutionStatus → ExecutionStatus → Bool
  | .pending, .running | .pending, .cancelled => true
  | .running, .paused | .running, .completed | .running, .failed | .running, .cancelled => true
  | .paused, .running => true
  | _, _ => false

end ExecutionStatus

namespace StepStatus

/-- The name of a step's status. -/
def name : StepStatus → String
  | .success => "SUCCESS"
  | .failure => "FAILURE"
  | .skipped => "SKIPPED"

/-- The status of a name. -/
def ofName? (name : String) : Option StepStatus :=
  [success, failure, skipped].find? (·.name == name)

/-- The name in listings. -/
def title : StepStatus → String
  | .success => "Success"
  | .failure => "Failure"
  | .skipped => "Skipped"

end StepStatus

namespace ExecutionAction

/-- The name of an action. -/
def name : ExecutionAction → String
  | .pause => "pause"
  | .resume => "resume"
  | .cancel => "cancel"

/-- All actions, in the order in which they are offered. -/
def all : List ExecutionAction := [.pause, .resume, .cancel]

/-- The action of a name. -/
def ofName? (name : String) : Option ExecutionAction := all.find? (·.name == name)

/-- The backend honours the action in this status. -/
def isAllowedFrom : ExecutionAction → ExecutionStatus → Bool
  | .pause, .running => true
  | .resume, .paused => true
  | .cancel, .pending | .cancel, .running => true
  | _, _ => false

/-- The status that the backend is expected to confirm. -/
def target : ExecutionAction → ExecutionStatus
  | .pause => .paused
  | .resume => .running
  | .cancel => .cancelled

end ExecutionAction

/-- The actions that are offered in a status. -/
def ExecutionStatus.availableActions (status : ExecutionStatus) : List ExecutionAction :=
  ExecutionAction.all.filter (·.isAllowedFrom status)

/-- The expected status of an action, if it is allowed. -/
def ExecutionAction.check? (action : ExecutionAction) (status : ExecutionStatus) :
    Option ExecutionStatus :=
  if action.isAllowedFrom status then some action.target else none

/-- The text that refuses an action. -/
def notAllowedMessage (action : ExecutionAction) (status : ExecutionStatus) : String :=
  "Cannot " ++ action.name ++ " an execution that is " ++ status.name

end Workflow

import Workflow.Backend.Basic

namespace Workflow

/-!
# Following an execution

A tracker shows one execution as the backend last gave it.  It never moves the execution by itself:
a request that the shown status does not allow is refused here and makes no call; one that is
allowed is sent, and then the execution is fetched again.
-/

/-- Why a request was not carried out. -/
inductive TransitionError where
  | notAllowed (action : ExecutionAction) (status : ExecutionStatus)
  | backend (cause : ClientError)

/-- The text of a failure. -/
def TransitionError.message : TransitionError → String
  | .notAllowed action status => notAllowedMessage action status
  | .backend cause => cause.message

/-- The execution that is shown. -/
structure Tracker where
  shown : Execution

namespace Tracker

/-- Fetches an execution and starts to follow it. -/
def load (id : String) : Session (Except ClientError Tracker) := do
  match ← Session.ask (.getExecution id) with
  | .ok execution => return .ok ⟨execution⟩
  | .error e => return .error e

/-- The event of a status that the backend should not have come to. -/
def statusEvents (before : ExecutionStatus) (latest : Execution) : List Event :=
  if latest.status ≠ before ∧ before.canTransitionTo latest.status = false then
    [.unexpectedStatus latest.id before latest.status]
  else []

/-- Fetches the execution again and shows what the backend gave. -/
def refresh (t : Tracker) : Session (Tracker × Except ClientError ExecutionStatus) := do
  match ← Session.ask (.getExecution t.shown.id) with
  | .error e => return (t, .error e)
  | .ok latest =>
    Session.log (statusEvents t.shown.status latest)
    return (⟨latest⟩, .ok latest.status)

/-- Asks for an action, and fetches the execution again if the backend took it. -/
def request (t : Tracker) (action : ExecutionAction) :
    Session (Tracker × Except TransitionError ExecutionStatus) := do
  match action.check? t.shown.status with
  | none => return (t, .error (.notAllowed action t.shown.status))
  | some expected =>
    Session.log [.transitionRequested t.shown.id action t.shown.status expected]
    match ← Session.ask (.transition action t.shown.id) with
    | .error e => return (t, .error (.backend e))
    | .ok () =>
      let (after, result) ← t.refresh
      return (after, result.mapError .backend)

/-- Fetches the execution until it has ended or cannot be fetched, at most so many times; there is
no result when that many were not enough. -/
def waitUntilTerminal : Nat → Tracker →
    Session (Tracker × Option (Except ClientError ExecutionStatus))
  | 0, t => return (t, none)
  | polls + 1, t => do
    match ← t.refresh with
    | (after, .error e) => return (after, some (.error e))
    | (after, .ok status) =>
      if status.isTerminal then return (after, some (.ok status))
      else waitUntilTerminal polls after

end Tracker

end Workflow

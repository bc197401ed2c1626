import Workflow.Definition.Record
import Workflow.Execution.Page

namespace Workflow

/-!
# Talking to the backend

The backend is known by the calls that it answers; nothing is assumed about its answers.  What a
client does with it is a session: it ends with a value, or logs an event and goes on, or makes a
call and goes on as the reply says.  A session can be run against any server, real or imagined, and
the calls it makes and the events it logs are part of what a run gives.
-/

/-- Why a call has no result. -/
inductive ClientError where
  /-- The request was not answered. -/
  | transport
  /-- The backend answered with a refusal, and maybe a message. -/
  | rejected (status : Nat) (message : Option String)
  /-- The answer is not what was asked for. -/
  | undecodable (problem : DecodeError)

namespace ClientError

/-- The text of an error. -/
def message : ClientError → String
  | .transport => "Request to the workflow backend failed"
  | .rejected status none =>
    "Workflow backend rejected the request with HTTP " ++ toString status
  | .rejected status (some text) =>
    "Workflow backend rejected the request with HTTP " ++ toString status ++ ": " ++ text
  | .undecodable problem => "Could not decode backend response: " ++ problem.message

/-- What a user is told: the backend's own message if it has one that is not blank. -/
def userMessage (fallback : String) : ClientError → String
  | .rejected _ (some text) => if Text.isBlank text then fallback else text
  | _ => fallback

end ClientError

/-- A call of the backend. -/
inductive Call where
  | createWorkflow (request : SaveRequest)
  | updateWorkflow (id : String) (request : SaveRequest)
  | getWorkflow (id : String)
  | toggleWorkflow (id : String)
  | cloneWorkflow (id : String)
  | exportWorkflow (id : String)
  | importWorkflow (request : ImportRequest)
  | executeWorkflow (id : String)
  | listExecutions (filter : ExecutionFilter)
  | getExecution (id : String)
  | transition (action : ExecutionAction) (id : String)

namespace Call

/-- What a call gives when it succeeds. -/
def Result : Call → Type
  | .createWorkflow _ => Saved
  | .updateWorkflow _ _ => Saved
  | .getWorkflow _ => Record
  | .toggleWorkflow _ => Bool
  | .cloneWorkflow _ => String
  | .exportWorkflow _ => Json
  | .importWorkflow _ => String
  | .executeWorkflow _ => String
  | .listExecutions _ => ExecutionPage
  | .getExecution _ => Execution
  | .transition _ _ => Unit

/-- The reply to a call. -/
abbrev Reply (c : Call) : Type := Except ClientError c.Result

end Call

/-- What a client does, up to a value. -/
inductive Session (α : Type) where
  | done (value : α)
  | emit (event : Event) (rest : Session α)
  | call (c : Call) (next : c.Reply → Session α)

namespace Session

variable {α β σ : Type}

/-- Goes on with the value of a session. -/
def bind (s : Session α) (f : α → Session β) : Session β :=
  match s with
  | .done value => f value
  | .emit event rest => .emit event (rest.bind f)
  | .call c next => .call c fun reply => (next reply).bind f

instance : Monad Session where
  pure := .done
  bind := .bind

/-- Makes a call. -/
def ask (c : Call) : Session c.Reply := .call c .done

/-- Logs some events. -/
def log (events : List Event) : Session Unit := events.foldr .emit (.done ())

/-- How a server in some state answers each call, and the state it is in afterwards. -/
abbrev Server (σ : Type) := (c : Call) → σ → c.Reply × σ

/-- What a run of a session gives. -/
structure Run (σ α : Type) where
  value : α
  state : σ
  events : List Event
  calls : List Call

/-- Runs a session against a server. -/
def run (server : Server σ) : Session α → σ → Run σ α
  | .done value, state => ⟨value, state, [], []⟩
  | .emit event rest, state =>
    let after := rest.run server state
    { after with events := event :: after.events }
  | .call c next, state =>
    let answered := server c state
    let after := (next answered.1).run server answered.2
    { after with calls := c :: after.calls }

end Session

end Workflow

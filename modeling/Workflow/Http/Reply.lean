import Workflow.Http.Message

namespace Workflow.Http

/-!
# What a response says

A refusal carries a message under one of two names, the first of which counts if it has a value.  A
success is decoded as the call asks for, from its bytes, while a refusal is made a text first; a
started execution that has no id is a refusal after all.
-/

open Decoder

/-- The body of a refusal. -/
structure Refusal where
  message : Option String
  error : Option String

/-- The message of a refusal: its first text, or else its second one. -/
def Refusal.text? (r : Refusal) : Option String := r.message.or r.error

/-- The fields of a refusal read so far. -/
structure RefusalFields where
  message : Option (Option String) := none
  error : Option (Option String) := none

/-- How the fields of a refusal are read: both may be missing. -/
def Refusal.fieldGroup : Group RefusalFields Refusal where
  names := ["message", "error"]
  start := {}
  visit := fun medium fields key source =>
    if key = "message" then
      (once "message" fields.message (nullable string medium source)).map
        ({ fields with message := · })
    else if key = "error" then
      (once "error" fields.error (nullable string medium source)).map ({ fields with error := · })
    else skip fields source
  finish := fun _ fields => .ok ⟨fields.message.getD none, fields.error.getD none⟩

/-- A refusal. -/
def Refusal.decoder : Decoder Refusal := group Refusal.fieldGroup

/-- How the field of an answer with an id is read. -/
def idGroup : Group (Option String) String where
  names := ["id"]
  start := none
  visit := fun medium slot key source =>
    if key = "id" ∨ key = "workflowId" then once "id" slot (Decoder.id medium source)
    else skip slot source
  finish := fun absent slot => required absent "id" slot

/-- An answer with an id. -/
def idDecoder : Decoder String := group idGroup

/-- How the field of an answer that says whether a workflow is active is read. -/
def activeGroup : Group (Option Bool) Bool where
  names := ["isActive"]
  start := none
  visit := fun medium slot key source =>
    if key = "isActive" ∨ key = "is_active" then once "isActive" slot (bool medium source)
    else skip slot source
  finish := fun absent slot => required absent "isActive" slot

/-- An answer that says whether a workflow is active. -/
def activeDecoder : Decoder Bool := group activeGroup

/-- An answer to starting an execution. -/
structure Started where
  executionId : Option Json
  message : Option String

/-- The fields of such an answer read so far. -/
structure StartedFields where
  executionId : Option (Option Json) := none
  message : Option (Option String) := none

/-- How the fields of such an answer are read. -/
def Started.fieldGroup : Group StartedFields Started where
  names := ["executionId", "message"]
  start := {}
  visit := fun medium fields key source =>
    if key = "executionId" ∨ key = "execution_id" then
      (once "executionId" fields.executionId (nullable any medium source)).map
        ({ fields with executionId := · })
    else if key = "message" then
      (once "message" fields.message (nullable string medium source)).map
        ({ fields with message := · })
    else skip fields source
  finish := fun _ fields => .ok ⟨fields.executionId.getD none, fields.message.getD none⟩

/-- Both fields may be missing. -/
def Started.decoder : Decoder Started := group Started.fieldGroup

/-- The id of a started execution, a string or a number as its text. -/
def Started.id? (s : Started) : Option String :=
  match s.executionId with
  | some (.string text) => some text
  | some (.number n) => some (Json.numberText n)
  | _ => none

/-- The message of a refusal; none if its body cannot be decoded. -/
def refusalMessage (r : Response) : Option String :=
  match Refusal.decoder.ofText r.text with
  | .ok refusal => refusal.text?
  | .error _ => none

/-- The value of a body. -/
def decoded {α : Type} (decode : Decoder α) (r : Response) : Except ClientError α :=
  (decode.ofBytes r.content).mapError .undecodable

/-- The id of a started execution. -/
def startedId (r : Response) : Except ClientError String := do
  let started ← decoded Started.decoder r
  match started.id? with
  | some name => return name
  | none => throw (.rejected r.status started.message)

/-- What a success means to a call. -/
def accepted (c : Call) (r : Response) : c.Reply :=
  match c with
  | .createWorkflow _ => decoded Saved.decoder r
  | .updateWorkflow _ _ => decoded Saved.decoder r
  | .getWorkflow _ => decoded Record.decoder r
  | .toggleWorkflow _ => decoded activeDecoder r
  | .cloneWorkflow _ => decoded idDecoder r
  | .exportWorkflow _ => decoded any r
  | .importWorkflow _ => decoded idDecoder r
  | .executeWorkflow _ => startedId r
  | .listExecutions _ => decoded ExecutionPage.decoder r
  | .getExecution _ => decoded Execution.decoder r
  | .transition _ _ => .ok ()

/-- What a response means to a call. -/
def reply (c : Call) (r : Response) : c.Reply :=
  if r.isSuccess then accepted c r else .error (.rejected r.status (refusalMessage r))

end Workflow.Http

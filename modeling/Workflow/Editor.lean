import Workflow.Backend.Basic
import Workflow.Definition.Reconstruct
import Workflow.Validation

namespace Workflow

/-!
# Editing a stored workflow

An editor holds a draft, the schemas it is checked against, and, once the workflow is stored, its id
and version.  Only a valid graph is sent, together with the definition compiled from it.  Whether
saving creates or updates depends on whether the id is known; a save that fails changes nothing.
-/

/-- A draft and where it is stored. -/
structure Editor where
  schemas : Registry
  draft : Draft
  workflowId : Option String
  version : Option Int

/-- Why the editor cannot do what it is asked. -/
inductive EditorError where
  | invalid (report : Report)
  | compile (cause : CompileError)
  | client (cause : ClientError)
  | notSaved

/-- The text of a failure. -/
def EditorError.message : EditorError → String
  | .invalid report => "Workflow is invalid: " ++ String.intercalate "; " report.errors
  | .compile cause => cause.message
  | .client cause => cause.message
  | .notSaved => "Workflow must be saved before it can be executed"

namespace Editor

/-- An editor for a new workflow. -/
def new (name : String) : Editor := ⟨.builtIn, ⟨name, "", .empty⟩, none, none⟩

/-- The graph to edit for a record: the stored one, or a chain if none is stored or it cannot be
read. -/
def graphOf (record : Record) : Graph :=
  match record.storedGraph with
  | some (.ok g) => g
  | _ => record.definition.reconstruct

/-- What is logged on opening a record under an id. -/
def openEvents (id : String) (record : Record) : List Event :=
  match record.storedGraph with
  | some (.ok _) => []
  | some (.error e) =>
    .storedGraphUnreadable id e.message :: record.definition.reconstructEvents
  | none => record.definition.reconstructEvents

/-- The editor of a record. -/
def ofRecord (record : Record) : Editor :=
  ⟨.builtIn, ⟨record.definition.name, record.definition.description, graphOf record⟩,
    some record.id, record.definition.version⟩

/-- Opens a stored workflow. -/
def openWorkflow (id : String) : Session (Except ClientError Editor) := do
  match ← Session.ask (.getWorkflow id) with
  | .error e => return .error e
  | .ok record =>
    Session.log (openEvents id record)
    return .ok (ofRecord record)

/-- Checks the draft. -/
def validate (e : Editor) : Report := Validation.validate e.schemas e.draft.name e.draft.graph

/-- The definition of the draft, if it is valid. -/
def compile (e : Editor) : Except EditorError Definition :=
  if e.validate.isValid then e.draft.compile.mapError .compile else .error (.invalid e.validate)

/-- What compiling logs; nothing, if the draft is not valid. -/
def compileEvents (e : Editor) : List Event :=
  if e.validate.isValid then e.draft.compileEvents else []

/-- Makes the call that saves. -/
def sendSave (workflowId : Option String) (request : SaveRequest) :
    Session (Except ClientError Saved) :=
  match workflowId with
  | some id => Session.ask (.updateWorkflow id request)
  | none => Session.ask (.createWorkflow request)

/-- Checks, compiles and saves the workflow. -/
def save (e : Editor) : Session (Editor × Except EditorError Saved) := do
  Session.log e.compileEvents
  match e.compile with
  | .error problem => return (e, .error problem)
  | .ok definition =>
    match ← sendSave e.workflowId ⟨definition, e.draft.graph⟩ with
    | .error problem => return (e, .error (.client problem))
    | .ok saved =>
      Session.log [.workflowSaved saved.id saved.version]
      return ({ e with workflowId := some saved.id, version := saved.version }, .ok saved)

/-- Starts an execution of the stored workflow. -/
def execute (e : Editor) : Session (Except EditorError String) := do
  match e.workflowId with
  | none => return .error .notSaved
  | some id =>
    match ← Session.ask (.executeWorkflow id) with
    | .error problem => return .error (.client problem)
    | .ok executionId =>
      Session.log [.executionStarted id executionId]
      return .ok executionId

end Editor

end Workflow

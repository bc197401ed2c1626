import Workflow.Backend.Basic

namespace Workflow

/-!
# A backend in memory

The store keeps records and executions under their ids and enforces the states of executions as the
real backend does.  It notes each call, each body that was saved and each import.  Statuses can be
scripted: each look-up of an execution takes the next one, be the execution there or not.
-/

/-- The state of the backend in memory. -/
structure Store where
  records : Dictionary Json
  executions : Dictionary Execution
  scripted : List ExecutionStatus
  calls : List String
  savedBodies : List Object
  imports : List Json
  /-- How many ids have been given to workflows. -/
  issued : Nat

namespace Store

/-- The store with nothing in it. -/
def empty : Store := ⟨.empty, .empty, [], [], [], [], 0⟩

/-- The time at which executions start here: 1 March 2024, half past nine. -/
def startTime : Instant := ⟨19783, 34200, 0⟩

/-- The refusal of an id that is not there. -/
def notFound : ClientError := .rejected 404 (some "Not found")

/-- The refusal of an action that the status does not allow. -/
def conflict (action : ExecutionAction) (status : ExecutionStatus) : ClientError :=
  .rejected 409 (some ("Cannot " ++ action.name ++ " a " ++ status.name ++ " execution"))

/-- Notes a call. -/
def note (s : Store) (operation id : String) : Store :=
  { s with calls := s.calls ++ [operation ++ " " ++ id] }

/-- The next id of a workflow. -/
def nextId (s : Store) : String := "wf-" ++ toString (s.issued + 1)

/-- Keeps a save request under an id, with the id and a version put in. -/
def keep (s : Store) (id : String) (request : SaveRequest) (version : Int) : Store :=
  let record := (request.body.insert "id" (.string id)).insert "version" (.ofInt version)
  { s with
    savedBodies := s.savedBodies ++ [request.body]
    records := s.records.insert id (.ofObject record) }

/-- The version of a record; one without a version has version zero. -/
def versionOf (record : Json) : Int := ((record.member? "version").bind Json.integer?).getD 0

/-- Sets a member of a record, which may be nothing yet. -/
def withMember (record : Json) (key : String) (value : Json) : Json :=
  match record with
  | .null => .object [(key, value)]
  | _ => record.setMember key value

/-- Whether members of a record can be set: it is an object, or nothing yet. -/
def takesMembers : Json → Bool
  | .null => true
  | .object _ => true
  | _ => false

/-- Whether a call can be answered: an update must find a version that has a next one, and one that
sets a member of a record must find a record that takes members; or neither finds a record. -/
def canAnswer (s : Store) : Call → Bool
  | .updateWorkflow id _ => (s.records.get? id).all fun r => versionOf r + 1 < Int.pow 2 63
  | .toggleWorkflow id => (s.records.get? id).all takesMembers
  | .cloneWorkflow id => (s.records.get? id).all takesMembers
  | _ => true

/-- The flag of a record; one without a flag is inactive. -/
def isActive (record : Json) : Bool := ((record.member? "isActive").bind Json.bool?).getD false

/-- Takes the next scripted status, and gives it to an execution if it is there. -/
def look (s : Store) (id : String) : Except ClientError Execution × Store :=
  let rest := { s with scripted := s.scripted.drop 1 }
  match s.executions.get? id with
  | none => (.error notFound, rest)
  | some e =>
    let current := { e with status := s.scripted.head?.getD e.status }
    (.ok current, { rest with executions := s.executions.insert id current })

/-- Carries out an action if the status allows it. -/
def move (s : Store) (action : ExecutionAction) (id : String) : Except ClientError Unit × Store :=
  match s.executions.get? id with
  | none => (.error notFound, s)
  | some e =>
    if action.isAllowedFrom e.status then
      (.ok (), { s with executions := s.executions.insert id { e with status := action.target } })
    else (.error (conflict action e.status), s)

/-- The executions that a filter asks for, by ascending id, as one page. -/
def page (s : Store) (filter : ExecutionFilter) : ExecutionPage :=
  let found := s.executions.values.filter fun e =>
    (filter.workflowId.all (· == e.workflowId)) && (filter.status.all (· == e.status))
  ⟨found, some found.length, filter.page, filter.limit⟩

/-- Answers a call. -/
def answer : Session.Server Store := fun c s =>
  match c with
  | .createWorkflow request =>
    let id := s.nextId
    let counted := { s with issued := s.issued + 1 }
    (.ok ⟨id, some 1⟩, (counted.note "create" id).keep id request 1)
  | .updateWorkflow id request =>
    let noted := s.note "update" id
    match s.records.get? id with
    | none => (.error notFound, noted)
    | some record =>
      let version := versionOf record + 1
      (.ok ⟨id, some version⟩, noted.keep id request version)
  | .getWorkflow id =>
    let noted := s.note "get" id
    match s.records.get? id with
    | none => (.error notFound, noted)
    | some record =>
      match Record.decoder.ofJson record with
      | .ok r => (.ok r, noted)
      | .error problem => (.error (.undecodable problem), noted)
  | .toggleWorkflow id =>
    let noted := s.note "toggle" id
    match s.records.get? id with
    | none => (.error notFound, noted)
    | some record =>
      let active := !isActive record
      let toggled := withMember record "isActive" (.bool active)
      (.ok active, { noted with records := s.records.insert id toggled })
  | .cloneWorkflow id =>
    let noted := s.note "clone" id
    match s.records.get? id with
    | none => (.error notFound, noted)
    | some record =>
      let copy := withMember record "id" (.string s.nextId)
      (.ok s.nextId,
        { noted with issued := s.issued + 1, records := s.records.insert s.nextId copy })
  | .exportWorkflow id =>
    let noted := s.note "export" id
    match s.records.get? id with
    | none => (.error notFound, noted)
    | some record => (.ok record, noted)
  | .importWorkflow request =>
    let id := s.nextId
    let noted := { s with issued := s.issued + 1 }.note "import" id
    (.ok id, { noted with imports := s.imports ++ [request.workflowData] })
  | .executeWorkflow id =>
    let noted := s.note "execute" id
    match s.records.get? id with
    | none => (.error notFound, noted)
    | some _ =>
      let executionId := "exec-" ++ toString (s.executions.size + 1)
      let started : Execution := ⟨executionId, id, .pending, 0, startTime, none, none, []⟩
      (.ok executionId, { noted with executions := s.executions.insert executionId started })
  | .listExecutions filter => (.ok (s.page filter), s)
  | .getExecution id => (s.note "get-execution" id).look id
  | .transition action id => (s.note action.name id).move action id

end Store

end Workflow

import Workflow.Backend.Basic
import Workflow.Text.Encoding

namespace Workflow.Http

/-!
# Requests and responses

Each call of the backend is one request: a method, a path under the base address, pairs for the
query and maybe a JSON body.
-/

/-- What a request does with its target. -/
inductive Method where
  | get
  | post
  | put
  | patch
  deriving DecidableEq

/-- The name of a method. -/
def Method.name : Method → String
  | .get => "GET"
  | .post => "POST"
  | .put => "PUT"
  | .patch => "PATCH"

/-- A request, and the server that it is sent to. -/
structure Request where
  host : String
  service : Nat
  method : Method
  target : String
  authorization : Option String
  body : Option Json

/-- The body of a response. -/
structure Body where
  bytes : List UInt8

/-- A text is sent in UTF-8. -/
instance : Coe String Body where
  coe text := ⟨Text.toBytes text⟩

/-- A response as it is received, with all of its body.  Its fields are not kept: what they say
about the length and the coding of the body has been done by then. -/
structure Response where
  status : Nat
  body : Body

/-- A response to a request that was carried out. -/
def Response.isSuccess (r : Response) : Bool := 200 ≤ r.status && r.status < 300

/-- What a response has for its body; some statuses say that there is none. -/
def Response.content (r : Response) : List UInt8 :=
  if r.status = 204 ∨ r.status = 304 then [] else r.body.bytes

/-- The text of a response.  It is in UTF-8 if it does not say otherwise by a mark. -/
def Response.text (r : Response) : String := Text.ofBytes r.content

/-- The method of a call. -/
def method : Call → Method
  | .createWorkflow _ => .post
  | .updateWorkflow _ _ => .put
  | .getWorkflow _ => .get
  | .toggleWorkflow _ => .patch
  | .cloneWorkflow _ => .post
  | .exportWorkflow _ => .get
  | .importWorkflow _ => .post
  | .executeWorkflow _ => .post
  | .listExecutions _ => .get
  | .getExecution _ => .get
  | .transition _ _ => .post

/-- The path of a call under the base address. -/
def path : Call → String
  | .createWorkflow _ => "/workflows"
  | .updateWorkflow id _ => "/workflows/" ++ id
  | .getWorkflow id => "/workflows/" ++ id
  | .toggleWorkflow id => "/workflows/" ++ id ++ "/toggle"
  | .cloneWorkflow id => "/workflows/" ++ id ++ "/clone"
  | .exportWorkflow id => "/workflows/" ++ id ++ "/export"
  | .importWorkflow _ => "/workflows/import"
  | .executeWorkflow id => "/workflows/" ++ id ++ "/execute"
  | .listExecutions _ => "/workflow-executions"
  | .getExecution id => "/workflow-executions/" ++ id
  | .transition .cancel id => "/workflow-executions/" ++ id ++ "/cancel"
  | .transition .pause id => "/workflows/executions/" ++ id ++ "/pause"
  | .transition .resume id => "/workflows/executions/" ++ id ++ "/resume"

/-- The pairs that a filter adds to the query. -/
def filterPairs (filter : ExecutionFilter) : List (String × String) :=
  let pair (name : String) (value : Option String) : List (String × String) :=
    value.toList.map fun text => (name, text)
  pair "workflowId" filter.workflowId ++ pair "status" (filter.status.map ExecutionStatus.name) ++
    pair "page" (filter.page.map fun page => toString page.toNat) ++
    pair "limit" (filter.limit.map fun limit => toString limit.toNat)

/-- The pairs of a call; only lists have a filter. -/
def pairs? : Call → Option (List (String × String))
  | .listExecutions filter => some (filterPairs filter)
  | _ => none

/-- The body of a call. -/
def body? : Call → Option Json
  | .createWorkflow request => some (.ofObject request.body)
  | .updateWorkflow _ request => some (.ofObject request.body)
  | .importWorkflow request => some request.toJson
  | _ => none

end Workflow.Http

import Workflow.Http.Message

namespace Workflow.Http

/-!
# A scripted server

A script answers each request with the next of its responses, whatever the request, and notes what
it received.  When the responses are used up, the service is unavailable.
-/

/-- A request as its server has it, where the body has been read from the text of what was sent. -/
def Request.received (r : Request) : Request :=
  { r with body := r.body.map fun sent => (Json.parse? sent.compact).getD .null }

/-- The responses to come, and the requests received so far. -/
structure Script where
  responses : List Response
  received : List Request

namespace Script

/-- A script of which nothing has been used. -/
def ofResponses (responses : List Response) : Script := ⟨responses, []⟩

/-- The response when there is no other. -/
def unavailable : Response := ⟨503, ""⟩

/-- Answers a request. -/
def serve (request : Request) (s : Script) : Option Response × Script :=
  (some (s.responses.head?.getD unavailable),
    ⟨s.responses.drop 1, s.received ++ [request.received]⟩)

end Script

end Workflow.Http

import Workflow.Proofs.Http.Answers
import Workflow.Proofs.Json.ReadBack

namespace Workflow.Http

/-!
# What responses come to

A call is one request, and what the call comes to is told by the response alone: its status says
whether it is a refusal, and only the body of a success has to be decoded.  A started execution
needs an id on top of that; a success without one is a refusal after all.

What a body has to say for each call is said by its members, as in `SaysId` or `IsExecution`, and
not by any decoder.  The body of a success is read from its bytes, and that of a refusal as a text.
-/

open Decoder Source

/-- Answers requests as before, and notes each request. -/
def noting {σ : Type} (transmit : Request → σ → Option Response × σ) (request : Request)
    (noted : σ × List Request) : Option Response × (σ × List Request) :=
  let answered := transmit request noted.1
  (answered.1, answered.2, noted.2 ++ [request])

/-! ## Bodies -/

section Bodies

variable {α : Type} {status : Nat} {v : Json}

/-- The body of a response is one JSON text and no more, and this is what it says. -/
def Response.Holds (r : Response) (means : Source → α → Prop) (a : α) : Prop :=
  ∃ root, Json.read (Json.textOfBytes r.content) = ⟨root, false⟩ ∧ means root a

/-- The body of a response is one JSON text and no more once it is a text, and this is what it
says. -/
def Response.Tells (r : Response) (means : Source → α → Prop) (a : α) : Prop :=
  ∃ root, Json.read r.text = ⟨root, false⟩ ∧ means root a

/-- What was written is held, unless the status says that there is no body. -/
theorem holds_compact {means : Source → α → Prop} {a : α} (whole : ¬(status = 204 ∨ status = 304))
    (legible : Json.Legible Json.deepest v) (said : means v.toSource a) :
    Response.Holds ⟨status, v.compact⟩ means a := by
  have content : Response.content ⟨status, v.compact⟩ = Text.toBytes v.compact := if_neg whole
  refine ⟨v.toSource, ?_, said⟩
  rw [content, Json.textOfBytes_toBytes]
  exact Json.read_compact legible

/-- The text of a response with an object is what was written, which starts with no mark. -/
theorem text_compact_object (whole : ¬(status = 204 ∨ status = 304))
    (members : List (String × Json)) :
    Response.text ⟨status, (Json.object members).compact⟩ = (Json.object members).compact := by
  have content : Response.content ⟨status, (Json.object members).compact⟩ =
      Text.toBytes (Json.object members).compact := if_neg whole
  have starts : ∃ rest, (Json.object members).compact.toList = '\x7b' :: rest := by
    rw [Json.compact, String.toList_append, String.toList_append]
    exact ⟨_, rfl⟩
  rcases starts with ⟨rest, characters⟩
  rw [Response.text, content, Text.ofBytes_toBytes, Text.withoutMark, characters]
  exact if_neg (by decide)

/-- An object that was written is told, unless the status says that there is no body. -/
theorem tells_compact_object {means : Source → α → Prop} {a : α}
    (whole : ¬(status = 204 ∨ status = 304)) {members : List (String × Json)}
    (legible : Json.Legible Json.deepest (.object members))
    (said : means (Json.object members).toSource a) :
    Response.Tells ⟨status, (Json.object members).compact⟩ means a := by
  refine ⟨(Json.object members).toSource, ?_, said⟩
  rw [text_compact_object whole]
  exact Json.read_compact legible

end Bodies

/-! ## Outcomes -/

section Replies

variable {α : Type}

/-- The reply is what the body says, or the problem that it says nothing of the kind. -/
structure Decodes (means : Source → α → Prop) (r : Response) (reply : Except ClientError α) :
    Prop where
  ok : ∀ a, reply = .ok a ↔ r.Holds means a
  undecodable : (∀ a, ¬r.Holds means a) → ∃ problem, reply = .error (.undecodable problem)

/-- The reply is the id of the execution, if there is one and it is a string or a number; or the
problem that the body is no answer to starting an execution; or a refusal with the message that the
body has. -/
structure Starts (r : Response) (reply : Except ClientError String) : Prop where
  ok : ∀ name, reply = .ok name ↔
    ∃ started v, r.Holds SaysStarted started ∧ started.executionId = some v ∧ IdText v name
  undecodable : (∃ problem, reply = .error (.undecodable problem)) ↔
    ∀ started, ¬r.Holds SaysStarted started
  rejected : ∀ status message, reply = .error (.rejected status message) ↔
    status = r.status ∧ ∃ started, r.Holds SaysStarted started ∧ started.message = message ∧
      ∀ v name, started.executionId = some v → ¬IdText v name

/-- The reply is a refusal with the first text that the body says, and with none if the body is no
refusal. -/
structure Refuses (r : Response) (reply : Except ClientError α) : Prop where
  told : ∀ refusal, r.Tells SaysRefusal refusal →
    reply = .error (.rejected r.status (refusal.message.or refusal.error))
  untold : (∀ refusal, ¬r.Tells SaysRefusal refusal) → reply = .error (.rejected r.status none)

/-- The reply is what a success means to the call.  Exported data is any value. -/
def Fits (r : Response) : (c : Call) → c.Reply → Prop
  | .createWorkflow _, reply => Decodes IsSaved r reply
  | .updateWorkflow _ _, reply => Decodes IsSaved r reply
  | .getWorkflow _, reply => Decodes IsRecord r reply
  | .toggleWorkflow _, reply => Decodes SaysActive r reply
  | .cloneWorkflow _, reply => Decodes SaysId r reply
  | .exportWorkflow _, reply => Decodes IsValue r reply
  | .importWorkflow _, reply => Decodes SaysId r reply
  | .executeWorkflow _, reply => Starts r reply
  | .listExecutions _, reply => Decodes IsPage r reply
  | .getExecution _, reply => Decodes IsExecution r reply
  | .transition _ _, reply => reply = .ok ()

section Decoding

variable {decode : Decoder α} {means : Source → α → Prop} {r : Response}

theorem decoded_eq_ok_iff (read : ∀ root a, decode .text root = .ok a ↔ means root a) {a : α} :
    decoded decode r = .ok a ↔ r.Holds means a := by
  rw [decoded, mapError_eq_ok_iff]
  simp only [ofBytes, ofText_eq_ok_iff, read, Response.Holds]

theorem decoded_cases (decode : Decoder α) (r : Response) :
    (∃ a, decoded decode r = .ok a) ∨
      ∃ problem, decoded decode r = .error (.undecodable problem) := by
  unfold decoded
  cases decode.ofBytes r.content with
  | ok a => exact .inl ⟨a, rfl⟩
  | error problem => exact .inr ⟨problem, rfl⟩

/-- A body is decoded as what it says, if the decoder finds in a source just what that says. -/
theorem decodes_decoded (read : ∀ root a, decode .text root = .ok a ↔ means root a)
    (r : Response) : Decodes means r (decoded decode r) where
  ok _ := decoded_eq_ok_iff read
  undecodable nothing := by
    rcases decoded_cases decode r with ⟨a, found⟩ | undecodable
    · exact absurd ((decoded_eq_ok_iff read).mp found) (nothing a)
    · exact undecodable

theorem refusalMessage_of_tells {refusal : Refusal} (told : r.Tells SaysRefusal refusal) :
    refusalMessage r = refusal.message.or refusal.error := by
  rcases told with ⟨root, read, said⟩
  have found := ofText_eq_ok_iff.mpr ⟨root, read, Refusal.decoder_eq_ok_iff.mpr said⟩
  rw [refusalMessage, found]
  rfl

/-- A refusal has the message that its body says, and none if that says nothing of the kind. -/
theorem refuses_refusalMessage (r : Response) :
    Refuses r (.error (.rejected r.status (refusalMessage r)) : Except ClientError α) where
  told refusal told := by rw [refusalMessage_of_tells told]
  untold untold := by
    rw [refusalMessage]
    cases read : Refusal.decoder.ofText r.text with
    | error problem => rfl
    | ok refusal =>
        rcases ofText_eq_ok_iff.mp read with ⟨root, document, decoded⟩
        exact absurd ⟨root, document, Refusal.decoder_eq_ok_iff.mp decoded⟩ (untold refusal)

end Decoding

section Starting

variable {r : Response} {started : Started}

theorem Started.id?_eq_some_iff {name : String} :
    started.id? = some name ↔ ∃ v, started.executionId = some v ∧ IdText v name := by
  rcases started with ⟨slot, message⟩
  constructor
  · intro named
    cases slot with
    | none => cases named
    | some v =>
        refine ⟨v, rfl, ?_⟩
        cases v with
        | string s =>
            obtain rfl := Option.some.inj named
            exact .string s
        | number n =>
            obtain rfl := Option.some.inj named
            exact .number n
        | null | bool b | array items | object members => cases named
  · rintro ⟨v, rfl, text⟩
    cases text with
    | string s => rfl
    | number n => rfl

theorem Started.id?_eq_none_iff :
    started.id? = none ↔ ∀ v name, started.executionId = some v → ¬IdText v name := by
  simp only [Option.eq_none_iff_forall_ne_some, ne_eq, Started.id?_eq_some_iff, not_exists, not_and]
  exact forall_comm

/-- The id of a started execution, given what its answer is decoded to. -/
theorem startedId_eq_of_decoded (r : Response) :
    startedId r = (decoded Started.decoder r).bind fun started =>
      started.id?.elim (.error (.rejected r.status started.message)) .ok := by
  unfold startedId
  refine congrArg (decoded Started.decoder r).bind (funext fun started => ?_)
  cases started.id? <;> rfl

theorem starts_startedId (r : Response) : Starts r (startedId r) := by
  have found : ∀ started, r.Holds SaysStarted started ↔
      decoded Started.decoder r = .ok started :=
    fun _ => (decoded_eq_ok_iff fun _ _ => Started.decoder_eq_ok_iff).symm
  rcases decoded_cases Started.decoder r with ⟨started, read⟩ | ⟨problem, failed⟩
  · have replied : startedId r =
        started.id?.elim (.error (.rejected r.status started.message)) .ok := by
      rw [startedId_eq_of_decoded, read]
      rfl
    simp only [read, Except.ok.injEq] at found
    rw [replied]
    constructor
    · intro name
      simp only [found, exists_and_left, exists_eq_left', ← Started.id?_eq_some_iff]
      cases started.id? <;> simp
    · simp only [found, forall_eq', iff_false]
      rintro ⟨problem, same⟩
      cases named : started.id? <;> rw [named] at same <;> cases same
    · intro status message
      simp only [found, exists_eq_left', ← Started.id?_eq_none_iff]
      cases started.id? <;> simp [eq_comm]
  · have replied : startedId r = .error (.undecodable problem) := by
      rw [startedId_eq_of_decoded, failed]
      rfl
    simp only [failed, reduceCtorEq, iff_false] at found
    rw [replied]
    constructor <;> simp [found]

end Starting

end Replies

theorem fits_accepted (c : Call) (r : Response) : Fits r c (accepted c r) := by
  cases c with
  | createWorkflow request => exact decodes_decoded (fun _ _ => Saved.decoder_eq_ok_iff) r
  | updateWorkflow id request => exact decodes_decoded (fun _ _ => Saved.decoder_eq_ok_iff) r
  | getWorkflow id => exact decodes_decoded (fun _ _ => Record.decoder_eq_ok_iff) r
  | toggleWorkflow id => exact decodes_decoded (fun _ _ => activeDecoder_eq_ok_iff) r
  | cloneWorkflow id => exact decodes_decoded (fun _ _ => idDecoder_eq_ok_iff) r
  | exportWorkflow id => exact decodes_decoded (fun _ _ => any_eq_ok_iff) r
  | importWorkflow request => exact decodes_decoded (fun _ _ => idDecoder_eq_ok_iff) r
  | executeWorkflow id => exact starts_startedId r
  | listExecutions filter => exact decodes_decoded (fun _ _ => ExecutionPage.decoder_eq_ok_iff) r
  | getExecution id => exact decodes_decoded (fun _ _ => Execution.decoder_eq_ok_iff) r
  | transition action id => exact rfl

namespace Client

variable {σ : Type} {c : Call} {state after : σ} {request : Request} {r : Response}

/-- A call that is answered is replied to as the response says. -/
theorem answer_eq_reply (client : Client) {transmit : Request → σ → Option Response × σ}
    (sent : client.request? c = some request)
    (answered : transmit request state = (some r, after)) :
    client.answer transmit c state = (reply c r, after) := by
  rw [answer, sent]
  dsimp only
  rw [answered]

theorem reply_of_refused (c : Call) (refused : ¬(200 ≤ r.status ∧ r.status ≤ 299)) :
    reply c r = .error (.rejected r.status (refusalMessage r)) := by
  have failure : ¬r.isSuccess = true := by
    simp only [Response.isSuccess, Bool.and_eq_true, decide_eq_true_eq]
    omega
  exact if_neg failure

theorem reply_of_success (c : Call) (success : 200 ≤ r.status ∧ r.status ≤ 299) :
    reply c r = accepted c r := by
  have success : r.isSuccess = true := by
    simp only [Response.isSuccess, Bool.and_eq_true, decide_eq_true_eq]
    omega
  exact if_pos success

/-- Each call is sent once.  A response that is no success is a refusal, with the message that its
body has; a success is what it means to the call. -/
theorem outcomes_follow_responses (client : Client)
    (transmit : Request → σ → Option Response × σ) (sent : client.request? c = some request)
    (answered : transmit request state = (some r, after)) (earlier : List Request) :
    let outcome := client.answer (noting transmit) c (state, earlier)
    outcome.2 = (after, earlier ++ [request]) ∧
    (¬(200 ≤ r.status ∧ r.status ≤ 299) → Refuses r outcome.1) ∧
    (200 ≤ r.status ∧ r.status ≤ 299 → Fits r c outcome.1) := by
  intro outcome
  have noted : noting transmit request (state, earlier) =
      (some r, (after, earlier ++ [request])) := by
    rw [noting, answered]
  have replied : outcome = (reply c r, (after, earlier ++ [request])) :=
    answer_eq_reply client sent noted
  rw [replied]
  refine ⟨rfl, fun refused => ?_, fun success => ?_⟩
  · exact reply_of_refused c refused ▸ refuses_refusalMessage r
  · exact reply_of_success c success ▸ fits_accepted c r

/-- A body with one member, a number. -/
def numbered (name : String) : Json := .object [(name, .number (.integer 17))]

/-- What such a body says, which is its only member. -/
theorem holds_numbered {α : Type} {means : Source → α → Prop} {a : α} {name : String}
    (said : means (.object [(some name, .value (.number (.integer 17)))] true) a) :
    Response.Holds ⟨200, (numbered name).compact⟩ means a := by
  have legible : Json.Legible Json.deepest (numbered name) := by
    refine .object fun m member => ?_
    obtain rfl := List.mem_singleton.mp member
    exact .number (Number.readsBack_integer (by decide) (by decide))
  exact holds_compact (by decide) legible said

/-- A body with one member, a text. -/
def messageBody (text : String) : Json := .object [("message", .string text)]

/-- An execution is started and a copy is made, each by one request, and both answers have a number
for their id.  Both ids are its text.  An answer that refuses to toggle has a message. -/
theorem outcomes_follow_responses_number :
    let client : Client := ⟨"http://[::1]", none⟩
    let transmit (status : Nat) (body : Json) (_ : Request) (state : Unit) :
        Option Response × Unit := (some ⟨status, body.compact⟩, state)
    let started :=
      client.answer (noting (transmit 200 (numbered "executionId"))) (.executeWorkflow "wf-1")
        ((), [])
    let copied :=
      client.answer (noting (transmit 200 (numbered "id"))) (.cloneWorkflow "wf-1") ((), [])
    let refused :=
      client.answer (noting (transmit 409 (messageBody "Busy"))) (.toggleWorkflow "wf-1") ((), [])
    (∃ request, client.request? (.executeWorkflow "wf-1") = some request ∧
      started.2 = ((), [request])) ∧
    started.1 = .ok "17" ∧ copied.1 = .ok "17" ∧
    refused.1 = .error (.rejected 409 (some "Busy")) := by
  intro client transmit started copied refused
  have text : IdText (.number (.integer 17)) "17" := .number (.integer 17)
  have starting : (client.request? (.executeWorkflow "wf-1")).isSome = true := by decide +kernel
  have copying : (client.request? (.cloneWorkflow "wf-1")).isSome = true := by decide +kernel
  have toggling : (client.request? (.toggleWorkflow "wf-1")).isSome = true := by decide +kernel
  rcases Option.isSome_iff_exists.mp starting with ⟨request, sent⟩
  rcases Option.isSome_iff_exists.mp copying with ⟨other, otherSent⟩
  rcases Option.isSome_iff_exists.mp toggling with ⟨last, lastSent⟩
  rcases outcomes_follow_responses client (transmit 200 (numbered "executionId")) sent rfl []
    with ⟨noted, _, fits⟩
  rcases outcomes_follow_responses client (transmit 200 (numbered "id")) otherSent rfl []
    with ⟨_, _, otherFits⟩
  rcases outcomes_follow_responses client (transmit 409 (messageBody "Busy")) lastSent rfl []
    with ⟨_, refuses, _⟩
  have starts : Starts ⟨200, (numbered "executionId").compact⟩ started.1 := fits (by decide)
  have decodes : Decodes SaysId ⟨200, (numbered "id").compact⟩ copied.1 := otherFits (by decide)
  have refuses : Refuses ⟨409, (messageBody "Busy").compact⟩ refused.1 := refuses (by decide)
  have grammatical : ∀ (name : String) (v : Json), ∀ m ∈ [(name, Source.value v)],
      m.2.grammatical = true := fun _ _ => List.forall_mem_singleton.mpr rfl
  have present : Json.number (.integer 17) ≠ .null := by
    intro same
    cases same
  refine ⟨⟨request, sent, noted⟩, (starts.ok _).mpr ?_, (decodes.ok _).mpr ?_,
    refuses.told ⟨some "Busy", none⟩ ?_⟩
  · refine ⟨⟨some (.number (.integer 17)), none⟩, _, holds_numbered ?_, rfl, text⟩
    exact ⟨_, lists_object _ (grammatical "executionId" _), .value (.value ⟨rfl, present⟩),
      .absent⟩
  · exact holds_numbered ⟨_, lists_object _ (grammatical "id" _), _, rfl, _, rfl, text⟩
  · have legible : Json.Legible Json.deepest (messageBody "Busy") := by
      refine .object fun m member => ?_
      obtain rfl := List.mem_singleton.mp member
      exact .string "Busy"
    refine tells_compact_object (by decide) legible ?_
    exact ⟨_, lists_object _ (grammatical "message" (.string "Busy")), .value (.value rfl),
      .absent⟩

end Client

end Workflow.Http

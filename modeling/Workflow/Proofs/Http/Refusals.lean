import Workflow.Proofs.Http.Outcomes
import Workflow.Proofs.Json.ReadBack

namespace Workflow.Http

/-!
# What users are told of a refusal

A refusal may say why under two names.  The first text that is there is taken for its message, and
whether that is blank is asked only afterwards.  So a blank message hides the text under the second
name; in every other case, users are told the first text that is there and not blank.
-/

open Source

/-- The body of a response is an object with these members. -/
structure Response.HasMembers (r : Response) (members : List (String × Source)) : Prop where
  read : Json.read r.text =
    ⟨.object (members.map fun m => (some m.1, m.2)) true, false⟩
  grammatical : ∀ m ∈ members, m.2.grammatical = true

/-- The first text that is there and not blank. -/
def firstText? (texts : List (Option String)) : Option String :=
  (texts.filterMap id).find? fun text => !Text.isBlank text

/-- The message of a refusal is the first text that its body says. -/
theorem refusalMessage_eq {r : Response} {members : List (String × Source)}
    {message error : Option String} (body : r.HasMembers members)
    (first : MaySay IsText (under ["message"] members) message)
    (second : MaySay IsText (under ["error"] members) error) :
    refusalMessage r = message.or error := by
  have told : r.Tells SaysRefusal ⟨message, error⟩ :=
    ⟨_, body.read, members, lists_object _ body.grammatical, first, second⟩
  exact refusalMessage_of_tells told

/-! ## What users are told -/

section Told

variable {message error : Option String}

/-- Of one text, users are told if it is not blank. -/
theorem userMessage_rejected (status : Nat) (fallback : String) (text : Option String) :
    (ClientError.rejected status text).userMessage fallback =
      (firstText? [text]).getD fallback := by
  cases text with
  | none => rfl
  | some text =>
      cases blank : Text.isBlank text <;> simp [ClientError.userMessage, firstText?, blank]

/-- Taking the first text that is there loses nothing, unless it is blank and another is not. -/
theorem firstText?_or (shown : ∀ text ∈ message, Text.isBlank text = true →
      ∀ other ∈ error, Text.isBlank other = true) :
    firstText? [message.or error] = firstText? [message, error] := by
  cases message with
  | none => rfl
  | some text =>
      cases blank : Text.isBlank text with
      | false => simp [firstText?, blank]
      | true =>
          cases error with
          | none => rfl
          | some other =>
              have hidden : Text.isBlank other = true := shown text rfl blank other rfl
              simp [firstText?, blank, hidden]

end Told

/-! ## Bodies with texts -/

/-- The body that has some texts for its members. -/
def textsBody (entries : List (String × String)) : String :=
  (Json.object (entries.map fun e => (e.1, .string e.2))).compact

/-- Such a body has the texts for its members, unless the status says that there is no body. -/
theorem hasMembers_textsBody {status : Nat} (whole : ¬(status = 204 ∨ status = 304))
    (entries : List (String × String)) :
    Response.HasMembers ⟨status, textsBody entries⟩
      (entries.map fun e => (e.1, .value (.string e.2))) where
  read := by
    have legible : Json.Legible Json.deepest
        (.object (entries.map fun e => (e.1, .string e.2))) := by
      refine .object fun m member => ?_
      rcases List.mem_map.mp member with ⟨e, _, rfl⟩
      exact .string e.2
    rw [textsBody, text_compact_object whole, Json.read_compact legible, Json.toSource_object,
      List.map_map, List.map_map]
    rfl
  grammatical := by
    intro m member
    rcases List.mem_map.mp member with ⟨e, _, rfl⟩
    rfl

namespace Client

variable {σ : Type} {c : Call} {state after : σ} {request : Request} {r : Response}

/-- Users are told the first text of a refusal that is there and not blank, or else the fallback,
unless a blank message hides the other text: they are told the fallback then. -/
theorem refusals_are_told (client : Client) (transmit : Request → σ → Option Response × σ)
    (sent : client.request? c = some request)
    (answered : transmit request state = (some r, after))
    (refused : ¬(200 ≤ r.status ∧ r.status ≤ 299))
    {members : List (String × Source)} (body : r.HasMembers members)
    {message error : Option String} (first : MaySay IsText (under ["message"] members) message)
    (second : MaySay IsText (under ["error"] members) error) :
    ∃ problem, (client.answer transmit c state).1 = .error problem ∧
      ((∀ text ∈ message, Text.isBlank text = true → ∀ other ∈ error, Text.isBlank other = true) →
        ∀ fallback, problem.userMessage fallback =
          (firstText? [message, error]).getD fallback) ∧
      ∀ text ∈ message, Text.isBlank text = true →
        ∀ fallback, problem.userMessage fallback = fallback := by
  rw [answer_eq_reply client sent answered, reply_of_refused c refused,
    refusalMessage_eq body first second]
  refine ⟨_, rfl, fun shown fallback => ?_, ?_⟩
  · rw [userMessage_rejected, firstText?_or shown]
  · intro text there blank fallback
    obtain rfl := Option.mem_def.mp there
    exact if_pos blank

/-- A refusal that says why under the second name. -/
theorem refusals_are_told_error :
    let client : Client := ⟨"http://[::1]", none⟩
    let transmit (_ : Request) (state : Unit) : Option Response × Unit :=
      (some ⟨409, textsBody [("error", "Execution is not running")]⟩, state)
    ∃ problem, (client.answer transmit (.transition .pause "exec-1") ()).1 = .error problem ∧
      problem.userMessage "Failed to pause" = "Execution is not running" := by
  intro client transmit
  have sendable : (client.request? (.transition .pause "exec-1")).isSome = true := by
    decide +kernel
  rcases Option.isSome_iff_exists.mp sendable with ⟨request, sent⟩
  have answered : transmit request () =
      (some ⟨409, textsBody [("error", "Execution is not running")]⟩, ()) := rfl
  rcases refusals_are_told client transmit sent answered (by decide)
      (hasMembers_textsBody (by decide) _) .absent (.value (.value rfl))
    with ⟨problem, replied, told, _⟩
  refine ⟨problem, replied, (told ?_ "Failed to pause").trans (by decide)⟩
  intro text there
  cases there

/-- An empty message hides the text under the second name. -/
theorem not_refusals_are_told :
    ¬∀ (client : Client) (transmit : Request → Unit → Option Response × Unit) (c : Call)
      (request : Request) (r : Response) (members : List (String × Source))
      (message error : Option String) (fallback : String),
      client.request? c = some request → transmit request () = (some r, ()) →
      ¬(200 ≤ r.status ∧ r.status ≤ 299) → r.HasMembers members →
      MaySay IsText (under ["message"] members) message →
      MaySay IsText (under ["error"] members) error →
      ∃ problem, (client.answer transmit c ()).1 = .error problem ∧
        problem.userMessage fallback = (firstText? [message, error]).getD fallback := by
  intro claim
  let client : Client := ⟨"http://[::1]", none⟩
  let entries := [("message", ""), ("error", "Execution is not running")]
  let r : Response := ⟨409, textsBody entries⟩
  let transmit (_ : Request) (state : Unit) : Option Response × Unit := (some r, state)
  have sendable : (client.request? (.transition .pause "exec-1")).isSome = true := by
    decide +kernel
  rcases Option.isSome_iff_exists.mp sendable with ⟨request, sent⟩
  have body : r.HasMembers (entries.map fun e => (e.1, .value (.string e.2))) :=
    hasMembers_textsBody (by decide) entries
  have first : MaySay IsText (under ["message"] (entries.map fun e => (e.1, .value (.string e.2))))
      (some "") := .value (.value rfl)
  have second : MaySay IsText (under ["error"] (entries.map fun e => (e.1, .value (.string e.2))))
      (some "Execution is not running") := .value (.value rfl)
  rcases claim client transmit _ request r _ _ _ "Failed to pause" sent rfl (by decide) body first
    second with ⟨problem, replied, told⟩
  rw [answer_eq_reply client sent rfl, reply_of_refused _ (by decide),
    refusalMessage_eq body first second] at replied
  obtain rfl := Except.error.inj replied
  revert told
  decide

end Client

end Workflow.Http

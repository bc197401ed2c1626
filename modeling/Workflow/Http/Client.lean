import Workflow.Http.Reply
import Workflow.Http.Url

namespace Workflow.Http

/-!
# The client

A client sends each call once, under its base address and with its token.  Nothing is sent if the
address cannot be read or the token may not stand in a header.  How requests travel is left open:
any way of answering requests makes the client a server for sessions.
-/

/-- Where calls are sent, and with what token. -/
structure Client where
  baseUrl : String
  token : Option String

namespace Client

/-- The client of a base address; slashes at its end do not count. -/
def new (baseUrl : String) (token : Option String) : Client :=
  ⟨String.ofList (baseUrl.toList.reverse.dropWhile (· == '/')).reverse, token⟩

/-- Whether a text may stand in a header. -/
def isHeaderText (s : String) : Bool := s.toList.all fun c => c == '\t' || (' ' ≤ c && c ≠ '\x7f')

/-- The text of a header as it arrives, without blanks at its end. -/
def headerText (s : String) : String :=
  String.ofList (s.toList.reverse.dropWhile fun c => c == ' ' || c == '\t').reverse

/-- The authorization of a request: by the credentials in the address, or else by the token. -/
def authorization (client : Client) (url : Url) : Option String :=
  match url.credentials, client.token with
  | some bytes, _ => some ("Basic " ++ String.ofList (base64 bytes))
  | none, some token => some (headerText ("Bearer " ++ token))
  | none, none => none

/-- The request of a call, if it can be sent. -/
def request? (client : Client) (c : Call) : Option Request := do
  let address ← Url.parse? (client.baseUrl ++ path c)
  let url :=
    match pairs? c with
    | some pairs => address.addPairs pairs
    | none => address
  if client.token.all isHeaderText then
    return ⟨String.ofList url.host, url.service, method c, url.target, client.authorization url,
      body? c⟩
  else none

/-- Answers calls, given how requests are answered. -/
def answer {σ : Type} (client : Client) (transmit : Request → σ → Option Response × σ) :
    Session.Server σ := fun c state =>
  match client.request? c with
  | none => (.error .transport, state)
  | some request =>
    match transmit request state with
    | (some response, after) => (reply c response, after)
    | (none, after) => (.error .transport, after)

end Client

end Workflow.Http

import Workflow.Http.Message
import Workflow.Text.Radix

namespace Workflow.Http

/-!
# Messages as they travel

A request is a line, some fields and a body, and asks that the connection be closed after the
response.  The body of a response comes in chunks with their sizes before them, or has the length
that a field says, or goes on to the end.
-/

/-- The end of a line. -/
def lineEnd : String := "\r\n"

/-- A field of a message. -/
def field (name value : String) : String := name ++ ": " ++ value ++ lineEnd

/-- A request as it is sent. -/
def Request.toText (r : Request) : String :=
  let body := (r.body.map Json.compact).getD ""
  let host := if r.service = 80 then r.host else r.host ++ ":" ++ toString r.service
  let bodyFields :=
    if r.body.isSome then field "content-type" "application/json" else ""
  r.method.name ++ " " ++ r.target ++ " HTTP/1.1" ++ lineEnd ++
    field "host" host ++ field "accept" "*/*" ++ field "connection" "close" ++
    ((r.authorization.map (field "authorization")).getD "") ++ bodyFields ++
    field "content-length" (toString body.utf8ByteSize) ++ lineEnd ++ body

/-- The bytes of a line, and those after its end. -/
def takeLine : List UInt8 → Option (List UInt8 × List UInt8)
  | 0x0D :: 0x0A :: rest => some ([], rest)
  | byte :: rest => (takeLine rest).map fun (line, after) => (byte :: line, after)
  | [] => none

/-- The characters of ASCII bytes. -/
def asciiText (bytes : List UInt8) : List Char := bytes.map fun byte => Char.ofNat byte.toNat

/-- A text without the gaps at both ends. -/
def withoutGaps (cs : List Char) : List Char :=
  let isGap (c : Char) : Bool := c == ' ' || c == '\t'
  ((cs.dropWhile isGap).reverse.dropWhile isGap).reverse

/-- The name of a field in lower case, and its value. -/
def fieldOf (line : List UInt8) : String × String :=
  let cs := asciiText line
  let name := cs.takeWhile (· ≠ ':')
  (String.ofList (name.map Char.toLower),
    String.ofList (withoutGaps (cs.drop (name.length + 1))))

/-- The fields of a message up to an empty line, and what follows it; at most so many. -/
def takeFields : Nat → List UInt8 → Option (List (String × String) × List UInt8)
  | 0, _ => none
  | left + 1, bytes => do
    let (line, rest) ← takeLine bytes
    if line.isEmpty then return ([], rest)
    else
      let (others, after) ← takeFields left rest
      return (fieldOf line :: others, after)

/-- The bytes of chunks up to an empty one; at most so many. -/
def takeChunks : Nat → List UInt8 → Option (List UInt8)
  | 0, _ => none
  | left + 1, bytes => do
    let (line, rest) ← takeLine bytes
    let digits := (asciiText line).takeWhile fun c => (Text.hexValue? c).isSome
    if digits.isEmpty then none
    let size ← Text.numberIn? 16 digits
    if size = 0 then return []
    else if rest.length < size + 2 then none
    else return rest.take size ++ (← takeChunks left (rest.drop (size + 2)))

/-- The status that the first line of a response says. -/
def statusOf? (line : List UInt8) : Option Nat :=
  match (asciiText line).dropWhile (· ≠ ' ') with
  | ' ' :: a :: b :: c :: _ =>
    if [a, b, c].all Char.isDigit then Text.numberIn? 10 [a, b, c] else none
  | _ => none

/-- The response that some bytes are, if they are a whole one. -/
def Response.ofBytes? (bytes : List UInt8) : Option Response := do
  let (line, rest) ← takeLine bytes
  let status ← statusOf? line
  let (fields, rest) ← takeFields (rest.length + 1) rest
  let coding := ((fields.lookup "transfer-encoding").getD "").map Char.toLower
  if coding == "chunked" then
    return ⟨status, ⟨← takeChunks (rest.length + 1) rest⟩⟩
  else
    match fields.lookup "content-length" with
    | none => return ⟨status, ⟨rest⟩⟩
    | some value =>
      if value.isEmpty || !value.all Char.isDigit then none
      let length ← Text.numberIn? 10 value.toList
      if rest.length < length then none
      else return ⟨status, ⟨rest.take length⟩⟩

end Workflow.Http

import Workflow.Json.Source
import Workflow.Json.Token
import Workflow.Text.Encoding

namespace Workflow.Json

/-!
# Reading JSON texts

The tokens of a text drive a machine with a stack of the containers that are open.  A token that the
grammar does not allow ends the reading, and so does the end of the text: the containers still open
are then closed as incomplete.
-/

/-- The deepest nesting that has a value. -/
def deepest : Nat := 127

/-- A container that is open, with its contents in reverse. -/
inductive Frame where
  | array (items : List Source)
  | object (members : List (Option String × Source))
  /-- An object after a key, before the value of the key. -/
  | member (members : List (Option String × Source)) (key : Option String)

/-- What the grammar allows next. -/
inductive Expected where
  | value
  | valueOrEnd
  | keyOrEnd
  | key
  | colon
  | commaOrEnd
  deriving DecidableEq

/-- How far the reading of a text has come. -/
inductive Progress where
  | reading (frames : List Frame) (expected : Expected)
  | finished (root : Source)
  | stopped (document : Document)

/-- A container at a depth; one that is too deep has no value. -/
def closed (depth : Nat) (complete : Bool) (container : Source) : Source :=
  if depth ≤ deepest then container else if complete then .valueless else .broken

/-- A container whose end is missing. -/
def Frame.cut (depth : Nat) : Frame → Source
  | .array items => closed depth false (.array items.reverse false)
  | .object members => closed depth false (.object members.reverse false)
  | .member members key => closed depth false (.object ((key, .broken) :: members).reverse false)

/-- Puts a value into the container that is open. -/
def Frame.put (v : Source) : Frame → Frame
  | .array items => .array (v :: items)
  | .object members => .object members
  | .member members key => .object ((key, v) :: members)

/-- Closes all containers as incomplete. -/
def cutAll : List Frame → Source → Source
  | [], inner => inner
  | frame :: outer, inner => cutAll outer ((frame.put inner).cut (outer.length + 1))

/-- The document of a text that ends or leaves the grammar here. -/
def stop : List Frame → Progress
  | [] => .stopped ⟨.broken, false⟩
  | frame :: outer => .stopped ⟨cutAll outer (frame.cut (outer.length + 1)), false⟩

/-- Goes on after a complete value. -/
def complete (v : Source) : List Frame → Progress
  | [] => .finished v
  | frame :: outer => .reading (frame.put v :: outer) .commaOrEnd

/-- Takes one more token. -/
def advance (progress : Progress) (token : Token) : Progress :=
  match progress with
  | .stopped document => .stopped document
  | .finished root => .stopped ⟨root, true⟩
  | .reading frames expected =>
    match expected, token, frames with
    | .value, .scalar v, _ => complete (.value v) frames
    | .valueOrEnd, .scalar v, _ => complete (.value v) frames
    | .value, .text (some s), _ => complete (.value (.string s)) frames
    | .valueOrEnd, .text (some s), _ => complete (.value (.string s)) frames
    | .value, .text none, _ => complete .valueless frames
    | .valueOrEnd, .text none, _ => complete .valueless frames
    | .value, .numberBeyondRange, _ => complete .valueless frames
    | .valueOrEnd, .numberBeyondRange, _ => complete .valueless frames
    | .value, .openArray, _ => .reading (.array [] :: frames) .valueOrEnd
    | .valueOrEnd, .openArray, _ => .reading (.array [] :: frames) .valueOrEnd
    | .value, .openObject, _ => .reading (.object [] :: frames) .keyOrEnd
    | .valueOrEnd, .openObject, _ => .reading (.object [] :: frames) .keyOrEnd
    | .valueOrEnd, .closeArray, .array items :: outer =>
      complete (closed (outer.length + 1) true (.array items.reverse true)) outer
    | .commaOrEnd, .closeArray, .array items :: outer =>
      complete (closed (outer.length + 1) true (.array items.reverse true)) outer
    | .keyOrEnd, .closeObject, .object members :: outer =>
      complete (closed (outer.length + 1) true (.object members.reverse true)) outer
    | .commaOrEnd, .closeObject, .object members :: outer =>
      complete (closed (outer.length + 1) true (.object members.reverse true)) outer
    | .keyOrEnd, .text key, .object members :: outer =>
      .reading (.member members key :: outer) .colon
    | .key, .text key, .object members :: outer => .reading (.member members key :: outer) .colon
    | .colon, .colon, _ => .reading frames .value
    | .commaOrEnd, .comma, .array _ :: _ => .reading frames .value
    | .commaOrEnd, .comma, .object _ :: _ => .reading frames .key
    | _, _, _ => stop frames

/-- The document when no token is left. -/
def Progress.document : Progress → Document
  | .stopped document => document
  | .finished root => ⟨root, false⟩
  | .reading frames _ =>
    match stop frames with
    | .stopped document => document
    | _ => ⟨.broken, false⟩

/-- What a text says, as far as it can be read. -/
def read (text : String) : Document :=
  ((tokens text.toList).foldl advance (.reading [] .value)).document

/-- A failure in the bytes of a text, as a text.  It is half of a surrogate pair: the string that it
stands in has no value, but can be passed over.  With the question mark before it, it belongs to no
escape, and outside of strings it leaves the grammar. -/
def failure : List Char := ['?', '\\', 'u', 'd', 'c', '0', '0']

/-- The text as which some bytes are read. -/
def textOfBytes (bytes : List UInt8) : String :=
  String.ofList ((Text.characters bytes).flatMap fun c => c.elim failure fun c => [c])

/-- The bytes of a text are read as the text. -/
theorem textOfBytes_toBytes (s : String) : textOfBytes (Text.toBytes s) = s := by
  rw [textOfBytes, Text.characters_toBytes, List.flatMap_map]
  change String.ofList (s.toList.flatMap fun c => [c]) = s
  rw [List.flatMap_singleton', String.ofList_toList]

/-- The value of a text, if it is one. -/
def parse? (text : String) : Option Json :=
  let document := read text
  if document.trailing then none else document.root.toJson?

end Workflow.Json

import Workflow.Toml.Parser

namespace Workflow

/-!
# Settings

Where the backend is, the token to show it, and how often executions are polled.  Settings come from
a TOML document; what it leaves out has a default, and variables of the environment come before
both.  Settings that are there but cannot be read are an error, never the default.
-/

/-- What a path leads to. -/
inductive File where
  | missing
  | unreadable
  | text (content : String)

/-- The file with these bytes; only UTF-8 can be read. -/
def File.ofBytes (bytes : ByteArray) : File :=
  match String.fromUTF8? bytes with
  | some content => .text content
  | none => .unreadable

/-- The settings of a client. -/
structure Settings where
  baseUrl : String := "http://localhost:3000/api"
  token : Option String := none
  /-- Milliseconds between two polls. -/
  interval : Nat := 2000
  deriving DecidableEq

/-- Why there are no settings. -/
inductive SettingsError where
  | unreadable
  | malformed
  deriving DecidableEq

namespace Settings

/-- The values of some keys of a group.  A group may also be an array of the values in their order;
items after them do not count. -/
def groupOf? (keys : List String) : Toml → Option (List (Option Toml))
  | .table _ entries => some (keys.map fun key => entries.lookup key)
  | .array items => some (keys.mapIdx fun position _ => items[position]?)
  | .moment _ => some (keys.map fun _ => none)
  | _ => none

/-- The values of some keys of a group that may be left out. -/
def group? (root : Toml.Entries) (name : String) (keys : List String) :
    Option (List (Option Toml)) :=
  match root.lookup name with
  | none => some (keys.map fun _ => none)
  | some v => groupOf? keys v

/-- A setting that may be left out; one that is there must be of its type. -/
def optional {α : Type} (read : Toml → Option α) : Option Toml → Option (Option α)
  | none => some none
  | some v => (read v).map some

/-- A text. -/
def text? : Toml → Option String
  | .string s => some s
  | _ => none

/-- A count. -/
def count? : Toml → Option Nat
  | .integer i => if 0 ≤ i then some i.toNat else none
  | _ => none

/-- The settings in a document. -/
def ofEntries? (root : Toml.Entries) : Option Settings := do
  let api ← group? root "api" ["base_url", "token"]
  let poll ← group? root "poll" ["interval_ms"]
  let baseUrl ← optional text? (api[0]?.join)
  let token ← optional text? (api[1]?.join)
  let interval ← optional count? (poll[0]?.join)
  let defaults : Settings := {}
  return ⟨baseUrl.getD defaults.baseUrl, token, interval.getD defaults.interval⟩

/-- The settings in a text. -/
def ofText (text : String) : Except SettingsError Settings :=
  match (Toml.parse? text).bind ofEntries? with
  | some settings => .ok settings
  | none => .error .malformed

/-- The number of 64 bits that a variable holds, with an optional plus sign. -/
def number? (text : String) : Option Nat :=
  let digits :=
    match text.toList with
    | '+' :: rest => rest
    | cs => cs
  if digits.isEmpty || !digits.all Char.isDigit then none
  else (Text.numberIn? 10 digits).bind fun n => if n < Nat.pow 2 64 then some n else none

/-- The settings with what the environment says in place of what was read.  An empty token is none,
and a poll interval that is no number does not count. -/
def override (environment : String → Option String) (s : Settings) : Settings :=
  ⟨(environment "WIREFLOW_API_URL").getD s.baseUrl,
    match environment "WIREFLOW_API_TOKEN" with
    | some token => if token.isEmpty then none else some token
    | none => s.token,
    ((environment "WIREFLOW_POLL_INTERVAL_MS").bind number?).getD s.interval⟩

/-- The settings in a file and the environment. -/
def ofFile (environment : String → Option String) : File → Except SettingsError Settings
  | .text content => (ofText content).map (override environment)
  | _ => .error .unreadable

/-- The settings in a file, which need not be there, and the environment. -/
def ofOptionalFile (environment : String → Option String) : File → Except SettingsError Settings
  | .missing => .ok (override environment {})
  | file => ofFile environment file

end Settings

end Workflow

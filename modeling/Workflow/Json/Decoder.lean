import Workflow.Json.Parser
import Workflow.Json.Printer

namespace Workflow

/-!
# Decoding

A decoder turns a source into a value of a type, or reports the first problem it meets.  A group of
named fields visits the members in their order and drops those it does not know.  A field may occur
once only, under its own name or another one; fields that are missing are reported after all
members, in the order of declaration.  A group may also be written as an array of its fields in that
order, where fields at the end that have a default may be left out.
-/

/-- Why a source is not decoded. -/
inductive DecodeError where
  | missingField (name : String)
  | duplicateField (name : String)
  | invalidType
  | invalidValue
  | invalidLength
  | unknownVariant
  | unknownNodeKind (name : String)
  | notAnId (found : Json)
  | malformed

/-- The text of a problem. -/
def DecodeError.message : DecodeError → String
  | .missingField name => "missing field `" ++ name ++ "`"
  | .duplicateField name => "duplicate field `" ++ name ++ "`"
  | .invalidType => "invalid type"
  | .invalidValue => "invalid value"
  | .invalidLength => "invalid length"
  | .unknownVariant => "unknown variant"
  | .unknownNodeKind name =>
    "Unknown node type '" ++ name ++ "', expected trigger, condition or action"
  | .notAnId found => "expected a string or numeric id, found " ++ found.compact
  | .malformed => "malformed"

/-- Where a source comes from.  A text is read up to the first problem, so that what a decoder does
not expect at the end of a container is a problem of the grammar; in memory it is one of length. -/
inductive Medium where
  | text
  | memory
  deriving DecidableEq

/-- The value of a source, or the first problem. -/
abbrev Decoder (α : Type) := Medium → Source → Except DecodeError α

namespace Decoder

variable {α β σ : Type}

/-- The problem of a source of the wrong kind: that it cannot be read comes first. -/
def wrongKind : Source → DecodeError
  | .valueless => .malformed
  | .broken => .malformed
  | _ => .invalidType

/-- Any value. -/
def any : Decoder Json := fun _ source =>
  match source.toJson? with
  | some v => .ok v
  | none => .error .malformed

/-- A string. -/
def string : Decoder String := fun _ source =>
  match source with
  | .value (.string s) => .ok s
  | _ => .error (wrongKind source)

/-- A truth value. -/
def bool : Decoder Bool := fun _ source =>
  match source with
  | .value (.bool b) => .ok b
  | _ => .error (wrongKind source)

/-- An integer within bounds, the lower one included and the upper one not. -/
def integer (low high : Int) : Decoder Int := fun _ source =>
  match source with
  | .value (.number (.integer i)) => if low ≤ i ∧ i < high then .ok i else .error .invalidValue
  | _ => .error (wrongKind source)

/-- A number of any kind, as the double nearest to it. -/
def double : Decoder Double := fun _ source =>
  match source with
  | .value (.number n) => .ok n.toDouble
  | _ => .error (wrongKind source)

/-- The members of an object as data: the last value of a repeated key counts. -/
def object : Decoder Object := fun _ source =>
  match source.members? with
  | none => .error (wrongKind source)
  | some _ =>
    match source.toJson? with
    | some (.object members) => .ok (Dictionary.ofList members)
    | _ => .error .malformed

/-- A value, or none if it is `null`. -/
def nullable (decode : Decoder α) : Decoder (Option α) := fun medium source =>
  match source with
  | .value .null => .ok none
  | _ => (decode medium source).map some

/-- The items of an array, in their order. -/
def list (decode : Decoder α) : Decoder (List α) := fun medium source =>
  match source.items? with
  | none => .error (wrongKind source)
  | some (items, complete) => do
    let values ← items.mapM (decode medium)
    if complete then return values else throw .malformed

/-- A decoded value turned into another type. -/
def andThen (decode : Decoder α) (convert : α → Except DecodeError β) : Decoder β :=
  fun medium source => (decode medium source).bind convert

/-- `null` counts as the empty text. -/
def nullableString : Decoder String := fun medium source =>
  (nullable string medium source).map (·.getD "")

/-- An id, written as a string or as a number, which then counts as its text. -/
def id : Decoder String := fun medium source => do
  match ← any medium source with
  | .string s => return s
  | .number n => return Json.numberText n
  | other => throw (.notAnId other)

/-- One of some named values: its name, or an object with `null` under its name. -/
def variant (named : String → Option α) : Decoder α := fun medium source =>
  match source with
  | .value (.string s) =>
    match named s with
    | some a => .ok a
    | none => .error .unknownVariant
  | _ =>
    match source.members? with
    | none => .error (if medium = .text then .malformed else wrongKind source)
    | some (members, complete) =>
      let unfit : DecodeError := if medium = .text then .malformed else .invalidValue
      let extra := !complete || 1 < members.length
      match members with
      | [] => .error unfit
      | (none, _) :: _ => .error .malformed
      | (some name, content) :: _ =>
        if extra && medium = .memory then .error unfit
        else
          match named name with
          | none => .error .unknownVariant
          | some a =>
            match content with
            | .value .null => if extra then .error .malformed else .ok a
            | _ => .error (wrongKind content)

/-- Takes a field that has not occurred yet. -/
def once (name : String) (slot : Option α) (value : Except DecodeError α) :
    Except DecodeError (Option α) :=
  match slot with
  | some _ => .error (.duplicateField name)
  | none => value.map some

/-- Passes over a member that no field asks for. -/
def skip (state : σ) (source : Source) : Except DecodeError σ :=
  if source.grammatical then .ok state else .error .malformed

/-- A field that has no default. -/
def required (absent : String → DecodeError) (name : String) (slot : Option α) :
    Except DecodeError α :=
  match slot with
  | some a => .ok a
  | none => .error (absent name)

/-- How a group of named fields is decoded: the names in order of declaration, the state before any
field, what a member does to it, and the value at the end, given how a missing field is reported. -/
structure Group (σ α : Type) where
  names : List String
  start : σ
  visit : Medium → σ → String → Source → Except DecodeError σ
  finish : (String → DecodeError) → σ → Except DecodeError α

/-- One member of an object. -/
def visitMember (g : Group σ α) (medium : Medium) (state : σ) (entry : Option String × Source) :
    Except DecodeError σ :=
  match entry.1 with
  | some key => g.visit medium state key entry.2
  | none => .error .malformed

/-- One item of an array that stands for a group. -/
def visitItem (g : Group σ α) (medium : Medium) (state : σ) (entry : String × Source) :
    Except DecodeError σ :=
  g.visit medium state entry.1 entry.2

/-- A group written as an object. -/
def members (g : Group σ α) : Decoder α := fun medium source =>
  match source.members? with
  | none => .error (wrongKind source)
  | some (members, complete) => do
    let state ← members.foldlM (visitMember g medium) g.start
    if complete then g.finish .missingField state else throw .malformed

/-- A group written as an object, or as an array of its fields. -/
def group (g : Group σ α) : Decoder α := fun medium source =>
  match source.items? with
  | none => members g medium source
  | some (items, complete) => do
    let state ← (g.names.zip items).foldlM (visitItem g medium) g.start
    if !complete then throw .malformed
    let value ← g.finish (fun _ => .invalidLength) state
    if g.names.length < items.length then
      throw (if medium = .text then .malformed else .invalidLength)
    return value

/-- Decodes a value in memory. -/
def ofJson (decode : Decoder α) (v : Json) : Except DecodeError α := decode .memory (.value v)

/-- Decodes a text; what follows the value is looked at last. -/
def ofText (decode : Decoder α) (text : String) : Except DecodeError α := do
  let document := Json.read text
  let value ← decode .text document.root
  if document.trailing then throw .malformed else return value

/-- Decodes the bytes of a text. -/
def ofBytes (decode : Decoder α) (bytes : List UInt8) : Except DecodeError α :=
  decode.ofText (Json.textOfBytes bytes)

end Decoder

end Workflow

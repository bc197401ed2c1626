import Workflow.Json.Basic

namespace Workflow

/-!
# What a decoder reads

A decoder reads either a value in memory or a text, and of two problems in a text the earlier one
is reported, be it in the grammar or in what the text says.  So a text is first turned into a
`Source`: its values in the order of the text, repeated members included, as far as the grammar
holds.  Where the text breaks off, the containers that are still open are incomplete.

Some parts of a text have no value although the grammar holds: a number beyond all doubles, a string
with half of a surrogate pair, and everything nested more than 127 deep.  These are problems only
for a decoder that looks at them; a member that nobody asks for is checked for its grammar alone.
-/

/-- A value in memory, or a text as far as it can be read. -/
inductive Source where
  /-- A value in memory, or a scalar of a text. -/
  | value (v : Json)
  /-- An array of a text, and whether its end was read. -/
  | array (items : List Source) (complete : Bool)
  /-- An object of a text, its keys none when they have no value, and whether its end was read. -/
  | object (members : List (Option String × Source)) (complete : Bool)
  /-- A part of a text that keeps to the grammar but has no value. -/
  | valueless
  /-- The place where a text breaks off or leaves the grammar. -/
  | broken
  deriving Inhabited

/-- A text as a whole: what it says, and whether anything but blanks follows. -/
structure Document where
  root : Source
  trailing : Bool

namespace Source

/-- The items of an array, and whether its end was read. -/
def items? : Source → Option (List Source × Bool)
  | .value (.array items) => some (items.map .value, true)
  | .array items complete => some (items, complete)
  | _ => none

/-- The members of an object, and whether its end was read. -/
def members? : Source → Option (List (Option String × Source) × Bool)
  | .value (.object members) => some (members.map fun m => (some m.1, .value m.2), true)
  | .object members complete => some (members, complete)
  | _ => none

mutual

/-- The grammar holds throughout. -/
def grammatical : Source → Bool
  | .value _ => true
  | .array items complete => itemsGrammatical items && complete
  | .object members complete => membersGrammatical members && complete
  | .valueless => true
  | .broken => false

/-- The grammar holds throughout the items. -/
def itemsGrammatical : List Source → Bool
  | [] => true
  | item :: rest => grammatical item && itemsGrammatical rest

/-- The grammar holds throughout the members. -/
def membersGrammatical : List (Option String × Source) → Bool
  | [] => true
  | (_, inner) :: rest => grammatical inner && membersGrammatical rest

end

mutual

/-- The value that a source says, if all of it can be read; a repeated key keeps its last value. -/
def toJson? : Source → Option Json
  | .value v => some v
  | .array items complete =>
    if complete then (itemsToJson? items).map .array else none
  | .object members complete =>
    if complete then (membersToJson? members).map fun ms => .ofObject (Dictionary.ofList ms)
    else none
  | .valueless => none
  | .broken => none

/-- The values of the items. -/
def itemsToJson? : List Source → Option (List Json)
  | [] => some []
  | item :: rest =>
    match toJson? item, itemsToJson? rest with
    | some v, some vs => some (v :: vs)
    | _, _ => none

/-- The values of the members. -/
def membersToJson? : List (Option String × Source) → Option (List (String × Json))
  | [] => some []
  | (key, inner) :: rest =>
    match key, toJson? inner, membersToJson? rest with
    | some k, some v, some ms => some ((k, v) :: ms)
    | _, _, _ => none

end

end Source

end Workflow

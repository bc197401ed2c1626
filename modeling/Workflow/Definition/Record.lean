import Workflow.Definition.Codec

namespace Workflow

/-!
# What the backend stores and is sent

A record is a definition with an id and, if it was made in the editor, the graph that it was
compiled from.  Saving sends a definition with its graph beside it; importing sends the data of an
uploaded file, and a template is never imported as active.
-/

open Decoder

/-- A stored workflow. -/
structure Record where
  id : String
  isActive : Bool
  definition : Definition
  nodes : Option (List LooseNode)
  edges : Option (List Edge)

/-- The graph that is stored with the definition; none if there are no nodes. -/
def Record.storedGraph (r : Record) : Option (Except GraphError Graph) :=
  match r.nodes with
  | none => none
  | some [] => none
  | some nodes => some (LooseGraph.toGraph ⟨nodes, r.edges.getD []⟩)

/-- What is sent to save a workflow. -/
structure SaveRequest where
  definition : Definition
  graph : Graph

/-- What the backend answers to saving. -/
structure Saved where
  id : String
  version : Option Int
  deriving DecidableEq

/-- What is sent to import a workflow. -/
structure ImportRequest where
  workflowData : Json
  asTemplate : Bool

/-- The request for some data; that of a template is made inactive. -/
def ImportRequest.of (data : Json) (asTemplate : Bool) : ImportRequest :=
  ⟨if asTemplate then data.setMember "isActive" (.bool false) else data, asTemplate⟩

/-! ## Decoding -/

/-- The fields of a record read so far; `rest` holds the members that are not its own. -/
structure RecordFields where
  id : Option String := none
  isActive : Option Bool := none
  nodes : Option (Option (List LooseNode)) := none
  edges : Option (Option (List Edge)) := none
  rest : List (Option String × Source) := []

/-- How a record is read.  Its own fields are read first; the other members must be readable, and
the definition is then read from them as from values in memory. -/
def Record.fieldGroup : Group RecordFields Record where
  names := []
  start := {}
  visit := fun medium fields key source =>
    if key = "id" then
      (once "id" fields.id (Decoder.id medium source)).map ({ fields with id := · })
    else if key = "isActive" then
      (once "isActive" fields.isActive (bool medium source)).map ({ fields with isActive := · })
    else if key = "nodes" then
      (once "nodes" fields.nodes (nullable (list LooseNode.decoder) medium source)).map
        ({ fields with nodes := · })
    else if key = "edges" then
      (once "edges" fields.edges (nullable (list Edge.decoder) medium source)).map
        ({ fields with edges := · })
    else
      (any medium source).map fun _ => { fields with rest := fields.rest ++ [(some key, source)] }
  finish := fun absent fields => do
    let id ← required absent "id" fields.id
    let definition ← members Definition.fieldGroup .memory (.object fields.rest true)
    return ⟨id, fields.isActive.getD false, definition, fields.nodes.getD none,
      fields.edges.getD none⟩

/-- A record is always written as an object. -/
def Record.decoder : Decoder Record := members Record.fieldGroup

/-- The fields of an answer to saving read so far. -/
structure SavedFields where
  id : Option String := none
  version : Option (Option Int) := none

/-- How the fields of an answer to saving are read: it needs an id. -/
def Saved.fieldGroup : Group SavedFields Saved where
  names := ["id", "version"]
  start := {}
  visit := fun medium fields key source =>
    if key = "id" then
      (once "id" fields.id (Decoder.id medium source)).map ({ fields with id := · })
    else if key = "version" then
      (once "version" fields.version (versionDecoder medium source)).map
        ({ fields with version := · })
    else skip fields source
  finish := fun absent fields => do
    return ⟨← required absent "id" fields.id, fields.version.getD none⟩

/-- An answer to saving. -/
def Saved.decoder : Decoder Saved := group Saved.fieldGroup

/-! ## Encoding -/

/-- A record; lists that are missing are left out. -/
def Record.toJson (r : Record) : Json :=
  .object ([("id", .string r.id), ("isActive", .bool r.isActive)] ++ r.definition.members ++
    optionalMember "nodes" (fun nodes => .array (nodes.map LooseNode.toJson)) r.nodes ++
    optionalMember "edges" (fun edges => .array (edges.map Edge.toJson)) r.edges)

/-- The members of a save request: those of the definition, and then those of the graph. -/
def SaveRequest.members (r : SaveRequest) : List (String × Json) :=
  r.definition.members ++ r.graph.members

/-- A save request. -/
def SaveRequest.toJson (r : SaveRequest) : Json := .object r.members

/-- A save request as data. -/
def SaveRequest.body (r : SaveRequest) : Object := Dictionary.ofList r.members

/-- An import request. -/
def ImportRequest.toJson (r : ImportRequest) : Json :=
  .object [("workflowData", r.workflowData), ("asTemplate", .bool r.asTemplate)]

end Workflow

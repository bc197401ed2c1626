import Workflow.Definition.Basic
import Workflow.Graph.Codec

namespace Workflow

/-!
# Definitions as JSON

The name and the trigger type are needed; a description may be `null`, and everything else may be
missing.  The version is read but never written.
-/

open Decoder

/-- A version number, if there is one. -/
def versionDecoder : Decoder (Option Int) := nullable (integer (-Int.pow 2 63) (Int.pow 2 63))

/-- The fields of an action read so far. -/
structure ActionStepFields where
  type : Option String := none
  config : Option Object := none
  description : Option String := none

/-- An action needs a type. -/
def ActionStep.decoder : Decoder ActionStep := group {
  names := ["type", "config", "description"]
  start := ({} : ActionStepFields)
  visit := fun medium fields key source =>
    if key = "type" then
      (once "type" fields.type (string medium source)).map ({ fields with type := · })
    else if key = "config" then
      (once "config" fields.config (object medium source)).map ({ fields with config := · })
    else if key = "description" then
      (once "description" fields.description (nullableString medium source)).map
        ({ fields with description := · })
    else skip fields source
  finish := fun absent fields => do
    return ⟨← required absent "type" fields.type, fields.config.getD .empty,
      fields.description.getD ""⟩ }

/-- The fields of a definition read so far. -/
structure DefinitionFields where
  name : Option String := none
  description : Option String := none
  triggerType : Option String := none
  triggerConfig : Option Object := none
  conditions : Option Object := none
  actions : Option (List ActionStep) := none
  version : Option (Option Int) := none

/-- How the fields of a definition are read. -/
def Definition.fieldGroup : Group DefinitionFields Definition where
  names := ["name", "description", "triggerType", "triggerConfig", "conditions", "actions",
    "version"]
  start := {}
  visit := fun medium fields key source =>
    if key = "name" then
      (once "name" fields.name (string medium source)).map ({ fields with name := · })
    else if key = "description" then
      (once "description" fields.description (nullableString medium source)).map
        ({ fields with description := · })
    else if key = "triggerType" then
      (once "triggerType" fields.triggerType (string medium source)).map
        ({ fields with triggerType := · })
    else if key = "triggerConfig" then
      (once "triggerConfig" fields.triggerConfig (object medium source)).map
        ({ fields with triggerConfig := · })
    else if key = "conditions" then
      (once "conditions" fields.conditions (object medium source)).map
        ({ fields with conditions := · })
    else if key = "actions" then
      (once "actions" fields.actions (list ActionStep.decoder medium source)).map
        ({ fields with actions := · })
    else if key = "version" then
      (once "version" fields.version (versionDecoder medium source)).map
        ({ fields with version := · })
    else skip fields source
  finish := fun absent fields => do
    return ⟨← required absent "name" fields.name, fields.description.getD "",
      ← required absent "triggerType" fields.triggerType, fields.triggerConfig.getD .empty,
      fields.conditions.getD .empty, fields.actions.getD [], fields.version.getD none⟩

/-- A definition. -/
def Definition.decoder : Decoder Definition := group Definition.fieldGroup

/-- An action. -/
def ActionStep.toJson (a : ActionStep) : Json :=
  .object [("type", .string a.type), ("config", .ofObject a.config),
    ("description", .string a.description)]

/-- The members of a definition's object. -/
def Definition.members (d : Definition) : List (String × Json) :=
  [("name", .string d.name), ("description", .string d.description),
    ("triggerType", .string d.triggerType), ("triggerConfig", .ofObject d.triggerConfig),
    ("conditions", .ofObject d.conditions), ("actions", .array (d.actions.map ActionStep.toJson))]

/-- A definition, without its version. -/
def Definition.toJson (d : Definition) : Json := .object d.members

end Workflow

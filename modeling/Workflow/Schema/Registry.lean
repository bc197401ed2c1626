import Workflow.Dictionary
import Workflow.Schema.Basic

namespace Workflow

/-!
# Known schemas

A registry keeps the schemas of triggers and those of actions apart, each under its type name; a
schema that is registered later replaces an earlier one.  Conditions have no schemas.  A type that
is not known has no issues, since the server may define types of its own.
-/

/-- The schemas of triggers and of actions by type name. -/
structure Registry where
  triggers : Dictionary NodeSchema
  actions : Dictionary NodeSchema

namespace Registry

/-- The registry with no schema. -/
def empty : Registry := ⟨.empty, .empty⟩

/-- Adds a schema, in place of one of the same kind and name. -/
def register (r : Registry) (s : NodeSchema) : Registry :=
  match s.kind with
  | .trigger => { r with triggers := r.triggers.insert s.typeName s }
  | .action => { r with actions := r.actions.insert s.typeName s }
  | .condition => r

/-- Adds schemas one after the other. -/
def registerAll (r : Registry) (schemas : List NodeSchema) : Registry := schemas.foldl register r

/-- The schemas of a kind by type name. -/
def ofKind (r : Registry) : NodeKind → Dictionary NodeSchema
  | .trigger => r.triggers
  | .action => r.actions
  | .condition => .empty

/-- The schema of a type. -/
def get? (r : Registry) (kind : NodeKind) (typeName : String) : Option NodeSchema :=
  (r.ofKind kind).get? typeName

/-- All schemas of a kind, by ascending type name. -/
def schemas (r : Registry) (kind : NodeKind) : List NodeSchema := (r.ofKind kind).values

/-- What is wrong with the config of a type; nothing, if the type is not known. -/
def checkConfig (r : Registry) (kind : NodeKind) (typeName : String) (config : Object) :
    List ConfigIssue :=
  match r.get? kind typeName with
  | some s => s.check config
  | none => []

end Registry

end Workflow

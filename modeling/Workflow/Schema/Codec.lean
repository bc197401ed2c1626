import Workflow.Schema.Basic

namespace Workflow

/-!
# Schemas as JSON
-/

/-- A field type, its parameter beside its kind. -/
def FieldType.toJson : FieldType → Json
  | .text => .object [("kind", .string "string")]
  | .number => .object [("kind", .string "number")]
  | .choice options =>
    .object [("kind", .string "enum"), ("options", .array (options.map .string))]
  | .reference entity => .object [("kind", .string "referenceId"), ("entity", .string entity)]

/-- A field; the excuse is left out when there is none. -/
def FieldSpec.toJson (f : FieldSpec) : Json :=
  .object ([("key", .string f.key), ("label", .string f.label),
    ("fieldType", f.fieldType.toJson), ("required", .bool f.required)] ++
      match f.excuse with
      | some other => [("unless", .string other)]
      | none => [])

/-- A schema. -/
def NodeSchema.toJson (s : NodeSchema) : Json :=
  .object [("typeName", .string s.typeName), ("kind", .string s.kind.name),
    ("label", .string s.label), ("fields", .array (s.fields.map FieldSpec.toJson))]

end Workflow

import Workflow.Graph.Node
import Workflow.Text.Numeral

namespace Workflow

/-!
# What a type of node must be configured with

A schema lists the fields of the config of one trigger or action type.  A field is filled in when
its value is neither `null` nor a blank text.  A field that must be filled in can be excused by
another one that is.  Checking gives at most one issue for each field, in the order of the fields.
-/

/-- What the value of a field must be. -/
inductive FieldType where
  | text
  | number
  | choice (options : List String)
  /-- The id of another record, such as a user or a tag. -/
  | reference (entity : String)
  deriving DecidableEq

namespace FieldType

/-- How messages describe the values that are expected. -/
def description : FieldType → String
  | .text => "text"
  | .number => "a number"
  | .choice _ => "one of the listed options"
  | .reference _ => "a record reference"

/-- The value has the right kind; a choice need not be one of the options. -/
def accepts : FieldType → Json → Bool
  | .text, .string _ => true
  | .number, .number _ => true
  | .number, .string s => Text.isNumeral (Text.trim s)
  | .choice _, .string _ => true
  | .reference _, .string _ => true
  | .reference _, .number (.integer _) => true
  | _, _ => false

end FieldType

/-- One field of a config. -/
structure FieldSpec where
  key : String
  label : String
  fieldType : FieldType
  required : Bool
  /-- The key of a field that excuses this one when it is filled in. -/
  excuse : Option String
  deriving DecidableEq

/-- The fields of the config of one type of node. -/
structure NodeSchema where
  typeName : String
  kind : NodeKind
  label : String
  fields : List FieldSpec
  deriving DecidableEq

/-- One problem with a config. -/
inductive ConfigIssue where
  | missing (field : String)
  | wrongType (field : String) (expected : String)
  | notAnOption (field : String) (value : String)
  deriving DecidableEq

/-- The text of an issue. -/
def ConfigIssue.message : ConfigIssue → String
  | .missing field => "'" ++ field ++ "' is required"
  | .wrongType field expected => "'" ++ field ++ "' must be " ++ expected
  | .notAnOption field value => "'" ++ value ++ "' is not a valid option for '" ++ field ++ "'"

/-- A value that counts as not filled in. -/
def Json.isBlank : Json → Bool
  | .null => true
  | .string s => Text.isBlank s
  | _ => false

/-- The value of a field that is filled in. -/
def filled? (config : Object) (key : String) : Option Json :=
  (config.get? key).filter fun v => !v.isBlank

namespace FieldSpec

/-- The field must be filled in, given the rest of the config. -/
def isRequired (f : FieldSpec) (config : Object) : Bool :=
  f.required &&
    match f.excuse with
    | none => true
    | some other => (filled? config other).isNone

/-- What is wrong with a value that is filled in. -/
def valueIssue? (f : FieldSpec) (v : Json) : Option ConfigIssue :=
  if f.fieldType.accepts v then
    match f.fieldType, v with
    | .choice options, .string s =>
      if s ∈ options then none else some (.notAnOption f.label s)
    | _, _ => none
  else some (.wrongType f.label f.fieldType.description)

/-- What is wrong with the field in a config. -/
def issue? (f : FieldSpec) (config : Object) : Option ConfigIssue :=
  match filled? config f.key with
  | some v => f.valueIssue? v
  | none => if f.isRequired config then some (.missing f.label) else none

end FieldSpec

namespace NodeSchema

/-- What is wrong with a config. -/
def check (s : NodeSchema) (config : Object) : List ConfigIssue :=
  s.fields.filterMap (·.issue? config)

/-- A schema without fields. -/
def trigger (typeName label : String) : NodeSchema := ⟨typeName, .trigger, label, []⟩

/-- A schema without fields. -/
def action (typeName label : String) : NodeSchema := ⟨typeName, .action, label, []⟩

/-- Adds a field. -/
def addField (s : NodeSchema) (f : FieldSpec) : NodeSchema := { s with fields := s.fields ++ [f] }

/-- Adds a field that must be filled in. -/
def required (s : NodeSchema) (key label : String) (fieldType : FieldType) : NodeSchema :=
  s.addField ⟨key, label, fieldType, true, none⟩

/-- Adds a field that may be left empty. -/
def optional (s : NodeSchema) (key label : String) (fieldType : FieldType) : NodeSchema :=
  s.addField ⟨key, label, fieldType, false, none⟩

/-- Adds a field that must be filled in unless another one is. -/
def requiredUnless (s : NodeSchema) (key label : String) (fieldType : FieldType)
    (other : String) : NodeSchema :=
  s.addField ⟨key, label, fieldType, true, some other⟩

end NodeSchema

end Workflow

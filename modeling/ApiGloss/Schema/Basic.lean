import ApiGloss.Json.Basic
import ApiGloss.Text.Names

/-!
# Schemas

The schema of one property or parameter, and the names of component schemas. A component is
named after the object it describes and after its use: in a request, in a response or in an
error response.
-/

namespace ApiGloss

/-- The **uses of a component schema**. -/
inductive SchemaKind where
  | request
  | response
  | error
  deriving DecidableEq, Repr

namespace SchemaKind

/-- The first part of the names of components. -/
def label : SchemaKind → String
  | .request => "Request"
  | .response => "Response"
  | .error => "Error"

/-- The **name of the component** for an object. -/
def componentName (kind : SchemaKind) (object : String) : String :=
  kind.label ++ Text.upperFirst object

/-- The reference to the component for an object. -/
def reference (kind : SchemaKind) (object : String) : String :=
  "#/components/schemas/" ++ kind.componentName object

end SchemaKind

/-- What the items of an array are. -/
inductive ItemSchema where
  | reference (target : String)
  | typed (type : String)
  deriving DecidableEq, Repr

/-- The **schema** of a property or parameter. -/
structure Schema where
  reference : Option String := none
  type : Option String := none
  format : Option String := none
  description : Option String := none
  items : Option ItemSchema := none
  default : Option String := none
  allowed : Option (List String) := none
  minimum : Option Json.Number := none
  maximum : Option Json.Number := none
  minLength : Option Nat := none
  maxLength : Option Nat := none
  deriving DecidableEq, Repr, Inhabited

/-- An entry that is written only when present. -/
def optionalEntry {α : Type} (name : String) (f : α → Json) : Option α → Table Json
  | some a => [(name, f a)]
  | none => []

/-- The items of an array as JSON. -/
def ItemSchema.toJson : ItemSchema → Json
  | .reference target => .obj [("$ref", .str target)]
  | .typed type => .obj [("type", .str type)]

/-- A schema as JSON; absent parts are left out. -/
def Schema.toJson (s : Schema) : Json :=
  .obj (optionalEntry "$ref" .str s.reference ++ optionalEntry "type" .str s.type ++
    optionalEntry "format" .str s.format ++ optionalEntry "description" .str s.description ++
    optionalEntry "items" ItemSchema.toJson s.items ++
    optionalEntry "default" .str s.default ++ optionalEntry "enum" Json.ofStrs s.allowed ++
    optionalEntry "minimum" .num s.minimum ++ optionalEntry "maximum" .num s.maximum ++
    optionalEntry "minLength" Json.ofNat s.minLength ++
    optionalEntry "maxLength" Json.ofNat s.maxLength)

end ApiGloss

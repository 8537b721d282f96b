import ApiGloss.Schema.Field

/-!
# Component Schemas

The components collect the properties of the objects that field lists describe. The first
field of a list that counts decides which component the list as a whole stands for: the
object it belongs to, or the field itself if it is declared as an array or an object.
-/

namespace ApiGloss

/-- A **component**: the properties of an object and the names of those that are required. -/
structure Component where
  properties : Table Schema := []
  required : List String := []
  deriving DecidableEq, Repr

/-- The components by name. -/
abbrev Components := Table Component

/-- A component as JSON; an empty list of required properties is left out. -/
def Component.toJson (c : Component) : Json :=
  .obj (("properties", .obj (c.properties.map fun (n, s) => (n, s.toJson))) ::
    (if c.required.isEmpty then [] else [("required", Json.ofStrs c.required)]))

/-- Components as JSON. -/
def Components.toJson (cs : Components) : Json :=
  .obj (cs.map fun (n, c) => (n, c.toJson))

/-- What a list of fields stands for: the object of its component, and the type of its first
field. -/
structure FieldsOutcome where
  object : Option String := none
  type : Option String := none
  deriving DecidableEq, Repr

/-- The schema that refers to the component of a list of fields; an array of it if the first
field is declared as an array. -/
def FieldsOutcome.schema (o : FieldsOutcome) (kind : SchemaKind) : Option Schema :=
  o.object.map fun object =>
    let target := kind.reference object
    if o.type = some "array" then { type := some "array", items := some (.reference target) }
    else { reference := some target }

namespace Components

/-- Adds a property to a component; a property of that name keeps its place. -/
def addProperty (c : Component) (name : String) (schema : Schema) (required : Bool) : Component :=
  { properties := Table.insert name schema c.properties
    required :=
      if required && !c.required.contains name then c.required ++ [name] else c.required }

/-- Where a field goes: its object, its property unless it is consumed as the object itself,
and the outcome of the list so far. -/
def placeField (kind : SchemaKind) (endpoint : String) (outcome : FieldsOutcome)
    (field : FieldDecl) : String × Option String × FieldsOutcome :=
  let (object?, property) := Schema.nestedName field.field
  let object := object?.getD endpoint
  match outcome.object with
  | some _ => (object, some property, outcome)
  | none =>
    let declared := Text.lower (field.type.getD Schema.defaultType)
    let type := if kind = .request ∨ declared = "array" then declared else "object"
    if declared = "array" ∨ declared = "object" then
      (property, none, { object := some property, type := some type })
    else (object, some property, { object := some object, type := some type })

/-- Adds one field. -/
def addField (kind : SchemaKind) (endpoint : String) (state : Components × FieldsOutcome)
    (field : FieldDecl) : Components × FieldsOutcome :=
  let (object, property?, outcome) := placeField kind endpoint state.2 field
  let name := kind.componentName object
  let component := (Table.get? name state.1).getD {}
  let component := match property? with
    | some property =>
      addProperty component property (Schema.ofField kind field) (!field.isOptional)
    | none => component
  (Table.insert name component state.1, outcome)

/-- **Adds a list of fields.** Fields named in `skip` do not count; fields without an object
belong to the endpoint. -/
def addFields (cs : Components) (kind : SchemaKind) (fields : List FieldDecl) (endpoint : String)
    (skip : List String) : Components × FieldsOutcome :=
  (fields.filter fun f => !skip.contains f.field).foldl (addField kind endpoint) (cs, {})

end Components

end ApiGloss

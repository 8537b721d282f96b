import ApiGloss.Json.Decode

/-!
# Field Declarations

The sections that fields are declared in, and the declaration of one field: its group, type,
size, allowed values, name, default and description.
-/

namespace ApiGloss

/-- The **sections** of an endpoint that hold field declarations. -/
inductive FieldKind where
  | parameter
  | header
  | success
  | error
  deriving DecidableEq, Repr

namespace FieldKind

/-- All sections, in order. -/
def all : List FieldKind :=
  [.parameter, .header, .success, .error]

/-- The name of the section in an endpoint record. -/
def sectionName : FieldKind → String
  | .parameter => "parameter"
  | .header => "header"
  | .success => "success"
  | .error => "error"

/-- The group of fields that name none. -/
def defaultGroup : FieldKind → String
  | .parameter => "Parameter"
  | .header => "Header"
  | .success => "Success 200"
  | .error => "Error 4xx"

/-- The tag that declares fields of the section. -/
def tag : FieldKind → String
  | .parameter => "apiParam"
  | .header => "apiHeader"
  | .success => "apiSuccess"
  | .error => "apiError"

end FieldKind

/-- The **declaration of a field**. -/
structure FieldDecl where
  group : String := ""
  type : Option String := none
  size : Option String := none
  allowedValues : Option (List String) := none
  isOptional : Bool := false
  field : String := ""
  defaultValue : Option String := none
  description : String := ""
  deriving DecidableEq, Repr, Inhabited

namespace FieldDecl

/-- An entry that is written only when present. -/
def entry? (name : String) : Option Json → Table Json
  | some j => [(name, j)]
  | none => []

/-- The record of a declaration; absent parts are left out. -/
def toFields (d : FieldDecl) : Table Json :=
  [("group", .str d.group)] ++ entry? "type" (d.type.map .str) ++
    entry? "size" (d.size.map .str) ++
    entry? "allowedValues" (d.allowedValues.map Json.ofStrs) ++
    [("optional", .bool d.isOptional), ("field", .str d.field)] ++
    entry? "defaultValue" (d.defaultValue.map .str) ++
    [("description", .str d.description)]

/-- A declaration as JSON. -/
def toJson (d : FieldDecl) : Json :=
  .obj d.toFields

/-- The parts of a declaration, in order. -/
def partNames : List Json.PartName :=
  [⟨"group", true⟩, ⟨"type", false⟩, ⟨"size", false⟩, ⟨"allowedValues", false⟩,
   ⟨"optional", true⟩, ⟨"field", true⟩, ⟨"defaultValue", false⟩, ⟨"description", true⟩]

/-- **Reads a declaration** from JSON. -/
def ofJson? (j : Json) : Option FieldDecl := do
  match ← j.parts? partNames with
  | [group, type, size, allowed, isOptional, field, defaultValue, description] =>
    return {
      group := ← Json.textPart? "" group
      type := ← Json.optionalPart? Json.str? type
      size := ← Json.optionalPart? Json.str? size
      allowedValues := ← Json.optionalPart? Json.texts? allowed
      isOptional := ← Json.boolPart? isOptional
      field := ← Json.textPart? "" field
      defaultValue := ← Json.optionalPart? Json.str? defaultValue
      description := ← Json.textPart? "" description }
  | _ => none

end FieldDecl

end ApiGloss

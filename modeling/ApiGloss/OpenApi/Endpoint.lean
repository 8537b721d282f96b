import ApiGloss.Field.Declaration

/-!
# Endpoint Records

The record of an endpoint as the document needs it, read from JSON.
-/

namespace ApiGloss

/-- The fields of a section by group. -/
abbrev FieldSection := Table (List FieldDecl)

/-- The **record of an endpoint**. -/
structure Endpoint where
  verb : String := ""
  url : Option String := none
  title : String := ""
  name : String := ""
  group : String := ""
  description : String := ""
  isDeprecated : Bool := false
  parameter : Option FieldSection := none
  header : Option FieldSection := none
  success : Option FieldSection := none
  error : Option FieldSection := none
  deriving DecidableEq, Repr

/-- Reads the groups of a section. -/
def FieldSection.ofJson? (j : Json) : Option FieldSection := do
  match ← j.parts? [⟨"fields", true⟩] with
  | [none] => return []
  | [some (.obj groups)] =>
    groups.mapM fun (name, items) => do
      let items ← items.arr?
      return (name, ← items.mapM FieldDecl.ofJson?)
  | _ => none

namespace Endpoint

/-- The parts of an endpoint record, in order. -/
def partNames : List Json.PartName :=
  ["type", "url", "title", "name", "group", "description", "deprecated", "parameter", "header",
   "success", "error"].map fun n => ⟨n, true⟩

/-- **Reads an endpoint record** from JSON. -/
def ofJson? (j : Json) : Option Endpoint := do
  match ← j.parts? partNames with
  | [verb, url, title, name, group, description, deprecated, parameter, header, success, error] =>
    return {
      verb := ← Json.textPart? "" verb
      url := ← Json.optionalPart? Json.str? url
      title := ← Json.textPart? "" title
      name := ← Json.textPart? "" name
      group := ← Json.textPart? "" group
      description := ← Json.textPart? "" description
      isDeprecated := (← Json.optionalPart? some deprecated).isSome
      parameter := ← Json.optionalPart? FieldSection.ofJson? parameter
      header := ← Json.optionalPart? FieldSection.ofJson? header
      success := ← Json.optionalPart? FieldSection.ofJson? success
      error := ← Json.optionalPart? FieldSection.ofJson? error }
  | _ => none

/-- The section of a kind of fields. -/
def sectionOf (e : Endpoint) : FieldKind → Option FieldSection
  | .parameter => e.parameter
  | .header => e.header
  | .success => e.success
  | .error => e.error

/-- The fields in the default group of a section; other groups have no part in the document. -/
def defaultFields (e : Endpoint) (kind : FieldKind) : List FieldDecl :=
  ((e.sectionOf kind).bind (Table.get? kind.defaultGroup)).getD []

end Endpoint

end ApiGloss

import ApiGloss.OpenApi.Document

/-!
# Package Information

What is known about a project as a whole, and the general information that its document
gets from it.
-/

namespace ApiGloss

namespace Info

/-- The parts of general information, in order. -/
def partNames : List Json.PartName :=
  [⟨"title", false⟩, ⟨"version", false⟩, ⟨"description", false⟩]

/-- Reads general information from JSON; title and version must be present. -/
def ofJson? (j : Json) : Option Info := do
  match ← j.parts? partNames with
  | [title, version, description] =>
    return {
      title := ← Json.requiredText? title
      version := ← Json.requiredText? version
      description := ← Json.optionalPart? Json.str? description }
  | _ => none

end Info

/-- **Package information.** -/
structure Package where
  name : String := ""
  /-- The displayed title; without one the name is displayed. -/
  title : Option String := none
  version : String := "0.0.0"
  description : String := ""
  deriving DecidableEq, Repr

namespace Package

/-- The parts of package information, in order. -/
def partNames : List Json.PartName :=
  ["name", "title", "version", "description"].map fun n => ⟨n, true⟩

/-- **Reads package information** from JSON. -/
def ofJson? (j : Json) : Option Package := do
  match ← j.parts? partNames with
  | [name, title, version, description] =>
    return {
      name := ← Json.textPart? "" name
      title := ← Json.optionalPart? Json.str? title
      version := ← Json.textPart? "0.0.0" version
      description := ← Json.textPart? "" description }
  | _ => none

/-- Package information as JSON; an absent title is left out. -/
def toJson (p : Package) : Json :=
  .obj ([("name", .str p.name)] ++ optionalEntry "title" .str p.title ++
    [("version", .str p.version), ("description", .str p.description)])

/-- The **general information** for a document. -/
def toInfo (p : Package) : Info :=
  { title := (p.title.filter (· != "")).getD p.name
    version := p.version
    description := if p.description = "" then none else some p.description }

end Package

end ApiGloss

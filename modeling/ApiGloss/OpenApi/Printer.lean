import ApiGloss.OpenApi.Document

/-!
# The Document as JSON

The entries of every part in their fixed order; absent parts are left out.
-/

namespace ApiGloss

/-- General information as JSON. -/
def Info.toJson (i : Info) : Json :=
  .obj ([("title", .str i.title), ("version", .str i.version)] ++
    optionalEntry "description" .str i.description)

/-- A schema as the content of a message. -/
def contentJson (s : Schema) : Json :=
  .obj [("application/json", .obj [("schema", s.toJson)])]

/-- A parameter as JSON. -/
def Parameter.toJson (p : Parameter) : Json :=
  .obj ([("name", .str p.name), ("in", .str p.location.text), ("required", .bool p.required),
    ("schema", p.schema.toJson)] ++ optionalEntry "description" .str p.description)

/-- A request body as JSON. -/
def RequestBody.toJson (b : RequestBody) : Json :=
  .obj [("description", .str b.description), ("required", .bool b.required),
    ("content", contentJson b.schema)]

/-- A response as JSON. -/
def Response.toJson (r : Response) : Json :=
  .obj (("description", .str r.description) :: optionalEntry "content" contentJson r.schema)

/-- An operation as JSON. -/
def Operation.toJson (o : Operation) : Json :=
  .obj ([("tags", Json.ofStrs o.tags)] ++ optionalEntry "summary" .str o.summary ++
    optionalEntry "operationId" .str o.operationId ++
    (if o.isDeprecated then [("deprecated", .bool true)] else []) ++
    [("parameters", .arr (o.parameters.map Parameter.toJson))] ++
    optionalEntry "requestBody" RequestBody.toJson o.requestBody ++
    [("responses", .obj (o.responses.map fun (code, r) => (code, r.toJson)))])

/-- The operations of a path as JSON, in the order of verbs. -/
def PathItem.toJson (item : PathItem) : Json :=
  .obj (Verb.all.flatMap fun v => optionalEntry v.text Operation.toJson (item v))

/-- The **document as JSON**. -/
def Document.toJson (d : Document) : Json :=
  .obj
    [("openapi", .str "3.0.2"), ("info", d.info.toJson),
     ("paths", .obj (d.paths.map fun (path, item) => (path, PathItem.toJson item))),
     ("components", .obj [("schemas", Components.toJson d.components)])]

end ApiGloss

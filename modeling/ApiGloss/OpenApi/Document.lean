import ApiGloss.Journal
import ApiGloss.OpenApi.Endpoint
import ApiGloss.OpenApi.PathTemplate
import ApiGloss.Schema.Components

/-!
# The Document

The OpenAPI document made of endpoint records. Every endpoint with a URL and a verb that the
format knows becomes an operation of its path; a later endpoint with the same path and verb
replaces an earlier one. The field lists of all endpoints feed the same components.
-/

namespace ApiGloss

/-- The **verbs** that a path can have operations for. -/
inductive Verb where
  | get
  | post
  | put
  | delete
  | patch
  | options
  | head
  deriving DecidableEq, Repr

namespace Verb

/-- All verbs, in the order in which they are written. -/
def all : List Verb :=
  [.get, .post, .put, .delete, .patch, .options, .head]

/-- A verb in lower case. -/
def text : Verb → String
  | .get => "get"
  | .post => "post"
  | .put => "put"
  | .delete => "delete"
  | .patch => "patch"
  | .options => "options"
  | .head => "head"

/-- The verb that a text in lower case spells. -/
def ofText? (s : String) : Option Verb :=
  all.find? fun v => v.text == s

/-- The verb of an endpoint, in any case; `del` stands for `delete`. -/
def ofDeclared? (s : String) : Option Verb :=
  let s := Text.lower s
  ofText? (if s = "del" then "delete" else s)

/-- Whether requests with the verb have a body. -/
def hasBody : Verb → Bool
  | .get | .head | .delete => false
  | _ => true

end Verb

/-- Where a parameter stands. -/
inductive Location where
  | path
  | header
  deriving DecidableEq, Repr

/-- The location as written. -/
def Location.text : Location → String
  | .path => "path"
  | .header => "header"

/-- A **parameter** of an operation. -/
structure Parameter where
  name : String
  location : Location
  required : Bool
  schema : Schema
  description : Option String
  deriving DecidableEq, Repr

/-- The **body** of a request. -/
structure RequestBody where
  description : String
  required : Bool
  schema : Schema
  deriving DecidableEq, Repr

/-- A **response**. -/
structure Response where
  description : String
  schema : Option Schema
  deriving DecidableEq, Repr

/-- An **operation**: what a verb does at a path. -/
structure Operation where
  tags : List String
  summary : Option String
  operationId : Option String
  isDeprecated : Bool
  parameters : List Parameter
  requestBody : Option RequestBody
  responses : Table Response
  deriving DecidableEq, Repr

/-- The operations of a path by verb. -/
abbrev PathItem := Verb → Option Operation

/-- The general information about an interface. -/
structure Info where
  title : String := ""
  version : String := ""
  description : Option String := none
  deriving DecidableEq, Repr

/-- The **document**. -/
structure Document where
  info : Info
  paths : Table PathItem := []
  components : Components := []

/-! ### Operations -/

namespace Operation

/-- The parameter that a field declares. Its description stands beside its schema. -/
def parameterOf (location : Location) (field : FieldDecl) : Parameter :=
  let schema := Schema.ofField .request field
  { name := field.field, location, required := !field.isOptional
    schema := { schema with description := none }, description := schema.description }

/-- Adds a parameter unless there is one of that name and location. -/
def addParameter (ps : List Parameter) (p : Parameter) : List Parameter :=
  if ps.any fun q => q.name == p.name && q.location == p.location then ps else ps ++ [p]

/-- The parameters of an operation: the declared path parameters, then the headers. -/
def parametersOf (e : Endpoint) (pathKeys : List String) : List Parameter :=
  let inPath := (e.defaultFields .parameter).filter fun f => pathKeys.contains f.field
  (inPath.map (parameterOf .path) ++ (e.defaultFields .header).map (parameterOf .header)).foldl
    addParameter []

/-- The body of a request and the components behind it; path parameters are no part of it. -/
def bodyOf (cs : Components) (e : Endpoint) (verb : Verb) (pathKeys : List String) :
    Components × Option RequestBody :=
  if verb.hasBody then
    let fields := e.defaultFields .parameter
    let (cs, outcome) := cs.addFields .request fields e.name pathKeys
    (cs, (outcome.schema .request).map fun schema =>
      { description := outcome.object.getD "" ++ " request", required := !fields.isEmpty, schema })
  else (cs, none)

/-- The response for a section of fields, if it says something, and the components behind
it. -/
def responseOf (cs : Components) (e : Endpoint) (part : FieldKind) (kind : SchemaKind)
    (code description : String) : Components × Table Response :=
  let (cs, outcome) := cs.addFields kind (e.defaultFields part) e.name []
  (cs, match outcome.schema kind with
    | some schema => [(code, { description, schema := some schema })]
    | none => [])

/-- The summary of an operation: its description without tags, or else its title. -/
def summaryOf (e : Endpoint) : Option String :=
  let description := Text.trim (Text.removeTags e.description)
  if description ≠ "" then some description
  else if e.title ≠ "" then some e.title else none

/-- The **operation of an endpoint** and the components behind it. -/
def ofEndpoint (cs : Components) (e : Endpoint) (verb : Verb) (pathKeys : List String) :
    Components × Operation :=
  let (cs, requestBody) := bodyOf cs e verb pathKeys
  let (cs, success) := responseOf cs e .success .response "200" "Successful response"
  let (cs, failure) := responseOf cs e .error .error "404" "Error response"
  let responses := success ++ failure
  (cs,
    { tags := if e.group = "" then [] else [e.group]
      summary := summaryOf e
      operationId := if e.name = "" then none else some e.name
      isDeprecated := e.isDeprecated
      parameters := parametersOf e pathKeys
      requestBody
      responses :=
        if responses.isEmpty then
          [("200", { description := "Successful response", schema := none })]
        else responses })

end Operation

/-! ### Building -/

namespace Document

/-- Puts an operation into its path item. -/
def setOperation (paths : Table PathItem) (path : String) (verb : Verb) (op : Operation) :
    Table PathItem :=
  let item : PathItem := (Table.get? path paths).getD fun _ => none
  Table.insert path (fun v => if v = verb then some op else item v) paths

/-- Adds an endpoint. One without a URL or with an unknown verb is passed over with a
warning. -/
def addEndpoint (d : Document) (e : Endpoint) : Document × Option Warning :=
  match e.url with
  | none => (d, some (.noUrl e.name))
  | some url =>
    match Verb.ofDeclared? e.verb with
    | none => (d, some (.unsupportedVerb e.verb url))
    | some verb =>
      let (path, keys) := PathTemplate.ofUrl url
      let (components, op) := Operation.ofEndpoint d.components e verb keys
      ({ d with paths := setOperation d.paths path verb op, components }, none)

/-- Adds an endpoint record; it must have the shape of one. -/
def addRecord (d : Document) (record : Json) : Run Document :=
  match Endpoint.ofJson? record with
  | none => throw .shape
  | some e => do
    let (d, warning) := d.addEndpoint e
    match warning with
    | some w => Run.warn w
    | none => pure ()
    return d

/-- **Builds the document** of endpoint records. -/
def build (info : Info) (records : List Json) : Run Document :=
  records.foldlM addRecord { info }

/-- The operation of a path and verb. -/
def operation? (d : Document) (path verb : String) : Option Operation :=
  (Table.get? path d.paths).bind fun item => (Verb.ofText? verb).bind item

end Document

end ApiGloss

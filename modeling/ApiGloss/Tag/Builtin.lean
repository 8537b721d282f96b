import ApiGloss.Field.Grammar
import ApiGloss.Tag.Basic
import ApiGloss.Text.Names
import ApiGloss.Version

/-!
# The Built-in Tags

The readers of the built-in tags, by tag name in lower case.
-/

namespace ApiGloss.Tag

open Regex

/-- Reads a content without regard to the context. -/
def plainly (read : String → Except ParameterError (Option (Table Json))) :
    String → ReadContext → Except ParameterError (Option (Table Json) × ReadContext) :=
  fun content ctx => (read content).map (·, ctx)

/-- A reader whose values are entries of the endpoint record itself. -/
def endpointReader (read : String → Except ParameterError (Option (Table Json))) : TagReader where
  read := plainly read
  path _ := "local"
  method := .insert

/-! ### The endpoint -/

/-- The expression for an endpoint: a verb in braces (group 1), a URL (group 2) and a title
(group 3). -/
def endpointExpression : Regex :=
  sequence
    [.look .startText,
     opt (sequence
       [opt (sequence [char '{', group 1 (lazyPlus (.set .all)), char '}']),
        star (cls .blank)]),
     group 2 (lazyPlus (.set .all)),
     opt (sequence [plus (cls .blank), group 3 (lazyPlus (.set .all))]),
     .look .endText]

/-- The verb, URL and title of an endpoint. -/
structure EndpointLine where
  verb : Option String
  url : String
  title : String
  deriving DecidableEq, Repr

/-- Reads the verb, URL and title of an endpoint. -/
def EndpointLine.parse? (content : String) : Option EndpointLine :=
  (endpointExpression.find? content.toList).map fun m =>
    { verb := (m.group? 1).map String.ofList
      url := String.ofList ((m.group? 2).getD [])
      title := String.ofList ((m.group? 3).getD []) }

/-- `@api {verb} url [title]` -/
def endpoint : TagReader :=
  endpointReader fun content =>
    .ok <| (EndpointLine.parse? content).map fun e =>
      (match e.verb with
        | some verb => [("type", .str verb)]
        | none => []) ++ [("url", .str e.url), ("title", .str e.title)]

/-! ### Definitions -/

/-- The kinds of definitions. -/
inductive DefineKind where
  | define
  | errorStructure
  | headerStructure
  | successStructure
  deriving DecidableEq, Repr

namespace DefineKind

/-- The name under which a definition is stored. -/
def target : DefineKind → String
  | .define => "define"
  | .errorStructure => "defineErrorStructure"
  | .headerStructure => "defineHeaderStructure"
  | .successStructure => "defineSuccessStructure"

/-- The tag as written. -/
def tag : DefineKind → String
  | .define => "apiDefine"
  | .errorStructure => "apiDefineErrorStructure"
  | .headerStructure => "apiDefineHeaderStructure"
  | .successStructure => "apiDefineSuccessStructure"

/-- A definition that is not well-formed. -/
def fault (kind : DefineKind) (message : String) : ParameterError :=
  { message, element := kind.tag
    usage := "@" ++ kind.tag ++ " name"
    sample := "@" ++ kind.tag ++ " MyValidName" }

/-- Reads the name, title and description of a definition. -/
def read (kind : DefineKind) (content : String) :
    Except ParameterError (Option (Table Json)) :=
  let content := Chars.trim content.toList
  if content.isEmpty then .error (kind.fault "No arguments found.")
  else
    let (first, rest) := (Chars.splitOnce (· == '\n') content).getD (content, [])
    let first := Chars.trim first
    let (name, title) := match Chars.splitOnce Text.isBlank first with
      | some (name, title) => (name, Chars.trim title)
      | none => (first, [])
    if name.all Text.isPlainWord then
      .ok (some
        [("name", .str (String.ofList name)), ("title", .str (String.ofList title)),
         ("description", .str (String.ofList (Chars.trimEnd (Chars.unindent rest))))])
    else .error (kind.fault "Name must contain only alphanumeric characters.")

end DefineKind

/-- `@apiDefine name [title]`, with a description on the lines below. -/
def definition (kind : DefineKind) : TagReader where
  read := plainly kind.read
  path _ := "global." ++ kind.target
  method := .insert
  markdown := ["description"]
  deprecated := kind != .define
  alternative := if kind = .define then none else some "@apiDefine"

/-! ### Single values -/

/-- A reader of one value; an empty content says nothing. -/
def singleValue (key : String) (value : String → String) : TagReader :=
  endpointReader fun content =>
    .ok (if content = "" then none else some [(key, .str (value content))])

/-- `@apiDescription text` -/
def description : TagReader :=
  { endpointReader fun content =>
      let content := Text.trim content
      .ok (if content = "" then none else some [("description", .str (Text.unindent content))])
    with markdown := ["description"] }

/-- `@apiDeprecated [text]` -/
def deprecation : TagReader :=
  { endpointReader fun content =>
      .ok <| some <|
        if content = "" then [("deprecated", .bool true)]
        else [("deprecated", .obj [("content", .str (Text.unindent content))])]
    with
    markdown := ["deprecated.content"]
    stripParagraphs := ["deprecated.content"] }

/-- `@apiGroup name` -/
def groupName : TagReader :=
  singleValue "group" Text.underscoreBlanks

/-- `@apiName name` -/
def endpointName : TagReader :=
  singleValue "name" Text.underscoreBlanks

/-- `@apiPrivate` -/
def privateMark : TagReader :=
  endpointReader fun _ => .ok (some [("private", .bool true)])

/-- `@apiVersion major.minor.patch` -/
def version : TagReader :=
  { endpointReader fun content =>
      if content = "" then .ok none
      else if (Version.parse? content).isNone then
        .error
          { message := "Version format not valid.", element := "apiVersion"
            usage := "@apiVersion major.minor.patch", sample := "@apiVersion 1.2.3" }
      else .ok (some [("version", .str content)])
    with extendRoot := true }

/-! ### References -/

/-- Reads the name of a definition. -/
def readReference (content : String) : Except ParameterError (Option (Table Json)) :=
  .ok (if content = "" then none else some [("name", .str content)])

/-- `@apiUse name` -/
def use : TagReader where
  read := plainly readReference
  path _ := "local.use"
  preventGlobal := true

/-- A reference to a structure, such as `@apiErrorStructure name`. -/
def structureUse (target : String) : TagReader where
  read := plainly readReference
  path _ := "local." ++ target
  preventGlobal := true
  deprecated := true
  alternative := some "@apiUse"

/-! ### Examples -/

/-- The characters of the type of an example. -/
def exampleTypeChars : CharSet :=
  FieldDecl.setOf (FieldDecl.alphanumeric ++ ['.', '/', '\\', '[', ']', '_', '-'].map .char)

/-- The expression for the first line of an example: a type in braces (group 1) and a title
(group 2). -/
def exampleExpression : Regex :=
  sequence
    [.look .startText, star (cls .blank),
     opt (sequence
       [char '{', star (cls .blank), group 1 (plus (.set exampleTypeChars)), star (cls .blank),
        char '}', star (cls .blank)]),
     group 2 (star (.set .dot)), .look .endText]

/-- Reads the title, content and type of an example. -/
def readExample (tag content : String) : Except ParameterError (Option (Table Json)) :=
  let content := content.toList
  let (first, body) := (Chars.splitOnce (· == '\n') content).getD (content, [])
  if Chars.allBlank body then
    .error
      { message := "No example found.", element := tag
        usage := "@" ++ tag ++ " [\x7btype\x7d] title\nexample"
        sample := "@" ++ tag ++
          " \x7bcurl\x7d Example usage:\ncurl -i http://localhost/user/4711" }
  else
    let (type, title) := match exampleExpression.find? first with
      | some m => ((m.group? 1).getD "json".toList, Chars.trim ((m.group? 2).getD []))
      | none => ("json".toList, Chars.trim first)
    .ok (some
      [("title", .str (String.ofList title)),
       ("content", .str (String.ofList (Chars.unindent body))),
       ("type", .str (String.ofList type))])

/-- `@apiExample [{type}] title`, with the example on the lines below. -/
def generalExample : TagReader where
  read := plainly (readExample "apiExample")
  path _ := "local.examples"

/-- An example for the fields of a section, such as `@apiParamExample`. -/
def fieldExample (kind : FieldKind) : TagReader where
  read := plainly (readExample (kind.tag ++ "Example"))
  path _ := "local." ++ kind.sectionName ++ ".examples"

/-! ### Fields -/

/-- A field declaration, such as `@apiParam`. Its group becomes the current group. -/
def field (kind : FieldKind) : TagReader where
  read content ctx :=
    .ok <| match FieldDecl.parse? content kind.defaultGroup with
      | some decl => (some decl.toFields, { currentGroup := some decl.group })
      | none => (none, ctx)
  path ctx :=
    "local." ++ kind.sectionName ++ ".fields." ++ ctx.currentGroup.getD kind.defaultGroup
  markdown := if kind = .header then ["description"] else ["description", "type"]
  stripParagraphs := if kind = .header then [] else ["type"]

/-- The **built-in readers** by tag name. -/
def builtin : Table TagReader :=
  [("api", endpoint),
   ("apidefine", definition .define),
   ("apidefineerrorstructure", definition .errorStructure),
   ("apidefineheaderstructure", definition .headerStructure),
   ("apidefinesuccessstructure", definition .successStructure),
   ("apideprecated", deprecation),
   ("apidescription", description),
   ("apierror", field .error),
   ("apierrorexample", fieldExample .error),
   ("apierrorstructure", structureUse "errorStructure"),
   ("apiexample", generalExample),
   ("apigroup", groupName),
   ("apiheader", field .header),
   ("apiheaderexample", fieldExample .header),
   ("apiheaderstructure", structureUse "headerStructure"),
   ("apiname", endpointName),
   ("apiparam", field .parameter),
   ("apiparamexample", fieldExample .parameter),
   ("apiprivate", privateMark),
   ("apisuccess", field .success),
   ("apisuccessexample", fieldExample .success),
   ("apisuccessstructure", structureUse "successStructure"),
   ("apiuse", use),
   ("apiversion", version)]

end ApiGloss.Tag

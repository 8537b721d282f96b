import ApiGloss.Comment.Block
import ApiGloss.Comment.Element
import ApiGloss.Journal
import ApiGloss.Record.Rendering
import ApiGloss.Tag.Builtin

/-!
# From Source Text to Block Records

A registry holds everything that is needed to read annotated source text: the languages, the
tag readers, the hooks and the options. `Registry.parseBlock` reads the elements of one block
into its record, `Registry.parseSource` reads a whole file.

A block may hold one definition, and no reference may follow a definition, unless a reader
allows more.
-/

namespace ApiGloss

/-- The **text of a source file** with its language. -/
structure SourceUnit where
  path : String
  text : String
  language : String
  deriving DecidableEq, Repr

/-- Everything that is needed to read source text. -/
structure Registry where
  languages : LanguageTable := .builtin
  readers : Table TagReader := Tag.builtin
  hooks : List ElementHook := []
  /-- Keep blocks that are marked as private. -/
  showPrivate : Bool := false
  /-- Renders the marked-up values; without one they stay as written. -/
  renderer : Option Record.Renderer := none

namespace Registry

/-- Adds or replaces the reader of a tag. -/
def addReader (r : Registry) (tag : String) (reader : TagReader) : Registry :=
  { r with readers := Table.insert (Text.lower tag) reader r.readers }

/-- Adds or replaces a language. -/
def addLanguage (r : Registry) (key : String) (language : Language) : Registry :=
  { r with languages := r.languages.add key language }

/-! ### One block -/

/-- What is known of a block while its elements are read. -/
structure BlockState where
  record : BlockRecord := {}
  context : ReadContext := {}
  /-- How many definitions were allowed beside others. -/
  extraDefinitions : Nat := 0

/-- Whether a path leads into the definitions of a block. -/
def isGlobalPath (path : String) : Bool :=
  path == "global" || "global.".toList.isPrefixOf path.toList

/-- Checks that values may be attached: definitions come alone, and references come first. -/
def checkPlace (reader : TagReader) (path : String) (st : BlockState) :
    Except ElementCause BlockState :=
  if reader.preventGlobal ∧ st.extraDefinitions < st.record.globals.length then
    .error .definitionOrUsage
  else if isGlobalPath path then
    if reader.allowMultiple then .ok { st with extraDefinitions := st.extraDefinitions + 1 }
    else if !st.record.globals.isEmpty then .error .secondDefinition
    else if reader.preventGlobal then .error .definitionOrUsage
    else .ok st
  else .ok st

/-- Attaches values to the part of a record that the path starts with. -/
def attachAt (method : AttachMethod) (values : Table Json) (path : String) (b : BlockRecord) :
    Option BlockRecord :=
  match Text.split '.' path with
  | "global" :: rest =>
    (Record.attach method values rest b.globals).map fun t => { b with globals := t }
  | "local" :: rest =>
    (Record.attach method values rest b.locals).map fun t => { b with locals := t }
  | segments => (Record.attach method values segments b.root).map fun t => { b with root := t }

/-- Reads one element with its reader into the record of the block. -/
def readElement (r : Registry) (reader : TagReader) (index : Nat) (e : Element)
    (st : BlockState) : Except ElementCause BlockState := do
  let (values?, context) ←
    (reader.read (Text.trim e.content) st.context).mapError ElementCause.parameter
  match values? with
  | none => .error .emptyResult
  | some values =>
    let path := reader.path context
    if path = "" then .error .noPath
    else
      let values := match r.renderer with
        | some renderer => Record.renderFields renderer reader values
        | none => values
      let st ← checkPlace reader path { st with context := context }
      let b := st.record
      let b := if reader.extendRoot then { b with root := Table.extend b.root values } else b
      match attachAt reader.method values path b with
      | none => .error (.misplaced path)
      | some b => .ok { st with record := { b with index := index + 1 } }

/-- Reads one element of block number `index`, counted from zero. -/
def step (r : Registry) (file : String) (index : Nat) (st : BlockState) (e : Element) :
    Run BlockState := do
  match Table.get? e.name r.readers with
  | none =>
    Run.warn (.unknownTag e.name index)
    return st
  | some reader =>
    if reader.deprecated then
      modify (·.deprecated e.sourceName reader.alternative)
    match r.readElement reader index e st with
    | .ok st => return st
    | .error cause => throw (.element cause file (index + 1) e.sourceName e.source)

/-- **Reads the elements of a block** into its record. -/
def parseBlock (r : Registry) (file : String) (index : Nat) (elements : List Element) :
    Run BlockRecord := do
  let st ← elements.foldlM (r.step file index) {}
  return st.record

/-! ### A file -/

/-- Whether the name of a tag starts with a text. -/
def startsWith (start name : String) : Bool :=
  start.toList.isPrefixOf name.toList

/-- Whether a block is documentation: it has a tag that starts with `api`, none that starts
with `apiignore`, and none that starts with `apiprivate` unless private blocks are kept. -/
def isDocumentation (r : Registry) (elements : List Element) : Bool :=
  elements.any (fun e => startsWith "api" e.name) &&
    !elements.any (fun e => startsWith "apiignore" e.name) &&
    (r.showPrivate || !elements.any (fun e => startsWith "apiprivate" e.name))

/-- The documentation blocks of a source text, with their positions counted from zero. -/
def documentation (r : Registry) (u : SourceUnit) : List (List Element × Nat) :=
  ((Block.findAll (r.languages.get u.language) u.text).map (Element.findAll r.hooks)).zipIdx.filter
    fun (elements, _) => r.isDocumentation elements

/-- **Reads a source file.** Blocks of which nothing is known are dropped, and a file without
blocks is none. -/
def parseSource (r : Registry) (u : SourceUnit) : Run (Option ParsedFile) := do
  let records ← (r.documentation u).mapM fun (elements, index) =>
    r.parseBlock u.path index elements
  let blocks := records.filter (·.index != 0)
  return if blocks.isEmpty then none else some ⟨u.path, blocks⟩

/-- Reads source files in order and keeps those with blocks. -/
def parseSources (r : Registry) (units : List SourceUnit) : Run (List ParsedFile) := do
  let files ← units.mapM r.parseSource
  return files.filterMap id

end Registry

end ApiGloss

import ApiGloss.Resolve.Basic
import ApiGloss.SourcePath
import ApiGloss.Text.Names

/-!
# Groups of Endpoints

Every endpoint belongs to a group. A block that names none is grouped by the full path of
its file. A group with a definition of its name takes title and description from it; other
groups have their name as title.
-/

namespace ApiGloss.Resolve

/-- How a group is used, for messages. -/
def groupUsage : TagUsage where
  element := "apiGroup"
  usage := "@apiGroup group"
  sample := "@apiDefine MyValidGroup Some title\n@apiGroup MyValidGroup"

/-- The text under a name of a record, unless it is empty. -/
def nonEmptyText? (key : String) (t : Table Json) : Option String :=
  ((Table.get? key t).bind Json.str?).filter (· != "")

/-- Gives an endpoint block its group. -/
def assignGroup (workDir path : String) (b : BlockRecord) : BlockRecord :=
  if b.globals.isEmpty then
    let group := (nonEmptyText? "group" b.locals).getD (SourcePath.join workDir path)
    { b with locals := Table.insert "group" (.str (Text.replaceNonWord group)) b.locals }
  else b

/-- The title and, if there is one, the description of a group. -/
def groupTexts (t : DefinitionTable) (name version defaultVersion : String) :
    Except ReferenceCause (Json × Option Json) :=
  match lookup t name version defaultVersion with
  | .found d =>
    .ok ((d.get? "title").getD .null,
      (d.get? "description").filter fun j => j.str?.any (· != ""))
  | .unknownName => .ok (.str name, none)
  | .noVersion defined => .error (.noVersion name version defined)

/-- Gives a block with a group the title and description of the group. -/
def titleGroup (defaultVersion : String) (t : DefinitionTable) (path : String) (b : BlockRecord) :
    BlockRecord × Option Error :=
  match (Table.get? "group" b.locals).bind Json.str? with
  | none => (b, none)
  | some name =>
    match groupTexts t name (versionOf defaultVersion b) defaultVersion with
    | .error cause => (b, some (.reference cause path b.index groupUsage))
    | .ok (title, description?) =>
      let locals := Table.insert "groupTitle" title b.locals
      let locals := match description? with
        | some d => Table.insert "groupDescription" d locals
        | none => locals
      ({ b with locals := locals }, none)

/-- The **resolver of groups**; `workDir` is the directory that paths start from. -/
def groups (workDir : String) : Resolver where
  name := "apiGroup"
  gather := gather "define" fun _ d => d
  settle defaultVersion t files :=
    eachBlock (titleGroup defaultVersion t)
      (files.map fun f => { f with blocks := f.blocks.map (assignGroup workDir f.path) })

end ApiGloss.Resolve

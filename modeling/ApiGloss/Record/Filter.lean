import ApiGloss.Field.Declaration
import ApiGloss.Record.Basic

/-!
# Repeated Fields and Endpoint Blocks

Before blocks are resolved, repeated declarations of a field in a group are dropped, the
first one staying. The endpoint blocks are then selected by position: those that hold no
definition and say something. Positions stay valid, because resolution neither adds nor
removes blocks.
-/

namespace ApiGloss

/-- A **clean-up** of all files after they have been read. -/
structure PostFilter where
  name : String
  apply : List ParsedFile → List ParsedFile

namespace Filter

/-- Changes every block of every file. -/
def mapBlocks (f : BlockRecord → BlockRecord) (files : List ParsedFile) : List ParsedFile :=
  files.map fun file => { file with blocks := file.blocks.map f }

/-- The name by which declarations are compared. -/
def fieldKey (item : Json) : String :=
  (item.getStr? "field").getD ""

/-- Keeps the first item of each name, apart from the names already seen. -/
def firstOfEach (seen : List String) : List Json → List Json
  | [] => []
  | item :: rest =>
    if seen.contains (fieldKey item) then firstOfEach seen rest
    else item :: firstOfEach (fieldKey item :: seen) rest

/-- Drops repeated declarations from a group of fields. -/
def dropRepeated : Json → Json
  | .arr items => .arr (firstOfEach [] items)
  | j => j

/-- Drops repeated declarations from all groups of a section. -/
def cleanSection : Json → Json
  | .obj fields =>
    .obj (Table.modify "fields" (fun groups => match groups with
      | .obj groups => .obj (groups.map fun (name, g) => (name, dropRepeated g))
      | j => j) fields)
  | j => j

/-- Drops repeated declarations from one section of a block. -/
def cleanBlock (kind : FieldKind) (b : BlockRecord) : BlockRecord :=
  { b with locals := Table.modify kind.sectionName cleanSection b.locals }

/-- The clean-up of one section. -/
def repeatedFields (kind : FieldKind) : PostFilter where
  name := kind.tag
  apply := mapBlocks (cleanBlock kind)

/-- The built-in clean-ups. -/
def builtin : List PostFilter :=
  FieldKind.all.map repeatedFields

/-- Whether a block describes an endpoint. -/
def isEndpoint (b : BlockRecord) : Bool :=
  b.globals.isEmpty && !b.locals.isEmpty

/-- The positions of the endpoint blocks: file and block, counted from zero. -/
def selection (files : List ParsedFile) : List (Nat × Nat) :=
  files.zipIdx.flatMap fun (file, i) =>
    (file.blocks.zipIdx.filter fun (b, _) => isEndpoint b).map fun (_, j) => (i, j)

/-- **Cleans up all files and selects the endpoint blocks.** -/
def process (filters : List PostFilter) (files : List ParsedFile) :
    List ParsedFile × List (Nat × Nat) :=
  let files := filters.foldl (fun files f => f.apply files) files
  (files, selection files)

/-- The endpoint records at the selected positions; positions without a block are passed
over. -/
def records (files : List ParsedFile) (positions : List (Nat × Nat)) : List Json :=
  positions.filterMap fun (i, j) =>
    (files[i]?.bind fun file => file.blocks[j]?).map fun b => .obj b.locals

end Filter

end ApiGloss

import ApiGloss.Error
import ApiGloss.Record.Basic
import ApiGloss.Version

/-!
# Definitions and Their Look-up

Blocks refer to definitions in other blocks by name. A definition table lists, for every
name, the definitions of that name by version, in the order in which they were found. A
block uses the definition that `Version.resolve` picks for its own version.

A resolver works in two steps: it gathers a table from all blocks, and then settles every
block with it. Blocks are settled in order; the first one that fails stops the resolver and
leaves the blocks behind it as they were.
-/

namespace ApiGloss

/-- **Definitions** by name, then by version. -/
abbrev DefinitionTable := Table (Table Json)

/-- A **resolver** of references between blocks. Both steps are given the version of blocks
that declare none. -/
structure Resolver where
  name : String
  gather : (defaultVersion : String) → List ParsedFile → DefinitionTable
  settle : (defaultVersion : String) → DefinitionTable → List ParsedFile →
    List ParsedFile × Option Error

namespace Resolve

/-- The version of a block. -/
def versionOf (defaultVersion : String) (b : BlockRecord) : String :=
  b.version?.getD defaultVersion

/-- Adds the definition of a block, if it holds one of the wanted kind. -/
def addDefinition (source defaultVersion : String) (pick : BlockRecord → Json → Json)
    (t : DefinitionTable) (b : BlockRecord) : DefinitionTable :=
  match Table.get? source b.globals with
  | none => t
  | some d =>
    let name := (d.getStr? "name").getD ""
    let versions := (Table.get? name t).getD []
    Table.insert name (Table.insert (versionOf defaultVersion b) (pick b d) versions) t

/-- All blocks of all files, in order. -/
def allBlocks (files : List ParsedFile) : List BlockRecord :=
  files.flatMap (·.blocks)

/-- **Gathers the definitions** stored under `source` in all blocks; `pick` says what to keep
of a definition. -/
def gather (source : String) (pick : BlockRecord → Json → Json) (defaultVersion : String)
    (files : List ParsedFile) : DefinitionTable :=
  (allBlocks files).foldl (addDefinition source defaultVersion pick) []

/-- The outcome of a look-up. -/
inductive Lookup where
  | found (definition : Json)
  | unknownName
  | noVersion (defined : List String)

/-- **Looks up a definition** by name for a block of a version. -/
def lookup (t : DefinitionTable) (name requested defaultVersion : String) : Lookup :=
  match Table.get? name t with
  | none => .unknownName
  | some versions =>
    match Version.resolve (Table.keys versions) requested defaultVersion with
    | some v => .found ((Table.get? v versions).getD .null)
    | none => .noVersion (Table.keys versions)

/-- A name that is found is in the table. -/
theorem mem_keys_of_lookup {t : DefinitionTable} {name requested defaultVersion : String}
    {d : Json} (h : lookup t name requested defaultVersion = .found d) : name ∈ Table.keys t := by
  rw [← Table.contains_iff_mem_keys]
  unfold lookup at h
  split at h
  · simp at h
  · rename_i versions hv
    simp [Table.contains, hv]

/-! ### One item after the other -/

/-- Changes items in order until one fails; the rest stays as it is. -/
def untilFailure {α ε : Type} (f : α → α × Option ε) : List α → List α × Option ε
  | [] => ([], none)
  | a :: as =>
    match f a with
    | (a, some e) => (a :: as, some e)
    | (a, none) =>
      let (as, e) := untilFailure f as
      (a :: as, e)

/-- Changes the blocks of all files in order until one fails. -/
def eachBlock (f : String → BlockRecord → BlockRecord × Option Error)
    (files : List ParsedFile) : List ParsedFile × Option Error :=
  untilFailure
    (fun file =>
      let (blocks, e) := untilFailure (f file.path) file.blocks
      ({ file with blocks := blocks }, e))
    files

end Resolve

end ApiGloss

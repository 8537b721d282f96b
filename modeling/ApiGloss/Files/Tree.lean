import ApiGloss.Journal
import ApiGloss.SourcePath
import ApiGloss.Table

/-!
# File Trees

A file tree is a snapshot of files and directories with a working directory in it. Paths are
followed name by name: a name must lead on from a directory, an empty name or a point stays,
and two points lead to the directory above.
-/

namespace ApiGloss

/-- A **file or directory**. -/
inductive FileEntry where
  | file (content : List UInt8)
  | directory (entries : List (String × FileEntry))
  deriving Inhabited

/-- A **file tree**: everything below the root, and the names that lead to the working
directory. -/
structure FileTree where
  root : FileEntry
  workingDirectory : List String

namespace FileTree

/-- Follows names from a place; `above` are the directories above it, nearest first. -/
def follow (above : List FileEntry) (here : FileEntry) :
    List String → Except PathProblem FileEntry
  | [] => .ok here
  | name :: names =>
    match here with
    | .file _ => .error .notDirectory
    | .directory entries =>
      if name = "" ∨ name = "." then follow above here names
      else if name = ".." then
        match above with
        | [] => follow [] here names
        | up :: rest => follow rest up names
      else
        match Table.get? name entries with
        | none => .error .noEntry
        | some entry => follow (here :: above) entry names

/-- The names that lead from the root to a path. -/
def route (tree : FileTree) (path : String) : List String :=
  let names := Text.split '/' path
  if SourcePath.isAbsolute path then names else tree.workingDirectory ++ names

/-- **What is at a path.** The empty path leads nowhere. -/
def find (tree : FileTree) (path : String) : Except PathProblem FileEntry :=
  if path = "" then .error .noEntry else follow [] tree.root (tree.route path)

/-- Whether there is anything at a path. -/
def contains (tree : FileTree) (path : String) : Bool :=
  match tree.find path with
  | .ok _ => true
  | .error _ => false

/-- The content of the file at a path. -/
def file? (tree : FileTree) (path : String) : Option (List UInt8) :=
  match tree.find path with
  | .ok (.file content) => some content
  | _ => none

/-! ### Building trees -/

/-- Puts an entry below a place, with all directories on the way. A file in the way gives way
to a directory. -/
def insertBelow (entry : FileEntry) : List String → FileEntry → FileEntry
  | [], _ => entry
  | name :: names, here =>
    let entries := match here with
      | .directory entries => entries
      | .file _ => []
    let below := (Table.get? name entries).getD (.directory [])
    .directory (Table.insert name (insertBelow entry names below) entries)

/-- The names on a way without detours: two points take back the name before them. -/
def directNames (names : List String) : List String :=
  (names.foldl
    (fun done n =>
      if n = "" ∨ n = "." then done else if n = ".." then done.drop 1 else n :: done)
    []).reverse

/-- **Adds an entry** at a path, with the directories above it. -/
def insert (tree : FileTree) (path : String) (entry : FileEntry) : FileTree :=
  { tree with root := insertBelow entry (directNames (tree.route path)) tree.root }

/-! ### Writing -/

/-- Whether all directories on a way can be made: nothing on it is a file. -/
def canMakeDirectories (above : List FileEntry) (here : FileEntry) : List String → Bool
  | [] => match here with
    | .file _ => false
    | .directory _ => true
  | name :: names =>
    match here with
    | .file _ => false
    | .directory entries =>
      if name = "" ∨ name = "." then canMakeDirectories above here names
      else if name = ".." then
        match above with
        | [] => canMakeDirectories [] here names
        | up :: rest => canMakeDirectories rest up names
      else
        canMakeDirectories (here :: above)
          ((Table.get? name entries).getD (.directory [])) names

/-- Whether a file can be written at a path, when the directories above it are there: nothing
but a file may be there already, and the path must end in a name. -/
def canWrite (tree : FileTree) (path : String) : Bool :=
  match tree.find path with
  | .ok (.file _) => true
  | .ok (.directory _) => false
  | .error .notDirectory => false
  | .error .noEntry =>
    match (Text.split '/' path).getLast? with
    | some name => name != "" && name != "." && name != ".."
    | none => false

end FileTree

end ApiGloss

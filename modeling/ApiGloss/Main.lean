import ApiGloss.CommandLine.Run

/-!
# The Program

The thin layer around `CommandLine.run`: it takes a snapshot of the files that the arguments
ask for, runs the program on it, and prints or writes what comes out.
-/

namespace ApiGloss.CommandLine

/-- What is printed on demand and with problems of usage. -/
def usageText : String :=
  "Usage: apigloss [OPTIONS] [INPUT]\n\n" ++
  "  -o, --output FILE             write the document to a file\n" ++
  "  -f, --format json|yaml        form of the document\n" ++
  "      --file-filters REGEX      select files (repeatable)\n" ++
  "      --exclude-filters REGEX   exclude files or directories (repeatable)\n" ++
  "      --private                 keep private blocks\n" ++
  "      --no-markdown             keep texts as written\n" ++
  "      --default-version X.Y.Z   version of blocks without one\n" ++
  "  -v, --verbose                 say more\n" ++
  "  -h, --help                    print this text\n" ++
  "  -V, --version                 print the version"

/-- The version of the program. -/
def versionText : String := "apigloss 0.1.0"

/-- Reads what is at a place; directories that no search enters are left out. -/
partial def snapshot (place : IO.FS.DirEntry) : IO FileEntry := do
  if ← place.path.isDir then
    let mut entries : List (String × FileEntry) := []
    for entry in (← place.path.readDir) do
      unless Discovery.isSkipped entry.fileName && (← entry.path.isDir) do
        entries := (entry.fileName, ← snapshot entry) :: entries
    return .directory entries
  else
    return .file (← IO.FS.readBinFile place.path).toList

/-- Adds what is at a path to a tree, if there is anything. -/
def addSnapshot (tree : FileTree) (path : String) : IO FileTree := do
  let place : IO.FS.DirEntry := { root := ← IO.currentDir, fileName := path }
  if ← place.path.pathExists then return tree.insert path (← snapshot place)
  else return tree

/-- The files that a run may read: the input and the package files. -/
def readTree (a : Arguments) : IO FileTree := do
  let names := (Text.split '/' (← IO.currentDir).toString).filter (· != "")
  let bare : FileTree :=
    { root := FileTree.insertBelow (.directory []) names (.directory [])
      workingDirectory := names }
  let mut tree ← addSnapshot bare a.input
  for dir in [a.packageDirectory tree, "."] do
    for file in Package.packageFile :: Package.overrideFiles do
      tree ← addSnapshot tree (SourcePath.join dir file)
  return tree

/-- Writes a file, with the directories above it. -/
def writeOutput (path content : String) : IO (Except Failure Unit) := do
  let dir := (SourcePath.parent? path).getD ""
  try
    if dir != "" then IO.FS.createDirAll dir
  catch _ =>
    return .error (.noDirectory dir)
  try
    IO.FS.writeFile path content
    return .ok ()
  catch _ =>
    return .error (.notWritten path)

/-- Reports a failure; the result is the exit code. -/
def report : Failure → IO UInt32
  | .usage .helpRequested => do
    IO.println usageText
    return 0
  | .usage .versionRequested => do
    IO.println versionText
    return 0
  | .usage _ => do
    IO.eprintln usageText
    return 2
  | failure => do
    IO.eprintln ("Error: " ++ failure.message)
    return 1

end ApiGloss.CommandLine

open ApiGloss CommandLine in
/-- Runs the program. -/
def main (arguments : List String) : IO UInt32 := do
  match Arguments.read arguments with
  | .error problem => report (.usage problem)
  | .ok a =>
    let (result, journal) := (ExceptT.run (run (← readTree a) arguments)).run {}
    for warning in journal.warnings do
      IO.eprintln ("warning: " ++ warning.message)
    match result with
    | .error failure => report failure
    | .ok (.printed text) =>
      IO.print text
      return 0
    | .ok (.written path content) =>
      match ← writeOutput path content with
      | .error failure => report failure
      | .ok () => return 0

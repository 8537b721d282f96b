import ApiGloss.Files.Tree
import ApiGloss.Journal
import ApiGloss.Pattern.Basic
import ApiGloss.Record.Registry
import ApiGloss.Text.Utf8

/-!
# Source Files in a Tree

Which files below a directory hold sources. A file is wanted if one of the accepting patterns
matches its path below the directory and no rejecting pattern matches it or a directory on
the way. Hidden directories and build output are passed over. Files come depth first, the
entries of each directory in the order of their names.

A single file may be searched instead of a directory; then its whole path is matched, by the
accepting patterns only.

Of a pattern nothing counts but whether it matches a path. So a search is made with any compiler of
patterns (`Discovery.withPatterns`).
-/

namespace ApiGloss

/-- A **search** for source files. -/
structure Discovery where
  /-- The directory or file that is searched. -/
  root : String
  /-- Which texts of paths each of the accepting patterns matches. -/
  accepting : List (String → Bool)
  /-- Which texts of paths each of the rejecting patterns matches. -/
  rejecting : List (String → Bool)

namespace Discovery

/-- The files that are accepted unless something else is asked for. -/
def defaultPattern : String :=
  ".*\\.(clj|coffee|cs|dart|erl|exs?|go|java|js|lua|php?|pl|pm|py|rb|ts)$"

/-- What the pattern that a text spells matches, or an error. -/
def pattern (compile : Pattern.Compiler) (text : String) : Except Error (String → Bool) :=
  match compile text with
  | some matching => .ok matching
  | none => .error (.invalidPattern text)

/-- The texts of the accepting patterns; the default one if there is none. -/
def acceptingTexts (accepting : List String) : List String :=
  if accepting = [] then [defaultPattern] else accepting

/-- **A search with patterns**, whatever compiles them; without an accepting one the default is
used, and empty rejecting ones are ignored. -/
def withPatterns (compile : Pattern.Compiler) (root : String) (accepting rejecting : List String) :
    Except Error Discovery := do
  let accepting ← (acceptingTexts accepting).mapM (pattern compile)
  let rejecting ← (rejecting.filter (· != "")).mapM (pattern compile)
  return { root, accepting, rejecting }

/-- A search with patterns that the program compiles itself. -/
def ofPatterns (root : String) (accepting rejecting : List String) : Except Error Discovery :=
  withPatterns Pattern.compile root accepting rejecting

/-- The text of a path that patterns are matched with. -/
def matchText (path : String) : String :=
  String.ofList (path.toList.map fun c => if c = '\\' then '/' else c)

/-- Whether an accepting pattern matches a path. -/
def accepts (d : Discovery) (path : String) : Bool :=
  d.accepting.any fun matching => matching (matchText path)

/-- Whether a rejecting pattern matches a path. -/
def rejects (d : Discovery) (path : String) : Bool :=
  d.rejecting.any fun matching => matching (matchText path)

/-- Directories that are never entered: hidden ones and build output. -/
def isSkipped (name : String) : Bool :=
  name.toList.head? == some '.' || name == "target"

/-- The path of an entry below another path; at the top it is the name alone. -/
def below (path name : String) : String :=
  if path = "" then name else path ++ "/" ++ name

/-- Puts the files of the entries of a directory in order. -/
def inOrder (found : List (String × List String)) : List String :=
  (found.mergeSort fun a b => decide (a.1 ≤ b.1)).flatMap Prod.snd

mutual
/-- The wanted files at an entry, as paths below the root; `path` is the path of the entry. -/
def filesAt (d : Discovery) (path name : String) : FileEntry → List String
  | .file _ => if !d.rejects path && d.accepts path then [path] else []
  | .directory entries =>
    if isSkipped name || d.rejects path then [] else inOrder (filesIn d path entries)

/-- The wanted files of each entry of a directory. -/
def filesIn (d : Discovery) (path : String) :
    List (String × FileEntry) → List (String × List String)
  | [] => []
  | (name, entry) :: rest =>
    (name, filesAt d (below path name) name entry) :: filesIn d path rest
end

/-- The wanted files at what the root leads to, as full paths. -/
def filesOf (d : Discovery) : FileEntry → List String
  | .file _ => if d.accepts d.root then [d.root] else []
  | .directory entries => (inOrder (filesIn d "" entries)).map (SourcePath.join d.root)

/-- What a search found. -/
structure Found where
  files : List String
  warnings : List Warning := []

/-- **Searches a tree.** It is an error to find nothing. -/
def scan (d : Discovery) (tree : FileTree) : Run Found := do
  let (files, warnings) ← match tree.find d.root with
    | .ok entry => pure (d.filesOf entry, [])
    | .error problem =>
      let warning := Warning.missingPath d.root problem
      Run.warn warning
      pure ([], [warning])
  if files = [] then throw (.noFiles d.root)
  return { files, warnings }

/-- The source text of a file; bytes that are no text are replaced. -/
def readSource (tree : FileTree) (path : String) : Except Error SourceUnit :=
  match tree.file? path with
  | some content =>
    .ok { path, text := Utf8.decodeLossy content, language := SourcePath.languageKey path }
  | none => .error .unreadable

/-- **The source texts** that a search finds. -/
def readSources (d : Discovery) (tree : FileTree) : Run (List SourceUnit) := do
  let found ← d.scan tree
  match found.files.mapM (readSource tree) with
  | .ok units => return units
  | .error e => throw e

end Discovery

end ApiGloss

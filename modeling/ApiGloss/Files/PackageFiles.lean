import ApiGloss.Files.Tree
import ApiGloss.Journal
import ApiGloss.Json.Parser
import ApiGloss.OpenApi.Package
import ApiGloss.Text.Utf8

/-!
# Package Files

Package information is read from a package file and from the first override file that says
anything. Each file is looked for in the source directory and then in the working directory.
An override wins over the documentation section of the package file, which wins over the
general entries of the package file.
-/

namespace ApiGloss.Package

/-- The general package file. -/
def packageFile : String := "package.json"

/-- The section of the package file that is about documentation. -/
def documentationKey : String := "apidoc"

/-- The override files in order of preference. -/
def overrideFiles : List String := ["swaggee.json", "apidoc.json"]

/-- The entries that are taken from the package file, and their values when it has none. -/
def generalEntries : List (String × String) :=
  [("name", ""), ("version", "0.0.0"), ("description", "")]

/-- The place of a package file: in the source directory, or else in the working directory. -/
def locate? (tree : FileTree) (dir file : String) : Option (String × List UInt8) :=
  [SourcePath.join dir file, SourcePath.join "." file].findSome? fun path =>
    (tree.file? path).map (path, ·)

/-- **The entries of a package file.** A missing file, and a file with anything but an object,
has none. -/
def entriesOf (tree : FileTree) (dir file : String) : Except Error (Table Json) :=
  match locate? tree dir file with
  | none => .ok []
  | some (path, content) =>
    match Utf8.decode? content with
    | none => .error .unreadable
    | some text =>
      match Json.parse? text with
      | none => .error (.packageFile path)
      | some j => .ok (j.obj?.getD [])

/-- The entries of the first override file that has any. -/
def overrides (tree : FileTree) (dir : String) : List String → Except Error (Table Json)
  | [] => .ok []
  | file :: files => do
    let entries ← entriesOf tree dir file
    if entries.isEmpty then overrides tree dir files else return entries

/-- A general entry of the package file, if it is a text and not empty. -/
def general? (package : Table Json) (key : String) : Option String :=
  ((Table.get? key package).bind Json.str?).filter (· != "")

/-- The entries of the package file: its documentation section, completed by general
entries. -/
def packageEntries (package : Table Json) : Table Json :=
  let documentation := ((Table.get? documentationKey package).bind Json.obj?).getD []
  generalEntries.foldl
    (fun entries (key, fallback) =>
      if Table.contains key entries then entries
      else Table.insert key (.str ((general? package key).getD fallback)) entries)
    documentation

/-- **Loads package information** for sources in a directory. -/
def load (tree : FileTree) (dir : String) : Run Package := do
  let package ← ofExcept (entriesOf tree dir packageFile)
  let override ← ofExcept (overrides tree dir overrideFiles)
  if override.isEmpty then Run.warn (.noOverride overrideFiles)
  match ofJson? (.obj (Table.extend (packageEntries package) override)) with
  | some p => return p
  | none => throw .shape

end ApiGloss.Package

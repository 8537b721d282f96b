import ApiGloss.CommandLine.Arguments
import ApiGloss.Files.Discovery
import ApiGloss.Files.PackageFiles
import ApiGloss.Json.Printer
import ApiGloss.Markdown
import ApiGloss.OpenApi.Printer
import ApiGloss.Pipeline
import ApiGloss.Yaml.Printer

/-!
# A Run of the Program

What a run does with a file tree: it checks its arguments, reads the sources and the package
files, and prints the document or writes it to a file.
-/

namespace ApiGloss.CommandLine

/-- Why a run fails. -/
inductive Failure where
  | usage (problem : UsageProblem)
  | noInput (path : String)
  | invalidVersion (text : String)
  | run (error : Error)
  | noDirectory (path : String)
  | notWritten (path : String)
  deriving DecidableEq, Repr

/-- The wording of a failure; problems with arguments are worded by the caller. -/
def Failure.message : Failure → String
  | .usage _ => ""
  | .noInput path => "Input path does not exist: " ++ path
  | .invalidVersion text => "Default version is not a valid version: " ++ text
  | .run error => error.message
  | .noDirectory path => "Failed to create directory: " ++ path
  | .notWritten path => "Failed to write to file: " ++ path

/-- Where the document goes. -/
inductive Output where
  | printed (text : String)
  | written (path content : String)
  deriving DecidableEq, Repr

/-- A computation that may warn and may fail. -/
abbrev CommandRun := ExceptT Failure (StateM Journal)

/-- Runs a part of the pipeline. -/
def lift {α : Type} (x : Run α) : CommandRun α :=
  ExceptT.adapt Failure.run x

/-- Checks arguments against the tree. -/
def Arguments.check (a : Arguments) (tree : FileTree) : Except Failure Unit := do
  if !tree.contains a.input then throw (.noInput a.input)
  if (Version.parse? a.defaultVersion).isNone then throw (.invalidVersion a.defaultVersion)

/-- The directory with the package files: the input, or the directory of an input file. -/
def Arguments.packageDirectory (a : Arguments) (tree : FileTree) : String :=
  if (tree.file? a.input).isSome then (SourcePath.parent? a.input).getD "." else a.input

/-- The stages of a run. -/
def Arguments.pipeline (a : Arguments) (tree : FileTree) : Pipeline where
  registry :=
    { showPrivate := a.showPrivate
      renderer := if a.plainText then none else some Markdown.render }
  resolvers := Resolve.builtin ("/" ++ Text.join "/" tree.workingDirectory)
  defaultVersion := a.defaultVersion

/-- **The text of the document.** -/
def Arguments.document (a : Arguments) (tree : FileTree) : Run String := do
  let search ← ofExcept (Discovery.ofPatterns a.input a.accepting a.rejecting)
  let units ← search.readSources tree
  let package ← Package.load tree (a.packageDirectory tree)
  let document ← (a.pipeline tree).generate units package
  return match a.format with
    | .json => document.toJson.pretty
    | .yaml => Yaml.print document.toJson

/-- Whether the output can be delivered in a tree. -/
def Output.check (tree : FileTree) : Output → Except Failure Unit
  | .printed _ => .ok ()
  | .written path _ => do
    match SourcePath.parent? path with
    | some dir =>
      if dir ≠ "" ∧ !FileTree.canMakeDirectories [] tree.root (tree.route dir) then
        throw (.noDirectory dir)
    | none => pure ()
    if !tree.canWrite path then throw (.notWritten path)

/-- **Runs the program** on a tree: reads the arguments and makes the output. -/
def run (tree : FileTree) (arguments : List String) : CommandRun Output := do
  let a ← ofExcept ((Arguments.read arguments).mapError .usage)
  ofExcept (a.check tree)
  let text ← lift (a.document tree)
  let output := match a.output with
    | some path => Output.written path text
    | none => Output.printed (text ++ "\n")
  ofExcept (output.check tree)
  return output

end ApiGloss.CommandLine

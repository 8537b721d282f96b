import ApiGloss.Error
import ApiGloss.Text.Quoted

/-!
# Warnings

What a run reports without stopping. Warnings are data; the wording is in one place,
`Warning.message`. A journal keeps them in order, and remembers which deprecated tags have
been reported, since each spelling is reported once.

`Run` is a computation that may warn and may fail. What was written to the journal before a
failure stays there.
-/

namespace ApiGloss

/-- Why a path leads nowhere. -/
inductive PathProblem where
  | noEntry
  | notDirectory
  deriving DecidableEq, Repr

/-- The wording of a problem with a path. -/
def PathProblem.message : PathProblem → String
  | .noEntry => "No such file or directory (os error 2)"
  | .notDirectory => "Not a directory (os error 20)"

/-- A **warning**. -/
inductive Warning where
  /-- A tag without a reader; blocks count from zero here. -/
  | unknownTag (name : String) (block : Nat)
  | deprecatedTag (tag : String) (alternative : Option String)
  | noUrl (endpoint : String)
  | unsupportedVerb (verb url : String)
  | noOverride (files : List String)
  | missingPath (path : String) (problem : PathProblem)
  deriving DecidableEq, Repr

/-- The **wording** of a warning. -/
def Warning.message : Warning → String
  | .unknownTag name block =>
    "parser plugin '" ++ name ++ "' not found in block: " ++ toString block
  | .deprecatedTag tag none => "@" ++ tag ++ " is deprecated"
  | .deprecatedTag tag (some other) => "@" ++ tag ++ " is deprecated, please use " ++ other
  | .noUrl endpoint => "skipping endpoint " ++ Text.quoted endpoint ++ " without url"
  | .unsupportedVerb verb url => "skipping " ++ verb ++ " " ++ url ++ ": unsupported verb"
  | .noOverride files => "Please create a " ++ Text.join " or " files
  | .missingPath path problem =>
    "Failed to access path: IO error for operation on " ++ path ++ ": " ++ problem.message

/-- The **journal** of a run: the warnings so far, and the deprecated tags already reported. -/
structure Journal where
  warnings : List Warning := []
  reported : List String := []
  deriving DecidableEq, Repr

namespace Journal

/-- Adds a warning. -/
def warn (j : Journal) (w : Warning) : Journal :=
  { j with warnings := j.warnings ++ [w] }

/-- Reports a deprecated tag the first time it is met. -/
def deprecated (j : Journal) (tag : String) (alternative : Option String) : Journal :=
  if j.reported.contains tag then j
  else { warnings := j.warnings ++ [.deprecatedTag tag alternative], reported := tag :: j.reported }

end Journal

/-- A computation that may warn and may fail. -/
abbrev Run := ExceptT Error (StateM Journal)

namespace Run

/-- Writes a warning to the journal. -/
def warn (w : Warning) : Run Unit :=
  modify (·.warn w)

/-- The outcome of a computation and the journal behind it. -/
def outcome {α : Type} (x : Run α) (j : Journal) : Except Error α × Journal :=
  (ExceptT.run x).run j

end Run

end ApiGloss

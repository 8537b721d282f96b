import ApiGloss.OpenApi.Package
import ApiGloss.Record.Registry
import ApiGloss.Resolve.Order

/-!
# The Pipeline

From source text to resolved endpoint records: the source files are read into block records,
the records are cleaned up and the endpoint blocks selected, the references between blocks
are resolved, and the document is built from the records of the selected blocks.
-/

namespace ApiGloss

/-- The stages of a run, each of which can be extended. -/
structure Pipeline where
  registry : Registry := {}
  filters : List PostFilter := Filter.builtin
  resolvers : List Resolver
  /-- The version of blocks that declare none. -/
  defaultVersion : String := "0.0.0"

namespace Pipeline

/-- **The resolved endpoint records** of source files, in order. -/
def endpoints (p : Pipeline) (units : List SourceUnit) : Run (List Json) := do
  let files ← p.registry.parseSources units
  let (files, selected) := Filter.process p.filters files
  match Resolve.process p.defaultVersion p.resolvers files with
  | .error e => throw e
  | .ok files => return Filter.records files selected

/-- **The document** of source files. -/
def generate (p : Pipeline) (units : List SourceUnit) (package : Package) : Run Document := do
  Document.build package.toInfo (← p.endpoints units)

end Pipeline

end ApiGloss

import ApiGloss.Resolve.Names
import ApiGloss.Resolve.References
import ApiGloss.Resolve.Titles

/-!
# Resolving a Corpus

The resolvers run one after the other, because later ones read what earlier ones have
settled: references first, then groups, then the field groups of the four sections, and
names last.
-/

namespace ApiGloss.Resolve

/-- The **built-in resolvers**, in order. -/
def builtin (workDir : String) : List Resolver :=
  referenceKinds.map references ++ [groups workDir] ++ FieldKind.all.map titles ++ [names]

/-- Gathers and settles with one resolver. -/
def runOne (defaultVersion : String) (r : Resolver) (files : List ParsedFile) :
    List ParsedFile × Option Error :=
  r.settle defaultVersion (r.gather defaultVersion files) files

/-- **Runs resolvers in order**; the first failure stops the run. -/
def process (defaultVersion : String) : List Resolver → List ParsedFile →
    Except Error (List ParsedFile)
  | [], files => .ok files
  | r :: rest, files =>
    match runOne defaultVersion r files with
    | (_, some e) => .error e
    | (files, none) => process defaultVersion rest files

end ApiGloss.Resolve

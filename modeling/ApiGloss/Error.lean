import ApiGloss.Text.Lines

/-!
# Errors

Everything that can stop a run, as causes. The wording is in one place, `Error.message`.
-/

namespace ApiGloss

/-- A tag whose content is not what the tag asks for. -/
structure ParameterError where
  message : String
  element : String
  usage : String
  sample : String
  deriving DecidableEq, Repr

/-- Why an element of a block is refused. -/
inductive ElementCause where
  /-- The reader of the tag refuses the content. -/
  | parameter (e : ParameterError)
  /-- The reader of the tag finds nothing. -/
  | emptyResult
  /-- The reader of the tag names no place for its values. -/
  | noPath
  /-- A reference in a block that already holds a definition. -/
  | definitionOrUsage
  /-- A second definition in one block. -/
  | secondDefinition
  /-- The place for the values is taken by something of another shape. -/
  | misplaced (path : String)
  deriving DecidableEq, Repr

/-- Why a reference between blocks cannot be resolved. -/
inductive ReferenceCause where
  | unknownName (name : String)
  | noVersion (name version : String) (defined : List String)
  deriving DecidableEq, Repr

/-- How a tag that refers to other blocks is used, for messages. -/
structure TagUsage where
  element : String
  usage : String
  sample : String
  deriving DecidableEq, Repr

/-- An **error** that stops a run. -/
inductive Error where
  | element (cause : ElementCause) (file : String) (block : Nat) (tag source : String)
  | reference (cause : ReferenceCause) (file : String) (block : Nat) (usage : TagUsage)
  | noFiles (path : String)
  | invalidPattern (pattern : String)
  | packageFile (path : String)
  /-- A record without the shape that is asked for. -/
  | shape
  /-- A file that cannot be read as text. -/
  | unreadable
  deriving DecidableEq, Repr

namespace ElementCause

/-- The sentence for a cause. -/
def message : ElementCause → String
  | .parameter e => e.message
  | .emptyResult => "Empty parser result."
  | .noPath => "Attach path is not defined for this tag."
  | .definitionOrUsage => "Only one definition or usage is allowed in the same block."
  | .secondDefinition => "Only one definition is allowed in the same block."
  | .misplaced path => "Cannot attach values at '" ++ path ++ "'."

/-- How the tag should have been used, if its reader says so. -/
def hints : ElementCause → Option (String × String)
  | .parameter e => some (e.usage, e.sample)
  | _ => none

end ElementCause

namespace ReferenceCause

/-- The sentence for a cause. -/
def message : ReferenceCause → String
  | .unknownName _ =>
    "Referenced group name does not exist / it is not defined with @apiDefine."
  | .noVersion _ _ _ =>
    "Referenced definition has no matching or a higher version. " ++
      "Check version number in referenced define block."

/-- The particulars of a cause. -/
def extra : ReferenceCause → List (String × String)
  | .unknownName name => [("Groupname", name)]
  | .noVersion name version defined =>
    [("Groupname", name), ("Version", version), ("Defined versions", Text.join ", " defined)]

end ReferenceCause

namespace Error

/-- Where an error arose. -/
def place (file : String) (block : Nat) (tag : String) : String :=
  " (file: " ++ file ++ ", block: " ++ toString block ++ ", element: @" ++ tag ++ ")"

/-- The lines on usage; the lines of an example stand below each other. -/
def hintLines (usage sample : String) : String :=
  "\n  usage: " ++ usage ++ "\n  example: " ++ Text.replace "\n" "\n           " sample

/-- The **message** of an error. -/
def message : Error → String
  | .element cause file block tag _ =>
    cause.message ++ place file block tag ++
      match cause.hints with
      | some (usage, sample) => hintLines usage sample
      | none => ""
  | .reference cause file block usage =>
    cause.message ++ place file block usage.element ++
      String.join (cause.extra.map fun (key, value) => "\n  " ++ key ++ ": " ++ value) ++
      hintLines usage.usage usage.sample
  | .noFiles path => "No files found: " ++ path
  | .invalidPattern pattern => "invalid pattern: " ++ pattern
  | .packageFile path =>
    "Can not read: " ++ path ++ ", please check the format (e.g. missing comma)"
  | .shape => "a record does not have the expected shape"
  | .unreadable => "a file could not be read as text"

end Error

end ApiGloss

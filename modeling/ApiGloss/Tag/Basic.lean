import ApiGloss.Error
import ApiGloss.Json.Basic

/-!
# Tag Readers

A tag reader turns the content of a tag into values and says where in the record of the
block these values belong and how they are attached. Readers are ordinary values, so that a
run can be given readers of its own.
-/

namespace ApiGloss

/-- What the readers of one block share: the group of the last field declaration. -/
structure ReadContext where
  currentGroup : Option String := none
  deriving DecidableEq, Repr

/-- How values are attached at their path. -/
inductive AttachMethod where
  /-- As one more item of an array. -/
  | push
  /-- As entries of an object. -/
  | insert
  deriving DecidableEq, Repr

/-- A **tag reader**. -/
structure TagReader where
  /-- Reads the content of the tag. No values means that the tag says nothing, which a block
  does not allow. -/
  read : (content : String) → ReadContext →
    Except ParameterError (Option (Table Json) × ReadContext)
  /-- Where the values belong, given the context after reading. -/
  path : ReadContext → String
  method : AttachMethod := .push
  /-- The tag may not follow a definition in its block. -/
  preventGlobal : Bool := false
  /-- The tag may define something in a block that already holds a definition. -/
  allowMultiple : Bool := false
  /-- The values are stored at the root of the block as well. -/
  extendRoot : Bool := false
  deprecated : Bool := false
  /-- The tag to use instead of a deprecated one. -/
  alternative : Option String := none
  /-- Paths of the values that are rendered as markup. -/
  markdown : List String := []
  /-- Those of the rendered values that lose their paragraph marks. -/
  stripParagraphs : List String := []

end ApiGloss

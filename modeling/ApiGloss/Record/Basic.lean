import ApiGloss.Json.Basic

/-!
# Block Records

What the tags of a block amount to: definitions for other blocks to use (`globals`), the
record of the endpoint (`locals`), values for the block as a whole (`root`), and the position
of the block in its file.
-/

namespace ApiGloss

/-- The **record of a block**. -/
structure BlockRecord where
  globals : Table Json := []
  locals : Table Json := []
  root : Table Json := []
  /-- The position of the block in its file, counted from one; zero while nothing is known. -/
  index : Nat := 0
  deriving Repr, Inhabited

/-- The version that a block declares. -/
def BlockRecord.version? (b : BlockRecord) : Option String :=
  (Table.get? "version" b.root).bind Json.str?

/-- The **records of a file**, in order of its blocks. -/
structure ParsedFile where
  path : String
  blocks : List BlockRecord
  deriving Repr, Inhabited

end ApiGloss

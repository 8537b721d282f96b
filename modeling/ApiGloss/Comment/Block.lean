import ApiGloss.Comment.Language
import ApiGloss.Text.Lines

/-!
# Comment Blocks

The documentation comments of a source text. Line breaks are unified and sealed, the
comments are found by the pattern of the language, and the body of each one is unsealed and
freed of its line decoration.
-/

namespace ApiGloss

/-- How many groups an expression has. -/
def Regex.groups : Regex → Nat
  | .empty | .set _ | .look _ => 0
  | .seq a b | .alt a b => max a.groups b.groups
  | .rep _ _ _ r => r.groups
  | .group index r => max index r.groups

/-- The text of the first of `n` groups that captured something. -/
def Found.body? (f : Found) (n : Nat) : Option (List Char) :=
  (List.range n).findSome? fun i => (f.group? (i + 1)).filter fun t => !t.isEmpty

namespace Block

/-- Writes line breaks so that the dot of a pattern passes over them. -/
def sealBreaks (s : List Char) : List Char :=
  (Chars.unifyBreaks s).map fun c => if c = '\n' then Language.sealedBreak else c

/-- Restores line breaks. -/
def unsealBreaks (s : List Char) : List Char :=
  s.map fun c => if c = Language.sealedBreak then '\n' else c

/-- The sealed bodies of the comments in a sealed text. -/
def bodies (language : Language) (s : List Char) : List (List Char) :=
  (language.blocks.regex.scan s).1.filterMap (·.body? language.blocks.regex.groups)

/-- Restores the line breaks of a body and deletes its line decoration. -/
def strip (language : Language) (body : List Char) : List Char :=
  language.inlines.regex.deleteAll (unsealBreaks body)

/-- The **documentation comments** of a source text. -/
def findAll (language : Language) (src : String) : List String :=
  (bodies language (sealBreaks src.toList)).map fun b => String.ofList (strip language b)

end Block

end ApiGloss

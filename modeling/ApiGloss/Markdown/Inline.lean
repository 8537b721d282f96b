import ApiGloss.Markdown.Characters

/-!
# Text with Markup

The parts of a text inside a block.
-/

namespace ApiGloss.Markdown

/-- A part of a **text with markup**. -/
inductive Inline where
  | text (chars : List Char)
  | softBreak
  | hardBreak
  | code (chars : List Char)
  | html (chars : List Char)
  | emphasis (parts : List Inline)
  | strong (parts : List Inline)
  | deleted (parts : List Inline)
  | link (url title : List Char) (parts : List Inline)
  | image (url title : List Char) (parts : List Inline)
  deriving Inhabited

namespace Inline

/-- A link that shows its own address. -/
def bareLink (url shown : List Char) : Inline :=
  .link url [] [.text shown]

/-- Puts neighbouring texts together. -/
def mergeTexts : List Inline → List Inline
  | [] => []
  | .text a :: rest =>
    match mergeTexts rest with
    | .text b :: more => .text (a ++ b) :: more
    | more => .text a :: more
  | part :: rest => part :: mergeTexts rest

mutual
/-- Changes every text outside of links and images, after putting neighbouring texts
together. -/
def mapTexts (f : List Char → List Inline) : Inline → List Inline
  | .text chars => f chars
  | .emphasis parts => [.emphasis (mapAllTexts f parts)]
  | .strong parts => [.strong (mapAllTexts f parts)]
  | .deleted parts => [.deleted (mapAllTexts f parts)]
  | part => [part]

/-- Changes every text of a sequence of parts. -/
def mapAllTexts (f : List Char → List Inline) : List Inline → List Inline
  | [] => []
  | part :: rest => mapTexts f part ++ mapAllTexts f rest
end

mutual
/-- Puts neighbouring texts together, also inside of emphasis. -/
def joinTexts : Inline → Inline
  | .emphasis parts => .emphasis (mergeTexts (joinAllTexts parts))
  | .strong parts => .strong (mergeTexts (joinAllTexts parts))
  | .deleted parts => .deleted (mergeTexts (joinAllTexts parts))
  | part => part

/-- Puts neighbouring texts together inside of each part. -/
def joinAllTexts : List Inline → List Inline
  | [] => []
  | part :: rest => joinTexts part :: joinAllTexts rest
end

/-- **Changes every maximal text** outside of links and images. -/
def mapMaximalTexts (f : List Char → List Inline) (parts : List Inline) : List Inline :=
  mapAllTexts f (mergeTexts (joinAllTexts parts))

end Inline

end ApiGloss.Markdown

import ApiGloss.Text.Blank
import ApiGloss.Text.Lines

/-!
# Shared Indentation

`Text.unindent` removes the blanks that every non-blank line of a text starts with. Blank
lines do not take part in the comparison; a blank line that lacks the shared blanks loses
its leading blanks. A text without shared indentation is left as it is.
-/

namespace ApiGloss

namespace Chars

/-- The blanks at the start of a line. -/
def indentOf (line : List Char) : List Char :=
  line.takeWhile Text.isBlank

/-- The longest common start of two texts. -/
def commonStart : List Char → List Char → List Char
  | a :: as, b :: bs => if a = b then a :: commonStart as bs else []
  | _, _ => []

/-- The indentation that all non-blank lines share. -/
def sharedIndent (ls : List (List Char)) : List Char :=
  match (ls.filter fun l => !allBlank l).map indentOf with
  | [] => []
  | first :: rest => rest.foldl commonStart first

/-- Removes `indent` from a line, or all leading blanks where the line lacks it. -/
def dropIndent (indent line : List Char) : List Char :=
  if indent.isPrefixOf line then line.drop indent.length else trimStart line

/-- Removes the shared indentation of the lines of a text. -/
def unindent (s : List Char) : List Char :=
  let indent := sharedIndent (lines s)
  if indent = [] then s else unlines ((lines s).map (dropIndent indent))

end Chars

namespace Text

/-- **Removes the shared indentation** of the lines of a text. -/
def unindent (s : String) : String :=
  String.ofList (Chars.unindent s.toList)

end Text

end ApiGloss

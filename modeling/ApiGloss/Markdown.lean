import ApiGloss.Markdown.Html
import ApiGloss.Markdown.Structure

/-!
# Marked-Up Text

Rendering of marked-up text as HTML: paragraphs, headings, lists, quotations, code, raw HTML,
tables, emphasis, links and addresses.
-/

namespace ApiGloss.Markdown

/-- The lines of a text. A carriage return alone also ends a line, and an end of line at the
very end starts no further line. -/
def lines (s : List Char) : List (List Char) :=
  let unified := (Chars.unifyBreaks s).map fun c => if c = '\r' then '\n' else c
  let pieces := Chars.lines unified
  if pieces.getLast? == some [] then pieces.dropLast else pieces

/-- A character as it enters the text; the null character is replaced. -/
def enter (c : Char) : Char :=
  if c.toNat = 0 then Char.ofNat 0xFFFD else c

/-- Drops a byte order mark at the start. -/
def dropMark : List Char → List Char
  | c :: cs => if c.toNat = 0xFEFF then cs else c :: cs
  | [] => []

/-- **Renders marked-up text** as HTML. -/
def render (s : String) : String :=
  let (blocks, refs) := Outline.ofLines (lines (dropMark (s.toList.map enter)))
  String.ofList (Html.layout true (Html.blocks refs false blocks))

end ApiGloss.Markdown

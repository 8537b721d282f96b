import ApiGloss.Record.Attach
import ApiGloss.Text.Blank
import ApiGloss.Text.Lines

/-!
# Rendered Values

Some values of a tag are rendered as markup before they are attached. The rendered text is
put on one line and trimmed, and its paragraph marks are dropped where the tag asks for it.
The renderer is any function on texts.
-/

namespace ApiGloss.Record

/-- A **renderer** of markup. -/
abbrev Renderer := String → String

/-- Writes every line break as a blank; a carriage return with its line feed is one break. -/
def flatten : List Char → List Char
  | [] => []
  | '\r' :: '\n' :: cs => ' ' :: flatten cs
  | c :: cs => (if c = '\n' ∨ c = '\r' then ' ' else c) :: flatten cs

/-- **Renders a text** for a record. -/
def renderText (renderer : Renderer) (stripParagraphs : Bool) (text : String) : String :=
  let line := String.ofList (Chars.trim (flatten (renderer text).toList))
  if stripParagraphs then Text.replace "</p>" "" (Text.replace "<p>" "" line) else line

/-- Renders a value that is a text and not empty. -/
def renderValue (renderer : Renderer) (stripParagraphs : Bool) : Json → Json
  | .str s => .str (if s = "" then s else renderText renderer stripParagraphs s)
  | j => j

/-- Renders the values of a tag that its reader names. -/
def renderFields (renderer : Renderer) (reader : TagReader) (values : Table Json) : Table Json :=
  reader.markdown.foldl
    (fun values field =>
      modifyAt (renderValue renderer (reader.stripParagraphs.contains field))
        (Text.split '.' field) values)
    values

end ApiGloss.Record

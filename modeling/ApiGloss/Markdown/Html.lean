import ApiGloss.Markdown.Block
import ApiGloss.Markdown.InlineReader

/-!
# Marked-Up Text as HTML

Blocks and their texts are written as HTML. Block elements start on fresh lines: a
`Fragment.freshLine` is a line break unless the output is already at the start of a line.
-/

namespace ApiGloss.Markdown

/-- A piece of output. -/
inductive Fragment where
  | text (chars : List Char)
  | freshLine

namespace Html

/-- A fixed text. -/
def lit (s : String) : List Fragment :=
  [.text s.toList]

/-- Writes a text with character references for the characters that mean something in HTML. -/
def escape (s : List Char) : List Char :=
  s.flatMap fun c =>
    match c with
    | '"' => "&quot;".toList
    | '&' => "&amp;".toList
    | '<' => "&lt;".toList
    | '>' => "&gt;".toList
    | c => [c]

/-- Whether a character stays as it is in an address. -/
def isSafe (c : Char) : Bool :=
  c.isAlphanum || "-_.+!*(),%#@?=;:/$~".toList.contains c

/-- A byte in hexadecimal. -/
def hexByte (b : UInt8) : List Char :=
  let digit (n : Nat) : Char := ("0123456789ABCDEF".toList)[n]?.getD '0'
  [digit (b.toNat / 16), digit (b.toNat % 16)]

/-- Writes an address; other characters than the safe ones are written byte by byte. -/
def escapeUrl (url : List Char) : List Char :=
  url.flatMap fun c =>
    if isSafe c then [c]
    else if c = '&' then "&amp;".toList
    else if c = '\'' then "&#x27;".toList
    else (String.singleton c).toUTF8.toList.flatMap fun b => '%' :: hexByte b

/-- The title of a link or an image. -/
def titleAttribute (title : List Char) : List Char :=
  if title = [] then [] else " title=\"".toList ++ escape title ++ ['"']

/-! ### Texts -/

mutual
/-- The text of a part without its markup. -/
def plainPart : Inline → List Char
  | .text chars | .code chars | .html chars => escape chars
  | .softBreak | .hardBreak => [' ']
  | .emphasis parts | .strong parts | .deleted parts => plainParts parts
  | .link _ _ parts | .image _ _ parts => plainParts parts

/-- The text of several parts without their markup. -/
def plainParts : List Inline → List Char
  | [] => []
  | part :: rest => plainPart part ++ plainParts rest
end

mutual
/-- A **part of a text as HTML**. -/
def part : Inline → List Char
  | .text chars => escape chars
  | .softBreak => ['\n']
  | .hardBreak => "<br />\n".toList
  | .code chars => "<code>".toList ++ escape chars ++ "</code>".toList
  | .html chars => chars
  | .emphasis ps => "<em>".toList ++ parts ps ++ "</em>".toList
  | .strong ps => "<strong>".toList ++ parts ps ++ "</strong>".toList
  | .deleted ps => "<del>".toList ++ parts ps ++ "</del>".toList
  | .link url title ps =>
    "<a href=\"".toList ++ escapeUrl url ++ ['"'] ++ titleAttribute title ++ ['>'] ++ parts ps ++
      "</a>".toList
  | .image url title ps =>
    "<img src=\"".toList ++ escapeUrl url ++ "\" alt=\"".toList ++ plainParts ps ++ ['"'] ++
      titleAttribute title ++ " />".toList

/-- Several parts of a text as HTML. -/
def parts : List Inline → List Char
  | [] => []
  | p :: rest => part p ++ parts rest
end

/-- A raw text as HTML. -/
def content (refs : References) (text : List Char) : List Fragment :=
  [.text (parts (Inline.ofText refs text))]

/-! ### Blocks -/

/-- Writes an element around fragments, on a fresh line and with a line break behind it. -/
def element (openTag closeTag : String) (inside : List Fragment) : List Fragment :=
  .freshLine :: lit openTag ++ inside ++ lit closeTag ++ lit "\n"

/-- Writes an element that holds blocks; its tags have lines of their own. -/
def wrapper (openTag closeTag : String) (inside : List Fragment) : List Fragment :=
  .freshLine :: lit openTag ++ lit "\n" ++ inside ++ .freshLine :: lit closeTag ++ lit "\n"

/-- The opening tag of code, which names its language. -/
def codeTag (info : List Char) : List Char :=
  if info = [] then "<code>".toList
  else if info = "math".toList then
    "<code class=\"language-math\" data-math-style=\"display\">".toList
  else
    "<code class=\"language-".toList ++ escape (info.takeWhile fun c => !isSpace c) ++
      "\">".toList

/-- The attribute for the alignment of a cell. -/
def alignAttribute : Alignment → String
  | .unset => ""
  | .left => " align=\"left\""
  | .center => " align=\"center\""
  | .right => " align=\"right\""

/-- The cells of a row. -/
def cells (refs : References) (tag : String) (columns : List Alignment)
    (texts : List (List Char)) : List Fragment :=
  (columns.zip texts).flatMap fun (alignment, text) =>
    .freshLine :: lit ("<" ++ tag ++ alignAttribute alignment ++ ">") ++ content refs text ++
      lit ("</" ++ tag ++ ">")

/-- A row of a table. -/
def row (refs : References) (tag : String) (columns : List Alignment)
    (texts : List (List Char)) : List Fragment :=
  .freshLine :: lit "<tr>" ++ cells refs tag columns texts ++ .freshLine :: lit "</tr>"

/-- A table with its head and its body. -/
def table (refs : References) (columns : List Alignment) (head : List (List Char))
    (rows : List (List (List Char))) : List Fragment :=
  let top :=
    .freshLine :: lit "<thead>\n" ++ row refs "th" columns head ++ .freshLine :: lit "</thead>"
  let body :=
    if rows = [] then []
    else .freshLine :: lit "<tbody>\n" ++ rows.flatMap (row refs "td" columns) ++
      .freshLine :: lit "</tbody>\n"
  wrapper "<table>" "</table>" (top ++ body)

mutual
/-- A **block as HTML**; the paragraphs of a tight list have no tags. -/
def block (refs : References) (isTight : Bool) : Block → List Fragment
  | .paragraph text =>
    if isTight then content refs text else element "<p>" "</p>" (content refs text)
  | .heading level text =>
    let tag := "h" ++ toString level
    element ("<" ++ tag ++ ">") ("</" ++ tag ++ ">") (content refs text)
  | .code info text =>
    .freshLine :: lit "<pre>" ++ [.text (codeTag info), .text (escape text)] ++
      lit "</code></pre>\n"
  | .html text => [.freshLine, .text text, .freshLine]
  | .rule => .freshLine :: lit "<hr />\n"
  | .quote bs => wrapper "<blockquote>" "</blockquote>" (blocks refs false bs)
  | .list (.bullet _) _ tight items => wrapper "<ul>" "</ul>" (blocks refs tight items)
  | .list (.number _) start tight items =>
    let openTag := if start = 1 then "<ol>" else "<ol start=\"" ++ toString start ++ "\">"
    wrapper openTag "</ol>" (blocks refs tight items)
  | .item bs => element "<li>" "</li>" (blocks refs isTight bs)
  | .table columns head rows => table refs columns head rows

/-- Several blocks as HTML. -/
def blocks (refs : References) (isTight : Bool) : List Block → List Fragment
  | [] => []
  | b :: rest => block refs isTight b ++ blocks refs isTight rest
end

/-- Writes fragments; `atStart` says that the output is at the start of a line. -/
def layout : Bool → List Fragment → List Char
  | _, [] => []
  | atStart, .freshLine :: rest => if atStart then layout true rest else '\n' :: layout true rest
  | atStart, .text chars :: rest =>
    chars ++ layout (match chars.getLast? with | some c => c == '\n' | none => atStart) rest

end Html

end ApiGloss.Markdown

import ApiGloss.Markdown.Characters
import ApiGloss.Text.Lines

/-!
# Raw Tags

What counts as raw HTML. Each reader takes the text behind an opening angle bracket and gives
back what follows the tag.
-/

namespace ApiGloss.Markdown.Tag

/-- Whether a character may occur inside the name of a tag. -/
def isNameChar (c : Char) : Bool :=
  c.isAlphanum || c == '-'

/-- Reads the name of a tag. -/
def name? : List Char → Option (List Char)
  | c :: cs => if c.isAlpha then some (cs.dropWhile isNameChar) else none
  | [] => none

/-- Reads the name of an attribute. -/
def attributeName? : List Char → Option (List Char)
  | c :: cs =>
    if c.isAlpha || c == '_' || c == ':' then
      some (cs.dropWhile fun d => d.isAlphanum || d == ':' || d == '.' || d == '_' || d == '-')
    else none
  | [] => none

/-- Whether a character may occur in an attribute value without quotes. -/
def isPlainValue (c : Char) : Bool :=
  !isSpace c && !(['"', '\'', '=', '<', '>', Char.ofNat 0x60].contains c)

/-- Reads up to a closing quote. -/
def quotedValue? (quote : Char) (s : List Char) : Option (List Char) :=
  match s.dropWhile (· != quote) with
  | _ :: rest => some rest
  | [] => none

/-- Reads the value of an attribute. -/
def value? : List Char → Option (List Char)
  | '"' :: cs => quotedValue? '"' cs
  | '\'' :: cs => quotedValue? '\'' cs
  | c :: cs => if isPlainValue c then some (cs.dropWhile isPlainValue) else none
  | [] => none

/-- Reads the attributes and the end of an opening tag; `fuel` bounds the length of the text. -/
def openEnd? : Nat → List Char → Option (List Char)
  | 0, _ => none
  | fuel + 1, s =>
    match trimLeft s with
    | '>' :: rest => some rest
    | '/' :: '>' :: rest => some rest
    | t =>
      if t.length = s.length then none
      else
        match attributeName? t with
        | none => none
        | some u =>
          match trimLeft u with
          | '=' :: v => (value? (trimLeft v)).bind (openEnd? fuel)
          | _ => openEnd? fuel u

/-- Reads an opening tag. -/
def open? (s : List Char) : Option (List Char) :=
  (name? s).bind fun rest => openEnd? (s.length + 1) rest

/-- Reads a closing tag. -/
def close? : List Char → Option (List Char)
  | '/' :: s =>
    match (name? s).map trimLeft with
    | some ('>' :: rest) => some rest
    | _ => none
  | _ => none

/-- Reads an opening or closing tag. -/
def element? (s : List Char) : Option (List Char) :=
  (close? s).or (open? s)

/-- Reads the body of a comment up to its end. -/
def commentBody? : List Char → Option (List Char)
  | '-' :: '-' :: '>' :: rest => some rest
  | '-' :: '-' :: _ :: rest => commentBody? rest
  | '-' :: '-' :: [] => none
  | '-' :: _ :: rest => commentBody? rest
  | _ :: rest => commentBody? rest
  | [] => none

/-- Reads the body of a literal section up to its end. -/
def literalBody? : List Char → Option (List Char)
  | ']' :: ']' :: '>' :: rest => some rest
  | ']' :: ']' :: _ :: rest => literalBody? rest
  | ']' :: ']' :: [] => none
  | ']' :: _ :: rest => literalBody? rest
  | _ :: rest => literalBody? rest
  | [] => none

/-- Reads the body of a processing instruction up to its end. -/
def instructionBody? : List Char → Option (List Char)
  | '?' :: '>' :: rest => some rest
  | '?' :: _ :: rest => instructionBody? rest
  | _ :: rest => instructionBody? rest
  | [] => none

/-- Reads a declaration up to its end. -/
def declaration? : List Char → Option (List Char)
  | c :: cs =>
    if c.isAlpha then
      match cs.dropWhile (· != '>') with
      | _ :: rest => some rest
      | [] => none
    else none
  | [] => none

/-- **Reads raw HTML inside a text**: a comment, a literal section, a declaration, a processing
instruction or a tag. -/
def inline? : List Char → Option (List Char)
  | '!' :: '-' :: '-' :: s =>
    match s with
    | '>' :: rest => some rest
    | '-' :: '>' :: rest => some rest
    | _ => commentBody? s
  | '!' :: '[' :: s => (after? "CDATA[".toList s).bind literalBody?
  | '!' :: s => declaration? s
  | '?' :: s => instructionBody? s
  | s => element? s

/-! ### Blocks of raw HTML -/

/-- How a block of raw HTML ends. -/
inductive BlockEnd where
  /-- At a line that closes one of the literal elements. -/
  | literalElement
  /-- At a line that contains a text. -/
  | contains (text : String)
  /-- At a blank line. -/
  | blankLine
  deriving DecidableEq, Repr

/-- Elements whose content is never read as markup. -/
def literalElements : List String :=
  ["script", "pre", "textarea", "style"]

/-- Elements that start a block of their own. -/
def blockElements : List String :=
  ["address", "article", "aside", "base", "basefont", "blockquote", "body", "caption", "center",
   "col", "colgroup", "dd", "details", "dialog", "dir", "div", "dl", "dt", "fieldset",
   "figcaption", "figure", "footer", "form", "frame", "frameset", "h1", "h2", "h3", "h4", "h5",
   "h6", "head", "header", "hr", "html", "iframe", "legend", "li", "link", "main", "menu",
   "menuitem", "nav", "noframes", "ol", "optgroup", "option", "p", "param", "search", "section",
   "summary", "table", "tbody", "td", "tfoot", "th", "thead", "title", "tr", "track", "ul"]

/-- Whether a text starts with one of some names and the name ends there. -/
def startsWithName (names : List String) (isEnd : List Char → Bool) (s : List Char) : Bool :=
  names.any fun n =>
    match afterCaseless? n.toList s with
    | some rest => isEnd rest
    | none => false

/-- The name of a literal element ends at a space, an angle bracket or the end of the line. -/
def endsLiteralName : List Char → Bool
  | [] => true
  | c :: _ => isSpace c || c == '>'

/-- The name of a block element may also end at the end of an empty element. -/
def endsBlockName : List Char → Bool
  | [] => true
  | '/' :: '>' :: _ => true
  | c :: _ => isSpace c || c == '>'

/-- **How a line starts a block of raw HTML.** A lone tag does so only where no paragraph is
interrupted. -/
def blockStart? (inParagraph : Bool) : List Char → Option BlockEnd
  | '<' :: s =>
    if startsWithName literalElements endsLiteralName s then some .literalElement
    else if (after? "!--".toList s).isSome then some (.contains "-->")
    else if (after? "?".toList s).isSome then some (.contains "?>")
    else if (after? "![CDATA[".toList s).isSome then some (.contains "]]>")
    else if ((after? "!".toList s).bind List.head?).any Char.isAlpha then some (.contains ">")
    else if startsWithName blockElements endsBlockName ((after? "/".toList s).getD s) then
      some .blankLine
    else if !inParagraph && (element? s).any (·.all fun c => isPad c || c == '\x0c') then
      some .blankLine
    else none
  | _ => none

/-- Whether a line closes one of the literal elements. -/
def closesLiteral : List Char → Bool
  | [] => false
  | c :: cs =>
    (c == '<' && literalElements.any fun n =>
      (afterCaseless? ("/" ++ n ++ ">").toList cs).isSome) || closesLiteral cs

/-- Whether a block of raw HTML ends at a line. -/
def BlockEnd.reachedBy (e : BlockEnd) (line : List Char) : Bool :=
  match e with
  | .literalElement => closesLiteral line
  | .contains text => Chars.contains text.toList line
  | .blankLine => false

end ApiGloss.Markdown.Tag

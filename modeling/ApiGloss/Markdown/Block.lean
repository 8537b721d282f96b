import ApiGloss.Markdown.LinkParts
import ApiGloss.Markdown.TableRow
import ApiGloss.Markdown.Tag

/-!
# Blocks

The block structure of marked-up text: what is closed is a `Block`, what still takes lines is
an `OpenBlock`. A closed block inside an open one is a `Child`, which remembers where blank
lines stood, because they decide whether a list is tight.
-/

namespace ApiGloss.Markdown

/-- What the items of a list start with. -/
inductive Marker where
  | bullet (char : Char)
  | number (delimiter : Char)
  deriving DecidableEq, Repr

/-- A **block** of marked-up text. Texts inside it are still raw. -/
inductive Block where
  | paragraph (text : List Char)
  | heading (level : Nat) (text : List Char)
  | code (info text : List Char)
  | html (text : List Char)
  | rule
  | quote (blocks : List Block)
  | list (marker : Marker) (start : Nat) (isTight : Bool) (items : List Block)
  | item (blocks : List Block)
  | table (columns : List Alignment) (head : List (List Char)) (rows : List (List (List Char)))
  deriving Inhabited

/-- The fence around a block of code. -/
structure Fence where
  char : Char
  length : Nat
  /-- How far the opening fence is indented. -/
  indent : Nat
  deriving DecidableEq, Repr

/-- What kind of block is open. -/
inductive OpenKind where
  | document
  | quote
  | list (marker : Marker) (start : Nat)
  /-- An item, with the columns that its text is indented by. -/
  | item (indent : Nat)
  /-- A paragraph, and whether it has been found not to be the head of a table. -/
  | paragraph (noTable : Bool)
  | heading (level : Nat) (isUnderlined : Bool)
  | indentedCode
  | fencedCode (fence : Fence)
  | html (ending : Tag.BlockEnd)
  | rule
  | table (columns : List Alignment) (head : List (List Char)) (rows : List (List (List Char)))

namespace OpenKind

/-- Whether a block may hold another one. -/
def mayHold (parent child : OpenKind) : Bool :=
  match parent, child with
  | .document, .item _ | .quote, .item _ | .item _, .item _ => false
  | .document, _ | .quote, _ | .item _, _ => true
  | .list .., .item _ => true
  | _, _ => false

/-- Whether a block takes whole lines of text. -/
def takesLines : OpenKind → Bool
  | .paragraph _ | .heading .. | .indentedCode | .fencedCode _ => true
  | _ => false

/-- Whether a block is a paragraph. -/
def isParagraph : OpenKind → Bool
  | .paragraph _ => true
  | _ => false

end OpenKind

/-- A closed block inside an open one. -/
structure Child where
  block : Block
  /-- A blank line follows it. -/
  blankAfter : Bool := false
  /-- A blank line follows the last block inside it, for lists and items. -/
  blankAtEnd : Bool := false
  /-- A blank line follows some other block inside it, for items. -/
  blankBetween : Bool := false

/-- Whether a child ends with a blank line. -/
def Child.endsBlank (c : Child) : Bool :=
  c.blankAfter || c.blankAtEnd

/-- An **open block**. -/
structure OpenBlock where
  kind : OpenKind
  /-- The closed blocks inside it, the last one first. -/
  children : List Child := []
  /-- The text so far, backwards. -/
  textBackwards : List Char := []
  /-- Its last line is blank. -/
  lastBlank : Bool := false
  /-- The number of the line that opened it. -/
  openedAt : Nat := 0

namespace OpenBlock

/-- The text so far. -/
def text (b : OpenBlock) : List Char :=
  b.textBackwards.reverse

/-- Adds a line of text. -/
def addLine (b : OpenBlock) (line : List Char) : OpenBlock :=
  { b with textBackwards := '\n' :: (line.reverse ++ b.textBackwards) }

/-- The closed blocks in order. -/
def blocks (b : OpenBlock) : List Block :=
  b.children.reverse.map (·.block)

/-- Whether the last block inside ends with a blank line. -/
def blankAtEnd (b : OpenBlock) : Bool :=
  b.children.head?.any (·.endsBlank)

/-- Whether a list is **tight**: no blank line stands between its items or between two blocks
of an item. -/
def isTight (b : OpenBlock) : Bool :=
  match b.children with
  | [] => true
  | last :: others =>
    !last.blankBetween && others.all fun c => !c.blankBetween && !c.blankAfter && !c.blankAtEnd

/-- Cuts off the blank lines at the end of a text. -/
def dropBlankLines (s : List Char) : List Char :=
  let backwards := s.reverse
  let kept := backwards.dropWhile fun c => isPad c || c == '\n'
  let tail := (backwards.take (backwards.length - kept.length)).reverse
  kept.reverse ++ tail.takeWhile (· != '\n')

/-- The information behind an opening fence. -/
def fenceInfo (line : List Char) : List Char :=
  dropEscapes (trimBoth (Entity.decode line))

/-- **Closes a block.** The definitions of references at the start of a paragraph are taken out
of it; a paragraph with nothing else is no block. -/
def close (refs : References) (b : OpenBlock) : References × Option Child :=
  let plain (block : Block) : Option Child := some { block, blankAfter := b.lastBlank }
  match b.kind with
  | .document => (refs, none)
  | .quote => (refs, plain (.quote b.blocks))
  | .list marker start =>
    (refs, some
      { block := .list marker start b.isTight b.blocks
        blankAfter := b.lastBlank
        blankAtEnd := b.blankAtEnd })
  | .item _ =>
    (refs, some
      { block := .item b.blocks
        blankAfter := b.lastBlank
        blankAtEnd := b.blankAtEnd
        blankBetween := (b.children.drop 1).any (·.endsBlank) })
  | .paragraph _ =>
    let (refs, text) := takeDefinitions refs b.text
    (refs, if text.all isSpace then none else plain (.paragraph text))
  | .heading level _ => (refs, plain (.heading level b.text))
  | .indentedCode => (refs, plain (.code [] (dropBlankLines b.text ++ ['\n'])))
  | .fencedCode _ =>
    let info := b.text.takeWhile (· != '\n')
    (refs, plain (.code (fenceInfo info) (b.text.drop (info.length + 1))))
  | .html _ => (refs, plain (.html b.text))
  | .rule => (refs, plain .rule)
  | .table columns head rows => (refs, plain (.table columns head rows))

end OpenBlock

end ApiGloss.Markdown

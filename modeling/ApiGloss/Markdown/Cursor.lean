import ApiGloss.Markdown.Characters

/-!
# A Place in a Line

While the markers at the start of a line are read, columns count: a tab reaches to the next
multiple of four, and a marker may end in the middle of a tab.
-/

namespace ApiGloss.Markdown

/-- A **place in a line**. -/
structure Cursor where
  /-- The line from here on, without its end. -/
  rest : List Char
  column : Nat := 0
  /-- The place is inside the tab that `rest` starts with. -/
  insideTab : Bool := false

namespace Cursor

/-- How many columns a tab takes. -/
def tabWidth (column : Nat) : Nat :=
  4 - column % 4

/-- How many columns the spaces and tabs at the start of a text take. -/
def padWidth (column : Nat) : List Char → Nat
  | ' ' :: cs => 1 + padWidth (column + 1) cs
  | '\t' :: cs => tabWidth column + padWidth (column + tabWidth column) cs
  | _ => 0

/-- How far the text at a place is indented. -/
def indent (c : Cursor) : Nat :=
  padWidth c.column c.rest

/-- The text at a place without its indentation. -/
def text (c : Cursor) : List Char :=
  c.rest.dropWhile isPad

/-- Whether nothing but spaces and tabs follows. -/
def isBlank (c : Cursor) : Bool :=
  c.text.isEmpty

/-- Whether the text is indented like code. -/
def isIndented (c : Cursor) : Bool :=
  4 ≤ c.indent

/-- Goes one column on. -/
def step (c : Cursor) : Cursor :=
  match c.rest with
  | [] => c
  | '\t' :: cs =>
    if tabWidth c.column = 1 then { rest := cs, column := c.column + 1 }
    else { c with column := c.column + 1, insideTab := true }
  | _ :: cs => { rest := cs, column := c.column + 1 }

/-- Goes a number of columns on. -/
def advance : Nat → Cursor → Cursor
  | 0, c => c
  | n + 1, c => advance n c.step

/-- Goes to the first character that is not indentation. -/
def skipPad (c : Cursor) : Cursor :=
  { rest := c.text, column := c.column + c.indent }

/-- Goes behind `n` characters of the text. -/
def skipText (n : Nat) (c : Cursor) : Cursor :=
  { rest := c.text.drop n, column := c.column + c.indent + n }

/-- Goes behind one column of spaces or tabs, if there is one. -/
def skipOnePad (c : Cursor) : Cursor :=
  match c.rest with
  | ch :: _ => if isPad ch then c.step else c
  | [] => c

/-- Goes to the end of the line. -/
def toEnd (c : Cursor) : Cursor :=
  { rest := [], column := c.column }

/-- The line from a place on; the rest of a tab is written as spaces. -/
def line (c : Cursor) : List Char :=
  if c.insideTab then List.replicate (tabWidth c.column) ' ' ++ c.rest.drop 1 else c.rest

end Cursor

end ApiGloss.Markdown

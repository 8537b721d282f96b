import ApiGloss.Markdown.Characters
import ApiGloss.Text.Lines

/-!
# Rows of Tables

A row is a line cut at its bars. A bar with a backslash before it belongs to its cell. The
line that separates the head of a table from its body says how its columns are aligned.
-/

namespace ApiGloss.Markdown

/-- How a column is aligned. -/
inductive Alignment where
  | unset
  | left
  | center
  | right
  deriving DecidableEq, Repr

namespace TableRow

/-- A space inside a row. -/
def isCellSpace (c : Char) : Bool :=
  isPad c || c == '\x0b' || c == '\x0c'

/-- The text of a cell and what follows it: the cell ends at a bar without a backslash before
it and at the end of the line. `escaped` says that a backslash has just been read. -/
def takeCell (escaped : Bool) : List Char → List Char × List Char
  | [] => ([], [])
  | c :: cs =>
    if c == '\n' || (c == '|' && !escaped) then ([], c :: cs)
    else
      let (cell, rest) := takeCell (c == '\\') cs
      (c :: cell, rest)

/-- Takes the backslashes off the bars of a text. -/
def unescapeBars : List Char → List Char
  | '\\' :: '|' :: cs => '|' :: unescapeBars cs
  | c :: cs => c :: unescapeBars cs
  | [] => []

/-- The text that a cell stands for. -/
def cleanCell (cell : List Char) : List Char :=
  trimBoth (unescapeBars cell)

/-- Skips a bar and the space behind it. -/
def skipBar : List Char → List Char
  | '|' :: cs => cs.dropWhile isCellSpace
  | s => s

/-- What follows the end of a line, if only space stands before it. -/
def rowEnd? (s : List Char) : Option (List Char) :=
  match s.dropWhile isCellSpace with
  | '\n' :: rest => some rest
  | _ => none

/-- A row at the end of a text of several lines. -/
structure Row where
  cells : List (List Char)
  /-- How many characters of the text stand before the row. -/
  start : Nat

/-- Reads the cells of the last line of a text. `total` is the length of the whole text, `start`
the place of the line, `cells` its cells so far, and `fuel` bounds the length of the text. -/
def readCells (total : Nat) : Nat → Nat → List (List Char) → List Char → Option Row
  | 0, start, cells, s => if s = [] ∧ cells ≠ [] then some ⟨cells, start⟩ else none
  | fuel + 1, start, cells, s =>
    if s = [] then if cells = [] then none else some ⟨cells, start⟩
    else
      let (cell, rest) := takeCell false s
      let next := skipBar rest
      let cells :=
        if cell ≠ [] ∨ next.length < rest.length then cells ++ [cleanCell cell] else cells
      if next.length < rest.length then readCells total fuel start cells next
      else
        match rowEnd? rest with
        | none => none
        | some [] => if cells = [] then none else some ⟨cells, start⟩
        | some more => readCells total fuel (total - more.length) [] (skipBar more)

/-- **Reads the last line of a text as a row**; every line of the text ends in a line break. -/
def read? (s : List Char) : Option Row :=
  readCells s.length s.length 0 [] (skipBar s)

/-- The cells of a single line, which is given without its end. -/
def ofLine? (line : List Char) : Option (List (List Char)) :=
  (read? (line ++ ['\n'])).map (·.cells)

/-! ### The line below the head -/

/-- Reads the mark of one column. -/
def mark? (s : List Char) : Option (List Char) :=
  let s := s.dropWhile isCellSpace
  let s := match s with | ':' :: rest => rest | _ => s
  match s with
  | '-' :: rest =>
    let rest := rest.dropWhile (· == '-')
    let rest := match rest with | ':' :: more => more | _ => rest
    some (rest.dropWhile isCellSpace)
  | _ => none

/-- Whether further marks follow, each behind a bar, up to the end of the line; `fuel` bounds the
length of the text. -/
def marksFollow : Nat → List Char → Bool
  | 0, _ => false
  | _ + 1, [] => true
  | fuel + 1, '|' :: rest =>
    match mark? rest with
    | some more => marksFollow fuel more
    | none => rest.all isCellSpace
  | _ + 1, _ => false

/-- Whether a line separates the head of a table from its body. -/
def isSeparator (line : List Char) : Bool :=
  match mark? (match line with | '|' :: rest => rest | _ => line) with
  | some rest => marksFollow (line.length + 1) rest
  | none => false

/-- The alignment that the mark of a column asks for. -/
def alignment (mark : List Char) : Alignment :=
  match mark.head? == some ':', mark.getLast? == some ':' with
  | true, true => .center
  | true, false => .left
  | false, true => .right
  | false, false => .unset

end TableRow

end ApiGloss.Markdown

import ApiGloss.Markdown.Block
import ApiGloss.Markdown.Cursor

/-!
# Block Structure

Lines are read one after the other. Each line first continues the open blocks, from the
outside to the inside, as far as it can; then it may open new blocks; what is left of it is
text. A paragraph also goes on when blocks around it do not, as long as the line opens
nothing.

`Outline.ofLines` reads all lines; the references that paragraphs define are collected on the
way.
-/

namespace ApiGloss.Markdown

/-- The **open blocks**, the innermost first, with the references found so far. -/
structure Outline where
  /-- The open blocks inside the document. -/
  inner : List OpenBlock := []
  document : OpenBlock := { kind := .document }
  references : References := []

namespace Outline

/-! ### Closing and opening -/

/-- The innermost open block. -/
def tip (o : Outline) : OpenBlock :=
  o.inner.head?.getD o.document

/-- Changes the innermost open block. -/
def modifyTip (f : OpenBlock → OpenBlock) (o : Outline) : Outline :=
  match o.inner with
  | b :: rest => { o with inner := f b :: rest }
  | [] => { o with document := f o.document }

/-- Puts a closed block into the innermost open one. -/
def addChild (c : Child) (o : Outline) : Outline :=
  o.modifyTip fun b => { b with children := c :: b.children }

/-- Closes the innermost block; the document stays open. -/
def closeTip (o : Outline) : Outline :=
  match o.inner with
  | [] => o
  | b :: rest =>
    let (references, child) := b.close o.references
    let o := { o with inner := rest, references }
    match child with
    | some c => o.addChild c
    | none => o

/-- Closes a number of blocks. -/
def closeTips : Nat → Outline → Outline
  | 0, o => o
  | n + 1, o => closeTips n o.closeTip

/-- Closes blocks until the innermost one may hold a new block; `fuel` bounds their number. -/
def makeRoom (kind : OpenKind) : Nat → Outline → Outline
  | 0, o => o
  | fuel + 1, o => if o.tip.kind.mayHold kind then o else makeRoom kind fuel o.closeTip

/-- Opens a block. -/
def openBlock (kind : OpenKind) (line : Nat) (o : Outline) : Outline :=
  let o := makeRoom kind o.inner.length o
  { o with inner := { kind, openedAt := line } :: o.inner }

/-! ### Continuing open blocks -/

/-- How a line goes on with an open block. -/
inductive Continuation where
  | continued (cursor : Cursor)
  | ended
  /-- The line is the closing fence of the block. -/
  | fenceClosed

/-- Whether a text closes a fence. -/
def closesFence (fence : Fence) (s : List Char) : Bool :=
  fence.length ≤ (s.takeWhile (· == fence.char)).length &&
    (s.dropWhile (· == fence.char)).all isPad

/-- Skips at most `n` columns of spaces and tabs. -/
def skipPads : Nat → Cursor → Cursor
  | 0, c => c
  | n + 1, c => skipPads n c.skipOnePad

/-- **How a line goes on** with an open block; `isEmpty` says that there is nothing in it yet. -/
def continuation (b : OpenBlock) (isEmpty : Bool) (c : Cursor) : Continuation :=
  match b.kind with
  | .document | .list .. => .continued c
  | .quote =>
    if !c.isIndented && c.text.head? == some '>' then .continued (c.skipText 1).skipOnePad
    else .ended
  | .item indent =>
    if indent ≤ c.indent then .continued (c.advance indent)
    else if c.isBlank && !isEmpty then .continued c.skipPad
    else .ended
  | .paragraph _ => if c.isBlank then .ended else .continued c
  | .heading .. | .rule => .ended
  | .indentedCode =>
    if c.isIndented then .continued (c.advance 4)
    else if c.isBlank then .continued c.skipPad
    else .ended
  | .fencedCode fence =>
    if !c.isIndented && closesFence fence c.text then .fenceClosed
    else .continued (skipPads fence.indent c)
  | .html ending => if ending = .blankLine && c.isBlank then .ended else .continued c
  | .table .. => if (TableRow.ofLine? c.text).isSome then .continued c else .ended

/-- How far a line goes on with the open blocks. -/
structure Continued where
  cursor : Cursor
  /-- How many of the innermost blocks it leaves. -/
  left : Nat
  fenceClosed : Bool := false

/-- Goes on with open blocks, given from the outside to the inside. -/
def continueBlocks (c : Cursor) : List OpenBlock → Continued
  | [] => { cursor := c, left := 0 }
  | b :: rest =>
    match continuation b (b.children.isEmpty && rest.isEmpty) c with
    | .continued c => continueBlocks c rest
    | .ended => { cursor := c, left := rest.length + 1 }
    | .fenceClosed => { cursor := c, left := rest.length + 1, fenceClosed := true }

/-! ### Opening new blocks -/

/-- What is known of a line while blocks are opened. -/
structure LineState where
  outline : Outline
  cursor : Cursor
  /-- How many of the innermost open blocks the line has left. -/
  left : Nat
  lineNumber : Nat
  /-- The line was a row of the innermost table. -/
  isRow : Bool := false

namespace LineState

/-- The innermost block that the line goes on with. -/
def container (s : LineState) : OpenBlock :=
  ((s.outline.inner.drop s.left).head?).getD s.outline.document

/-- Opens a block behind which the cursor stands; the blocks that the line has left are
closed. -/
def openAt (s : LineState) (kind : OpenKind) (cursor : Cursor) : LineState :=
  { s with
    outline := (s.outline.closeTips s.left).openBlock kind s.lineNumber
    left := 0
    cursor }

/-- Opens a quotation. -/
def quote? (s : LineState) : Option LineState :=
  if !s.cursor.isIndented && s.cursor.text.head? == some '>' then
    some (s.openAt .quote (s.cursor.skipText 1).skipOnePad)
  else none

/-- Opens a heading that starts with hash signs. -/
def heading? (s : LineState) : Option LineState :=
  let text := s.cursor.text
  let level := (text.takeWhile (· == '#')).length
  let rest := text.drop level
  if !s.cursor.isIndented && 1 ≤ level && level ≤ 6 && (rest.isEmpty || rest.head?.any isPad) then
    some (s.openAt (.heading level false)
      (s.cursor.skipText (level + (rest.takeWhile isPad).length)))
  else none

/-- Opens a block of code between fences. -/
def fence? (s : LineState) : Option LineState :=
  let text := s.cursor.text
  match text with
  | [] => none
  | char :: _ =>
    let length := (text.takeWhile (· == char)).length
    let info := text.drop length
    if !s.cursor.isIndented && 3 ≤ length &&
        (char == '~' || (char == Char.ofNat 0x60 && !info.contains char)) then
      let indent := s.cursor.rest.length - text.length
      some (s.openAt (.fencedCode { char, length, indent }) (s.cursor.skipText length))
    else none

/-- Opens a block of raw HTML; its first line belongs to it as a whole. -/
def html? (s : LineState) : Option LineState :=
  if s.cursor.isIndented then none
  else
    (Tag.blockStart? s.container.kind.isParagraph s.cursor.text).map fun ending =>
      s.openAt (.html ending) s.cursor

/-- The level of the heading that a line below a paragraph makes of it. -/
def underline? (text : List Char) : Option Nat :=
  let isLine (char : Char) : Bool :=
    text.head? == some char && (text.dropWhile (· == char)).all isPad
  if isLine '=' then some 1 else if isLine '-' then some 2 else none

/-- Makes a heading of a paragraph. If the paragraph only defines references, the line is the
first line of a new one. -/
def underlined? (s : LineState) : Option LineState :=
  if s.cursor.isIndented || !s.container.kind.isParagraph then none
  else
    (underline? s.cursor.text).map fun level =>
      let (references, text) := takeDefinitions s.outline.references s.container.text
      let hasText := !text.all isSpace
      let outline := { s.outline with references }.modifyTip fun b =>
        { b with
          kind := if hasText then .heading level true else b.kind
          textBackwards := text.reverse }
      { s with outline, cursor := if hasText then s.cursor.toEnd else s.cursor }

/-- Whether a text is a horizontal rule. -/
def isRule (text : List Char) : Bool :=
  let marks := text.filter fun c => !isPad c
  match marks with
  | c :: _ => (c == '*' || c == '-' || c == '_') && 3 ≤ marks.length && marks.all (· == c)
  | [] => false

/-- Opens a horizontal rule. -/
def rule? (s : LineState) : Option LineState :=
  if !s.cursor.isIndented && isRule s.cursor.text then some (s.openAt .rule s.cursor.toEnd)
  else none

/-- Reads the marker of an item: the marker, its number and its length. A paragraph is
interrupted only by an item with text, and by a number only if it is one. -/
def marker? (inParagraph : Bool) (text : List Char) : Option (Marker × Nat × Nat) :=
  let mayStart (start : Nat) (rest : List Char) : Bool :=
    (rest.isEmpty || rest.head?.any isSpace) &&
      !(inParagraph && (start != 1 || rest.all isPad))
  match text with
  | [] => none
  | c :: cs =>
    if c == '*' || c == '-' || c == '+' then
      if mayStart 1 cs then some (.bullet c, 1, 1) else none
    else
      let digits := (text.takeWhile Char.isDigit).take 9
      let start := Entity.number 10 digits
      match digits, text.drop digits.length with
      | _ :: _, d :: rest =>
        if (d == '.' || d == ')') && mayStart start rest then
          some (.number d, start, digits.length + 1)
        else none
      | _, _ => none

/-- How deep lists can be nested by one line. -/
def maxListDepth : Nat := 100

/-- Opens an item, and a list around it unless it goes on with one. -/
def item? (s : LineState) (depth : Nat) : Option LineState :=
  if s.cursor.isIndented || maxListDepth ≤ depth then none
  else
    (marker? s.container.kind.isParagraph s.cursor.text).map fun (marker, start, length) =>
      let indent := s.cursor.indent
      let behind := s.cursor.skipText length
      let pads := min 6 behind.indent
      let isWide := pads < 1 || 5 ≤ pads || (behind.advance pads).rest.isEmpty
      let width := if isWide then length + 1 else length + pads
      let cursor := if isWide then behind.skipOnePad else behind.advance pads
      let goesOn := match s.container.kind with
        | .list m _ => decide (m = marker)
        | _ => false
      let s := if goesOn then s else s.openAt (.list marker start) s.cursor
      s.openAt (.item (indent + width)) cursor

/-- Opens a block of indented code; a paragraph is not interrupted by it. -/
def indentedCode? (s : LineState) (mayBeLazy : Bool) : Option LineState :=
  if s.cursor.isIndented && !mayBeLazy && !s.cursor.isBlank then
    some (s.openAt .indentedCode (s.cursor.advance 4))
  else none

/-- Makes a table of a paragraph whose last line is its head. What stands before the head stays
a paragraph. -/
def tableHead? (s : LineState) : Option LineState :=
  match s.container.kind with
  | .paragraph false =>
    if !TableRow.isSeparator s.cursor.text then none
    else
      let noTable := { s with
        outline := s.outline.modifyTip fun b => { b with kind := .paragraph true } }
      match TableRow.ofLine? s.cursor.text, TableRow.read? s.container.text with
      | some marks, some row =>
        if marks.length != row.cells.length then some noTable
        else
          let table : OpenBlock :=
            { kind := .table (marks.map TableRow.alignment) row.cells []
              openedAt := s.lineNumber }
          let before := trimBoth (TableRow.unescapeBars (s.container.text.take row.start))
          let outline := { s.outline with inner := s.outline.inner.drop 1 }
          let outline := if row.start = 0 then outline
            else outline.addChild { block := .paragraph before }
          some { s with
            outline := { outline with inner := table :: outline.inner }
            cursor := s.cursor.toEnd }
      | _, _ => some noTable
  | _ => none

/-- Adds a row to a table. Missing cells are empty, surplus cells are dropped. -/
def tableRow? (s : LineState) : Option LineState :=
  match s.container.kind with
  | .table columns head rows =>
    if s.cursor.isBlank then none
    else
      (TableRow.ofLine? s.cursor.text).map fun cells =>
        let n := columns.length
        let cells := cells.take n ++ List.replicate (n - cells.length) []
        { s with
          outline := (s.outline.closeTips s.left).modifyTip fun b =>
            { b with kind := .table columns head (rows ++ [cells]) }
          left := 0
          cursor := s.cursor.toEnd
          isRow := true }
  | _ => none

/-- Opens one block, if the line starts one here. -/
def openNext? (s : LineState) (depth : Nat) (mayBeLazy : Bool) : Option LineState :=
  s.quote? <|> s.heading? <|> s.fence? <|> s.html? <|> s.underlined? <|> s.rule? <|>
    s.item? depth <|> s.indentedCode? mayBeLazy <|>
    (if s.cursor.isIndented then none else s.tableHead? <|> s.tableRow?)

/-- Whether blocks can be opened inside a block. -/
def isLiteral (kind : OpenKind) : Bool :=
  match kind with
  | .indentedCode | .fencedCode _ | .html _ => true
  | _ => false

/-- Opens blocks as long as the line starts some; `fuel` bounds their number. -/
def openAll : Nat → Nat → Bool → LineState → LineState
  | 0, _, _, s => s
  | fuel + 1, depth, mayBeLazy, s =>
    if s.isRow || isLiteral s.container.kind then s
    else
      match s.openNext? depth mayBeLazy with
      | none => s
      | some s =>
        if s.container.kind.takesLines then s else openAll fuel (depth + 1) false s

/-! ### Text -/

/-- Whether a blank line counts as the last line of a block. The line that opens an item does
not. -/
def countsBlank (b : OpenBlock) (isEmpty : Bool) (lineNumber : Nat) : Bool :=
  match b.kind with
  | .quote | .heading .. | .rule | .fencedCode _ => false
  | .item _ => !isEmpty || b.openedAt != lineNumber
  | _ => true

/-- Notes in all open blocks whether they now end with a blank line. -/
def noteBlank (s : LineState) : LineState :=
  let isBlank := s.cursor.isBlank
  let mark (i : Nat) (b : OpenBlock) : OpenBlock :=
    if i + 1 = s.left then { b with lastBlank := b.lastBlank || isBlank }
    else if i < s.left then b
    else if i = s.left && !s.isRow then
      let children := match b.children with
        | c :: rest =>
          if isBlank && s.left = 0 then { c with blankAfter := true } :: rest else c :: rest
        | [] => []
      let isEmpty := s.left = 0 && b.children.isEmpty
      { b with children, lastBlank := isBlank && countsBlank b isEmpty s.lineNumber }
    else { b with lastBlank := false }
  let inner := s.outline.inner.mapIdx mark
  let document := mark s.outline.inner.length s.outline.document
  { s with outline := { s.outline with inner, document } }

/-- Cuts closing hash signs off the text of a heading. -/
def chopHashes (text : List Char) : List Char :=
  let backwards := (trimRight text).reverse
  let rest := backwards.dropWhile (· == '#')
  if rest.length < backwards.length && rest.head?.all isPad then
    (rest.dropWhile isSpace).reverse
  else backwards.reverse

/-- Adds what is left of a line as text. -/
def addText (s : LineState) : Outline :=
  let c := s.cursor
  if s.left != 0 && !c.isBlank && s.outline.tip.kind.isParagraph then
    s.outline.modifyTip (·.addLine c.line)
  else
    let o := s.outline.closeTips s.left
    match o.tip.kind with
    | .indentedCode | .fencedCode _ => o.modifyTip (·.addLine c.line)
    | .html ending =>
      let o := o.modifyTip (·.addLine c.line)
      if ending.reachedBy c.text then o.closeTip else o
    | .heading _ false => if c.isBlank then o else o.modifyTip (·.addLine (chopHashes c.text))
    | kind =>
      if c.isBlank then o
      else if kind.takesLines then o.modifyTip (·.addLine c.text)
      else (o.openBlock (.paragraph false) s.lineNumber).modifyTip (·.addLine c.text)

end LineState

/-- **Reads a line**, given without its end. -/
def addLine (o : Outline) (lineNumber : Nat) (line : List Char) : Outline :=
  let found := continueBlocks { rest := line } o.inner.reverse
  if found.fenceClosed then o.closeTips found.left
  else
    let s : LineState := { outline := o, cursor := found.cursor, left := found.left, lineNumber }
    let s := s.openAll (line.length + 2) 1 o.tip.kind.isParagraph
    s.noteBlank.addText

/-- Reads lines, the first of which has a number. -/
def addLines (o : Outline) : Nat → List (List Char) → Outline
  | _, [] => o
  | n, line :: lines => addLines (o.addLine n line) (n + 1) lines

/-- **Reads all lines** of a text: its blocks and the references that it defines. -/
def ofLines (lines : List (List Char)) : List Block × References :=
  let o := addLines {} 1 lines
  let o := o.closeTips o.inner.length
  (o.document.blocks, o.references)

end Outline

end ApiGloss.Markdown

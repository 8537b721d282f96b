import ApiGloss.Markdown.Autolink
import ApiGloss.Markdown.Emphasis
import ApiGloss.Markdown.LinkParts
import ApiGloss.Markdown.Tag

/-!
# Reading Text with Markup

A text is read from left to right into pieces: finished parts, runs of emphasis marks, and
brackets that may still become links. A closing bracket looks for its partner and for the
target of a link behind it; then everything between the brackets is resolved. What is left at
the end is resolved as a whole.
-/

namespace ApiGloss.Markdown

/-- An opening **bracket** that may start a link or an image. -/
structure Bracket where
  isImage : Bool
  /-- The text behind it. -/
  rest : List Char
  /-- Another bracket has been opened behind it. -/
  hasInner : Bool := false

/-- A bracket as text. -/
def Bracket.text (b : Bracket) : Inline :=
  .text (if b.isImage then ['!', '['] else ['['])

/-- A **piece** of a text. -/
inductive Piece where
  | token (t : Emphasis.Token)
  | bracket (b : Bracket)

/-- A piece that is no link. -/
def Piece.toToken : Piece → Emphasis.Token
  | .token t => t
  | .bracket b => .part b.text

/-- What is known while a text is read. -/
structure InlineReader where
  /-- What has been read, backwards. -/
  before : List Char := []
  rest : List Char
  /-- The pieces so far, backwards. -/
  pieces : List Piece := []
  /-- A bracket has been opened and none closed since; addresses are no links then. -/
  inBrackets : Bool := false
  /-- No open bracket may become a link, because there is a link inside of it. -/
  noLinks : Bool := false

namespace InlineReader

/-- Goes behind `n` characters. -/
def skip (n : Nat) (r : InlineReader) : InlineReader :=
  { r with before := (r.rest.take n).reverse ++ r.before, rest := r.rest.drop n }

/-- Goes to where only `rest` is left. -/
def skipTo (rest : List Char) (r : InlineReader) : InlineReader :=
  r.skip (r.rest.length - rest.length)

/-- Adds a finished part. -/
def add (part : Inline) (r : InlineReader) : InlineReader :=
  { r with pieces := .token (.part part) :: r.pieces }

/-- Reads `n` characters as text. -/
def readText (n : Nat) (r : InlineReader) : InlineReader :=
  (r.skip n).add (.text (r.rest.take n))

/-! ### Breaks, code, escapes -/

/-- Reads the end of a line; two spaces before it make the break hard. -/
def readBreak (r : InlineReader) : InlineReader :=
  let part := match r.before with
    | ' ' :: ' ' :: _ => Inline.hardBreak
    | _ => Inline.softBreak
  let r := (r.skip 1).add part
  r.skip (r.rest.takeWhile isPad).length

/-- The longest run of backticks that can enclose code. -/
def maxTicks : Nat := 80

/-- The text up to a run of exactly `n` backticks, and what follows the run; `fuel` bounds the
length of the text. -/
def upToTicks? (n : Nat) : Nat → List Char → Option (List Char × List Char)
  | 0, _ => none
  | fuel + 1, s =>
    let plain := s.takeWhile (· != Char.ofNat 0x60)
    let ticks := (s.drop plain.length).takeWhile (· == Char.ofNat 0x60)
    let rest := s.drop (plain.length + ticks.length)
    if ticks.isEmpty then none
    else if ticks.length = n then some (plain, rest)
    else (upToTicks? n fuel rest).map fun (code, rest) => (plain ++ ticks ++ code, rest)

/-- The code that a text between backticks stands for. -/
def cleanCode (s : List Char) : List Char :=
  let s := s.map fun c => if c == '\n' then ' ' else c
  if s.any (· != ' ') && s.head? == some ' ' && s.getLast? == some ' ' then
    (s.drop 1).dropLast
  else s

/-- Reads code between backticks. -/
def readCode (r : InlineReader) : InlineReader :=
  let n := (r.rest.takeWhile (· == Char.ofNat 0x60)).length
  let found := if maxTicks < n then none else upToTicks? n r.rest.length (r.rest.drop n)
  match found with
  | some (code, rest) => (r.skipTo rest).add (.code (cleanCode code))
  | none => r.readText n

/-- Reads a backslash: an escaped punctuation mark, a hard break, or itself. -/
def readBackslash (r : InlineReader) : InlineReader :=
  match r.rest.drop 1 with
  | '\n' :: _ =>
    let r := (r.skip 2).add .hardBreak
    r.skip (r.rest.takeWhile isPad).length
  | c :: _ =>
    if Text.isAsciiPunctuation c then (r.skip 2).add (.text [c]) else r.readText 1
  | [] => r.readText 1

/-- Reads a character reference. -/
def readReference (r : InlineReader) : InlineReader :=
  match Entity.read? (r.rest.drop 1) with
  | some (chars, rest) => (r.skipTo rest).add (.text chars)
  | none => r.readText 1

/-! ### Angle brackets -/

/-- Whether a character may occur in a scheme. -/
def isSchemeChar (c : Char) : Bool :=
  c.isAlphanum || c == '.' || c == '+' || c == '-'

/-- Reads an address behind an angle bracket, up to the closing one. -/
def address? (s : List Char) : Option (List Char × List Char) :=
  let scheme := s.takeWhile isSchemeChar
  if !s.head?.any Char.isAlpha || scheme.length < 2 || 32 < scheme.length then none
  else
    match s.drop scheme.length with
    | ':' :: more =>
      let path := more.takeWhile fun c => 0x20 < c.toNat && c != '<' && c != '>'
      match more.drop path.length with
      | '>' :: rest => some (scheme ++ ':' :: path, rest)
      | _ => none
    | _ => none

/-- Whether a text is a label of a host name. -/
def isHostLabel (s : List Char) : Bool :=
  1 ≤ s.length && s.length ≤ 63 && s.all (fun c => c.isAlphanum || c == '-') &&
    s.head? != some '-' && s.getLast? != some '-'

/-- Reads a mail address behind an angle bracket, up to the closing one. -/
def mailAddress? (s : List Char) : Option (List Char × List Char) :=
  let isUserChar (c : Char) : Bool :=
    c.isAlphanum || ".!#$%&'*+/=?^_\x60\x7b|\x7d~-".toList.contains c
  let user := s.takeWhile isUserChar
  match user, s.drop user.length with
  | _ :: _, '@' :: more =>
    let host := more.takeWhile (· != '>')
    match more.drop host.length with
    | '>' :: rest =>
      if (Chars.split '.' host).all isHostLabel then some (user ++ '@' :: host, rest) else none
    | _ => none
  | _, _ => none

/-- Reads an opening angle bracket: an address, raw HTML, or itself. -/
def readAngle (r : InlineReader) : InlineReader :=
  let s := r.rest.drop 1
  match address? s with
  | some (url, rest) =>
    let url := Entity.decode url
    (r.skipTo rest).add (.bareLink url url)
  | none =>
    match mailAddress? s with
    | some (mail, rest) =>
      let mail := Entity.decode mail
      (r.skipTo rest).add (.bareLink ("mailto:".toList ++ mail) mail)
    | none =>
      match Tag.inline? s with
      | some rest => (r.skipTo rest).add (.html (r.rest.take (r.rest.length - rest.length)))
      | none => r.readText 1

/-! ### Addresses in plain text -/

/-- Takes `n` characters off the texts at the end of the pieces. -/
def dropTextEnd : Nat → List Piece → List Piece
  | 0, pieces => pieces
  | n, .token (.part (.text chars)) :: rest =>
    if n < chars.length then .token (.part (.text (chars.take (chars.length - n)))) :: rest
    else dropTextEnd (n - chars.length) rest
  | _, pieces => pieces

/-- Reads a colon, which may belong to an address. -/
def readColon (r : InlineReader) : InlineReader :=
  match if r.inBrackets then none else Autolink.atColon? r.before r.rest with
  | some (scheme, address) =>
    let url := scheme ++ address
    ({ r with pieces := dropTextEnd scheme.length r.pieces }.skip address.length).add
      (.bareLink url url)
  | none => r.readText 1

/-- Reads a letter that may start an address. -/
def readW (r : InlineReader) : InlineReader :=
  match if r.inBrackets then none else Autolink.atWww? r.before r.rest with
  | some address =>
    (r.skip address.length).add (.bareLink ("http://".toList ++ address) address)
  | none => r.readText 1

/-! ### Emphasis marks -/

/-- The first character that is no tilde; at the end of the text it counts as a line break. -/
def neighbour (s : List Char) : Char :=
  ((s.dropWhile (· == '~')).head?).getD '\n'

/-- Reads a run of emphasis marks. -/
def readMarks (char : Char) (r : InlineReader) : InlineReader :=
  let n := (r.rest.takeWhile (· == char)).length
  let run := Emphasis.Run.between char n (neighbour r.before) (neighbour (r.rest.drop n))
  if (run.canOpen || run.canClose) && (char != '~' || n ≤ 2) then
    { r.skip n with pieces := .token (.run run) :: r.pieces }
  else r.readText n

/-! ### Brackets -/

/-- Notes that a bracket is opened inside of the innermost one. -/
def noteInner : List Piece → List Piece
  | [] => []
  | .bracket b :: rest => .bracket { b with hasInner := true } :: rest
  | p :: rest => p :: noteInner rest

/-- Reads an opening bracket. -/
def readOpening (isImage : Bool) (r : InlineReader) : InlineReader :=
  let r := r.skip (if isImage then 2 else 1)
  { r with
    pieces := .bracket { isImage, rest := r.rest } :: noteInner r.pieces
    inBrackets := true
    noLinks := if isImage then r.noLinks else false }

/-- The pieces behind the innermost bracket in order, the bracket, and the pieces before it
backwards. -/
def innermost? (inner : List Emphasis.Token) :
    List Piece → Option (List Emphasis.Token × Bracket × List Piece)
  | [] => none
  | .bracket b :: rest => some (inner, b, rest)
  | .token t :: rest => innermost? (t :: inner) rest

/-- Makes text of the innermost bracket. -/
def dropBracket : List Piece → List Piece
  | [] => []
  | .bracket b :: rest => .token (.part b.text) :: rest
  | p :: rest => p :: dropBracket rest

/-- Reads a target in parentheses: the target and what follows it. -/
def target? : List Char → Option (Target × List Char)
  | '(' :: s =>
    match destination? (trimLeft s) with
    | none => none
    | some (url, afterUrl) =>
      let t := trimLeft afterUrl
      let (title, rest) :=
        if t.length = afterUrl.length then ([], t) else (title? t).getD ([], t)
      match trimLeft rest with
      | ')' :: rest => some ({ url := cleanDestination url, title := cleanTitle title }, rest)
      | _ => none
  | _ => none

/-- The target that a label behind the brackets refers to, or else the text between them. -/
def reference? (refs : References) (b : Bracket) (s : List Char) :
    Option (Target × List Char) :=
  let (label, rest) := (label? s).getD ([], s)
  let label :=
    if label = [] && !b.hasInner then b.rest.take (b.rest.length - s.length - 1) else label
  if label = [] then none else (refs.find? (normalLabel label)).map (·, rest)

/-- **Reads a closing bracket.** -/
def readClosing (refs : References) (r : InlineReader) : InlineReader :=
  let r := { r with inBrackets := false }
  match innermost? [] r.pieces with
  | none => r.readText 1
  | some (inner, b, outer) =>
    let behind := r.rest.drop 1
    let plain := { r with pieces := dropBracket r.pieces }.readText 1
    if !b.isImage && r.noLinks then plain
    else
      match (target? behind).or (reference? refs b behind) with
      | none => plain
      | some (target, rest) =>
        let parts := Emphasis.resolve inner
        let part := if b.isImage then .image target.url target.title parts
          else .link target.url target.title parts
        { (r.skipTo rest) with
          pieces := .token (.part part) :: outer
          noLinks := r.noLinks || !b.isImage }

/-! ### The whole text -/

/-- Characters that end a plain text. -/
def isSpecial (c : Char) : Bool :=
  "\n_*\"\\&<[]!:w~".toList.contains c || c == Char.ofNat 0x60

/-- Reads plain text up to the next special character. Space at the end of a line does not
belong to it, nor does space behind a hard break. -/
def readPlain (r : InlineReader) : InlineReader :=
  let n := 1 + ((r.rest.drop 1).takeWhile fun c => !isSpecial c).length
  let chars := r.rest.take n
  let chars := if (r.rest.drop n).head? == some '\n' then trimRight chars else chars
  let chars := match r.pieces with
    | .token (.part .hardBreak) :: _ => trimLeft chars
    | _ => chars
  (r.skip n).add (.text chars)

/-- Reads what stands at the start of the rest. -/
def readNext (refs : References) (c : Char) (r : InlineReader) : InlineReader :=
  match c with
  | '\n' => r.readBreak
  | '\\' => r.readBackslash
  | '&' => r.readReference
  | '<' => r.readAngle
  | ':' => r.readColon
  | 'w' => r.readW
  | '*' | '_' | '~' => r.readMarks c
  | '[' => r.readOpening false
  | ']' => r.readClosing refs
  | '!' =>
    match r.rest with
    | _ :: '[' :: '^' :: _ => r.readText 1
    | _ :: '[' :: _ => r.readOpening true
    | _ => r.readText 1
  | _ =>
    if c == Char.ofNat 0x60 then r.readCode
    else if isSpecial c then r.readText 1
    else r.readPlain

/-- Reads the rest; `fuel` bounds its length. -/
def readAll (refs : References) : Nat → InlineReader → InlineReader
  | 0, r => r
  | fuel + 1, r =>
    match r.rest with
    | [] => r
    | c :: _ => readAll refs fuel (r.readNext refs c)

end InlineReader

/-- **Reads a text with markup.** -/
def Inline.ofText (refs : References) (text : List Char) : List Inline :=
  let text := trimRight text
  let r := InlineReader.readAll refs text.length { rest := text }
  Inline.mapMaximalTexts Autolink.linkMails
    (Emphasis.resolve (r.pieces.reverse.map Piece.toToken))

end ApiGloss.Markdown

import ApiGloss.Markdown.Characters
import ApiGloss.Markdown.Entity

/-!
# Parts of Links

Destinations, titles and labels, which occur in links and in the definitions of references.
Each reader gives back the part and what follows it.

Labels are compared without regard to case and to the width of blanks: `normalLabel` is the
common form of all labels that count as equal.
-/

namespace ApiGloss.Markdown

/-! ### Destinations -/

/-- Reads a destination up to its closing angle bracket. -/
def bracketedDestination? : List Char → Option (List Char × List Char)
  | [] => none
  | '>' :: rest => some ([], rest)
  | '\\' :: c :: cs => (bracketedDestination? cs).map fun (d, rest) => ('\\' :: c :: d, rest)
  | c :: cs =>
    if c == '\n' || c == '<' then none
    else (bracketedDestination? cs).map fun (d, rest) => (c :: d, rest)

/-- Reads a destination without angle brackets; `depth` counts its open parentheses. -/
def plainDestination? (depth : Nat) : List Char → Option (List Char × List Char)
  | [] => none
  | '\\' :: c :: cs =>
    if Text.isAsciiPunctuation c then
      (plainDestination? depth cs).map fun (d, rest) => ('\\' :: c :: d, rest)
    else (plainDestination? depth (c :: cs)).map fun (d, rest) => ('\\' :: d, rest)
  | c :: cs =>
    if c == '(' then
      if 32 ≤ depth then none
      else (plainDestination? (depth + 1) cs).map fun (d, rest) => (c :: d, rest)
    else if c == ')' then
      if depth = 0 then some ([], c :: cs)
      else (plainDestination? (depth - 1) cs).map fun (d, rest) => (c :: d, rest)
    else if isSpace c || isControl c then
      if depth = 0 then some ([], c :: cs) else none
    else (plainDestination? depth cs).map fun (d, rest) => (c :: d, rest)

/-- **Reads a destination.** Something must follow it. -/
def destination? : List Char → Option (List Char × List Char)
  | '<' :: cs =>
    match bracketedDestination? cs with
    | some (_, []) => none
    | found => found
  | [] => none
  | c :: cs => if isSpace c || isControl c then none else plainDestination? 0 (c :: cs)

/-- The address that a destination stands for. -/
def cleanDestination (d : List Char) : List Char :=
  dropEscapes (Entity.decode (trimBoth d))

/-! ### Titles -/

/-- Reads up to a closing mark that no backslash precedes, or else up to the last closing mark.
An unescaped `stop` ends the search. `last` is the end found so far, and `read` is what has
been read, backwards. -/
def titleBody? (close stop : Char) (read : List Char)
    (last : Option (List Char × List Char)) : List Char → Option (List Char × List Char)
  | [] => last
  | c :: cs =>
    let escaped := read.head? == some '\\'
    if c == close then
      if escaped then titleBody? close stop (c :: read) (some (read.reverse, cs)) cs
      else some (read.reverse, cs)
    else if c == stop && !escaped then last
    else titleBody? close stop (c :: read) last cs

/-- **Reads a title** between quotes or parentheses. -/
def title? : List Char → Option (List Char × List Char)
  | '"' :: cs => titleBody? '"' '"' [] none cs
  | '\'' :: cs => titleBody? '\'' '\'' [] none cs
  | '(' :: cs => titleBody? ')' '(' [] none cs
  | _ => none

/-- The text that a title stands for. -/
def cleanTitle (t : List Char) : List Char :=
  dropEscapes (Entity.decode t)

/-! ### Labels -/

/-- Reads a label up to its closing bracket; `room` bounds its size. -/
def labelBody? : Nat → List Char → Option (List Char × List Char)
  | _, [] => none
  | _, ']' :: rest => some ([], rest)
  | _, '[' :: _ => none
  | room, '\\' :: c :: cs =>
    if Text.isAsciiPunctuation c then
      if room < 2 then none
      else (labelBody? (room - 2) cs).map fun (l, rest) => ('\\' :: c :: l, rest)
    else if room < 1 then none
    else (labelBody? (room - 1) (c :: cs)).map fun (l, rest) => ('\\' :: l, rest)
  | room, c :: cs =>
    if room < c.utf8Size then none
    else (labelBody? (room - c.utf8Size) cs).map fun (l, rest) => (c :: l, rest)

/-- **Reads a label** between brackets. -/
def label? : List Char → Option (List Char × List Char)
  | '[' :: cs => (labelBody? 1000 cs).map fun (l, rest) => (trimBoth l, rest)
  | _ => none

/-- Writes every run of blanks as one space. -/
def collapseBlanks : Bool → List Char → List Char
  | _, [] => []
  | afterBlank, c :: cs =>
    if Text.isBlank c then
      if afterBlank then collapseBlanks true cs else ' ' :: collapseBlanks true cs
    else c :: collapseBlanks false cs

/-- The **common form of equal labels**. -/
def normalLabel (l : List Char) : List Char :=
  foldCase (collapseBlanks false (trimBoth l))

/-! ### Definitions of references -/

/-- Where a link leads, and its title. -/
structure Target where
  url : List Char
  title : List Char
  deriving DecidableEq, Repr

/-- The **references** that a text defines, by normal label. -/
abbrev References := List (List Char × Target)

/-- Defines a reference; the first definition of a label stays. -/
def References.define (refs : References) (label : List Char) (target : Target) : References :=
  if refs.any (·.1 == label) then refs else refs ++ [(label, target)]

/-- Where a label leads. -/
def References.find? (refs : References) (label : List Char) : Option Target :=
  (List.find? (fun r => r.1 == label) refs).map Prod.snd

/-- Skips spaces and tabs, with at most one line break. -/
def skipBreak (s : List Char) : List Char :=
  match s.dropWhile isPad with
  | '\n' :: rest => rest.dropWhile isPad
  | rest => rest

/-- What follows the end of a line, if only spaces and tabs stand before it. -/
def lineEnd? (s : List Char) : Option (List Char) :=
  match s.dropWhile isPad with
  | [] => some []
  | '\n' :: rest => some rest
  | _ => none

/-- Reads the title of a definition and the end of its line. A title that something follows
on its line is no title. -/
def definitionTitle? (s : List Char) : Option (List Char × List Char) :=
  let t := skipBreak s
  let titled := if t.length = s.length then none else title? t
  let bare := (lineEnd? s).map fun rest => ([], rest)
  match titled with
  | some (title, rest) =>
    match lineEnd? rest with
    | some rest => some (title, rest)
    | none => bare
  | none => bare

/-- **Reads the definition of a reference.** -/
def definition? (s : List Char) : Option (List Char × Target × List Char) := do
  let (label, rest) ← label? s
  if label = [] then none
  match rest with
  | ':' :: rest =>
    let (url, rest) ← destination? (skipBreak rest)
    let (title, rest) ← definitionTitle? rest
    some (normalLabel label, { url := cleanDestination url, title := cleanTitle title }, rest)
  | _ => none

/-- Takes the definitions at the start of a text; `fuel` bounds its length. -/
def takeDefinitionsAux : Nat → References → List Char → References × List Char
  | 0, refs, s => (refs, s)
  | fuel + 1, refs, s =>
    match definition? s with
    | none => (refs, s)
    | some (label, target, rest) =>
      takeDefinitionsAux fuel (if label = [] then refs else refs.define label target) rest

/-- **Takes the definitions** at the start of a text. -/
def takeDefinitions (refs : References) (s : List Char) : References × List Char :=
  takeDefinitionsAux s.length refs s

end ApiGloss.Markdown

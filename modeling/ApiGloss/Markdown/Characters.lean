import ApiGloss.Text.Blank
import ApiGloss.Text.Case
import ApiGloss.Text.Punctuation

/-!
# Character Classes of Marked-Up Text

Markup is made of ASCII characters; only the neighbours of emphasis marks and the names of
link targets are judged by the classes of all scripts.
-/

namespace ApiGloss.Markdown

/-- A space or a tab. -/
def isPad (c : Char) : Bool :=
  c == ' ' || c == '\t'

/-- An ASCII space character. -/
def isSpace (c : Char) : Bool :=
  c == ' ' || (0x09 ≤ c.toNat && c.toNat ≤ 0x0D)

/-- An ASCII control character. -/
def isControl (c : Char) : Bool :=
  c.toNat < 0x20 || c.toNat == 0x7F

/-- Removes ASCII space at the start. -/
def trimLeft (s : List Char) : List Char :=
  s.dropWhile isSpace

/-- Removes ASCII space at the end. -/
def trimRight (s : List Char) : List Char :=
  (s.reverse.dropWhile isSpace).reverse

/-- Removes ASCII space at both ends. -/
def trimBoth (s : List Char) : List Char :=
  trimRight (trimLeft s)

/-- Takes a backslash off every ASCII punctuation mark behind it. -/
def dropEscapes : List Char → List Char
  | '\\' :: c :: cs =>
    if Text.isAsciiPunctuation c then c :: dropEscapes cs else '\\' :: dropEscapes (c :: cs)
  | c :: cs => c :: dropEscapes cs
  | [] => []

/-- What is left of a text behind an expected start. -/
def after? : List Char → List Char → Option (List Char)
  | [], s => some s
  | _ :: _, [] => none
  | p :: ps, c :: cs => if p = c then after? ps cs else none

/-- What is left of a text behind an expected start, whose letters may be of either case. -/
def afterCaseless? : List Char → List Char → Option (List Char)
  | [], s => some s
  | _ :: _, [] => none
  | p :: ps, c :: cs => if p.toLower = c.toLower then afterCaseless? ps cs else none

/-- The common form of all texts that differ only in case. -/
def foldCase (s : List Char) : List Char :=
  s.flatMap fun c =>
    match foldExpansions.find? fun e => e.1 == c.toNat with
    | some (_, cs) => cs.map fun n => Text.fold (Char.ofNat n)
    | none => [Text.fold c]
where
  /-- Characters whose common form has several characters. -/
  foldExpansions : List (Nat × List Nat) :=
    (0x1E9E, [0x53, 0x53]) :: (0x130, [0x69, 0x307]) :: Text.upperExpansions

end ApiGloss.Markdown

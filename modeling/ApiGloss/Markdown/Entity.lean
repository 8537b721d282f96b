import ApiGloss.Markdown.Characters
import ApiGloss.Markdown.EntityNames
import ApiGloss.Text.Lines

/-!
# Character References

A character can be written by its number or by a name, between an ampersand and a semicolon.
`Entity.read?` reads what stands behind the ampersand.
-/

namespace ApiGloss.Markdown.Entity

/-- The value of a hexadecimal digit. -/
def hexValue? (c : Char) : Option Nat :=
  if c.isDigit then some (c.toNat - '0'.toNat)
  else if 'a' ≤ c ∧ c ≤ 'f' then some (c.toNat - 'a'.toNat + 10)
  else if 'A' ≤ c ∧ c ≤ 'F' then some (c.toNat - 'A'.toNat + 10)
  else none

/-- The number that digits spell. -/
def number (base : Nat) (digits : List Char) : Nat :=
  digits.foldl (fun n c => base * n + (hexValue? c).getD 0) 0

/-- The named characters. -/
def names : List (String × List Char) :=
  (nameLines.flatMap (Text.split ' ')).filterMap fun entry =>
    match Text.split '=' entry with
    | [name, codes] =>
      some (name, (Text.split '+' codes).map fun code => Char.ofNat (number 16 code.toList))
    | _ => none

/-- The characters with a name. -/
def named? (name : List Char) : Option (List Char) :=
  let name := String.ofList name
  (names.find? fun e => e.1 == name).map Prod.snd

/-- The longest name. -/
def maxNameLength : Nat := 31

/-- The character with a number; numbers of no character stand for the replacement
character. -/
def ofNumber (n : Nat) : Char :=
  if n = 0 ∨ (0xD800 ≤ n ∧ n ≤ 0xE000) ∨ 0x110000 ≤ n then Char.ofNat 0xFFFD else Char.ofNat n

/-- Reads digits up to a semicolon. -/
def readNumber? (base maxDigits : Nat) (isDigit : Char → Bool) (s : List Char) :
    Option (List Char × List Char) :=
  let digits := s.takeWhile isDigit
  match s.dropWhile isDigit with
  | ';' :: rest =>
    if digits.isEmpty || maxDigits < digits.length then none
    else some ([ofNumber (number base digits)], rest)
  | _ => none

/-- Reads a name up to a semicolon. -/
def readName? (s : List Char) : Option (List Char × List Char) :=
  let name := s.takeWhile fun c => c != ';' && c != ' '
  match s.drop name.length with
  | ';' :: rest =>
    if name.length < 2 || maxNameLength < name.length then none
    else (named? name).map fun cs => (cs, rest)
  | _ => none

/-- **Reads a character reference** behind its ampersand: the characters that it stands for,
and what follows it. -/
def read? (s : List Char) : Option (List Char × List Char) :=
  match s with
  | '#' :: 'x' :: rest | '#' :: 'X' :: rest =>
    readNumber? 16 6 (fun c => (hexValue? c).isSome) rest
  | '#' :: rest => readNumber? 10 7 Char.isDigit rest
  | _ => readName? s

/-- Replaces the character references in a text; `fuel` bounds its length. -/
def decodeAll : Nat → List Char → List Char
  | 0, s => s
  | _ + 1, [] => []
  | fuel + 1, '&' :: cs =>
    match read? cs with
    | some (chars, rest) => chars ++ decodeAll fuel rest
    | none => '&' :: decodeAll fuel cs
  | fuel + 1, c :: cs => c :: decodeAll fuel cs

/-- **Replaces all character references** in a text. -/
def decode (s : List Char) : List Char :=
  decodeAll s.length s

end ApiGloss.Markdown.Entity

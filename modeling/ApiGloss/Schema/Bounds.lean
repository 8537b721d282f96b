import ApiGloss.Json.Number
import ApiGloss.Pattern.Search

/-!
# Bounds

The size of a field bounds its values. For numbers it is written `min-max`, where the hyphen
is also the minus sign; for texts it is written `min..max` and bounds the length. Either end
may be left out. A bound that is not a number in range is absent.
-/

namespace ApiGloss.Bounds

open Regex

/-- Blanks. -/
def blanks : Regex := star (cls .blank)

/-- Digits of any script. -/
def digits : Regex := plus (cls .digit)

/-- A number with an optional sign and fraction. -/
def signed : Regex :=
  sequence [opt (char '-'), digits, opt (sequence [char '.', digits])]

/-- The expression for bounds of numbers; groups 1 and 2 are the ends. -/
def numericExpression : Regex :=
  sequence
    [.look .startText, blanks, opt (group 1 signed), blanks, char '-', blanks,
     opt (group 2 signed), blanks, .look .endText]

/-- The expression for bounds of lengths; groups 1 and 2 are the ends. -/
def lengthExpression : Regex :=
  sequence
    [.look .startText, blanks, opt (group 1 digits), blanks, char '.', char '.', blanks,
     opt (group 2 digits), blanks, .look .endText]

/-- The natural number below `2 ^ 64` that a text of ASCII digits spells. -/
def length? (s : List Char) : Option Nat :=
  if s ≠ [] ∧ s.all Char.isDigit then
    let n := s.foldl (fun n c => n * 10 + Json.digitValue c) 0
    if n ≤ Json.maxUnsigned then some n else none
  else none

/-- The two ends of a match. -/
def ends {α : Type} (e : Regex) (read? : List Char → Option α) (size : String) :
    Option α × Option α :=
  match e.find? size.toList with
  | some m => ((m.group? 1).bind read?, (m.group? 2).bind read?)
  | none => (none, none)

/-- The **bounds of a number**. -/
def numeric (size : String) : Option Json.Number × Option Json.Number :=
  ends numericExpression (fun s => Json.Number.parse? (String.ofList s)) size

/-- The **bounds of a length**. -/
def length (size : String) : Option Nat × Option Nat :=
  ends lengthExpression length? size

end ApiGloss.Bounds

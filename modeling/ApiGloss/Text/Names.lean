import ApiGloss.Text.Blank
import ApiGloss.Text.Case
import ApiGloss.Text.Word

/-!
# Names Made from Text

Capitalising a word and making identifiers out of free text.
-/

namespace ApiGloss

namespace Chars

/-- Writes one `_` for every run of blanks. -/
def underscoreBlanks : List Char → List Char
  | [] => []
  | c :: cs =>
    if Text.isBlank c then
      match cs with
      | [] => ['_']
      | d :: _ => if Text.isBlank d then underscoreBlanks cs else '_' :: underscoreBlanks cs
    else c :: underscoreBlanks cs

end Chars

namespace Text

/-- Upper-cases the first character and keeps the rest. -/
def upperFirst (s : String) : String :=
  match s.toList with
  | [] => ""
  | c :: cs => String.ofList (upperChar c ++ cs)

/-- Writes `_` for every character that is not a plain word character. -/
def replaceNonWord (s : String) : String :=
  String.ofList (s.toList.map fun c => if isPlainWord c then c else '_')

/-- Writes one `_` for every run of blanks. -/
def underscoreBlanks (s : String) : String :=
  String.ofList (Chars.underscoreBlanks s.toList)

end Text

end ApiGloss

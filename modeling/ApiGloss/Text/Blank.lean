import ApiGloss.Text.Ranges

/-!
# Blanks and Trimming

The white space of all scripts, and the removal of blanks at the ends of a text. The list
functions live in `Chars`, the text functions in `Text`.

* `Text.isBlank` contains every blank of `Char.isWhitespace` (`isBlank_of_isWhitespace`);
* `Chars.trim` removes exactly the blanks at both ends.
-/

namespace ApiGloss

namespace Text

/-- The blanks of all scripts. -/
def blankRanges : List (Nat × Nat) :=
  [(0x9, 0xD), (0x20, 0x20), (0x85, 0x85), (0xA0, 0xA0), (0x1680, 0x1680),
   (0x2000, 0x200A), (0x2028, 0x2029), (0x202F, 0x202F), (0x205F, 0x205F), (0x3000, 0x3000)]

/-- A **blank**: a white-space character of any script, line breaks included. -/
def isBlank (c : Char) : Bool :=
  inRanges blankRanges c

/-- A blank that is not a line break. -/
def isInlineBlank (c : Char) : Bool :=
  isBlank c && c != '\n'

/-- The blanks of the standard library are blanks. -/
theorem isBlank_of_isWhitespace {c : Char} (h : c.isWhitespace = true) : isBlank c = true := by
  simp only [Char.isWhitespace, Bool.or_eq_true, decide_eq_true_eq] at h
  rcases h with ((rfl | rfl) | rfl) | rfl <;> decide

end Text

namespace Chars

open Text

/-- Removes the blanks at the start. -/
def trimStart (s : List Char) : List Char :=
  s.dropWhile isBlank

/-- Removes the blanks at the end. -/
def trimEnd (s : List Char) : List Char :=
  (s.reverse.dropWhile isBlank).reverse

/-- Removes the blanks at both ends. -/
def trim (s : List Char) : List Char :=
  trimEnd (trimStart s)

/-- Whether a text holds blanks only. -/
def allBlank (s : List Char) : Bool :=
  s.all isBlank

end Chars

namespace Text

/-- Removes the blanks at the start. -/
def trimStart (s : String) : String :=
  String.ofList (Chars.trimStart s.toList)

/-- Removes the blanks at the end. -/
def trimEnd (s : String) : String :=
  String.ofList (Chars.trimEnd s.toList)

/-- Removes the blanks at both ends. -/
def trim (s : String) : String :=
  String.ofList (Chars.trim s.toList)

end Text

end ApiGloss

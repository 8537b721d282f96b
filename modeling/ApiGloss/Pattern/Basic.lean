import ApiGloss.Pattern.Reader
import ApiGloss.Pattern.Search

/-!
# Patterns

A pattern is a regular expression together with the text it was read from.

Which texts are patterns, and what they match, is settled by whoever compiles them. A part of the
program that only asks whether its patterns match takes the compiler as a parameter
(`Pattern.Compiler`). The compiler that comes with the program reads them with `Pattern.ofText?`,
whose syntax is not complete.
-/

namespace ApiGloss

/-- A **pattern**: an expression and its written form. -/
structure Pattern where
  text : String
  regex : Regex

namespace Pattern

/-- The pattern that a text spells. -/
def ofText? (text : String) : Option Pattern :=
  (read? text).map fun regex => ⟨text, regex⟩

/-- Whether a pattern matches somewhere in a text. -/
def matches? (p : Pattern) (s : String) : Bool :=
  p.regex.matches? s.toList

/-- A **compiler** says which texts are patterns and, for each of them, in which texts it matches. -/
abbrev Compiler := String → Option (String → Bool)

/-- The compiler that reads patterns with `ofText?`. -/
def compile : Compiler :=
  fun text => (ofText? text).map matches?

end Pattern

end ApiGloss

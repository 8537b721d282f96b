import ApiGloss.Error
import ApiGloss.Pattern.Basic
import ApiGloss.Table
import ApiGloss.Text.Case

/-!
# Comment Languages

How documentation comments look in a source language is given by two patterns: one finds a
whole comment in the source text, the other finds the decoration to delete from its lines.
The first is applied to a text whose line breaks are written as `Language.sealedBreak`, so
that the dot can pass over them.

Languages are looked up by key: the extension of a file with its dot, in lower case, or
`default` for everything without an entry of its own. The built-in patterns are given as
expressions, each beside its written form.
-/

namespace ApiGloss

/-- The **patterns of a language**. -/
structure Language where
  /-- Finds a comment; its body is the first group that captured something. -/
  blocks : Pattern
  /-- Finds the decoration of lines. -/
  inlines : Pattern

namespace Language

/-- Stands for a line break while comments are searched. -/
def sealedBreak : Char := '\uffff'

/-- The key of the entry for all other languages. -/
def defaultKey : String := "default"

/-- Reads the two patterns of a language. -/
def ofTexts (blocks inlines : String) : Except Error Language := do
  let compile (text : String) : Except Error Pattern :=
    match Pattern.ofText? text with
    | some p => .ok p
    | none => .error (.invalidPattern text)
  let blocks ← compile blocks
  let inlines ← compile inlines
  return ⟨blocks, inlines⟩

/-! ### Built-in languages -/

open Regex

/-- A comment between two delimiters: an optional line break, the body in group `index`, an
optional line break and blanks. The body is as short as possible, but not empty. -/
def delimited (index : Nat) (opening closing : List Regex) : List Regex :=
  opening ++
    [opt (char sealedBreak), group index (lazyPlus (.set .dot)), opt (char sealedBreak),
     opt (star (cls .blank))] ++ closing

/-- The written form of the parts of `delimited` between the delimiters. -/
def bodyText : String :=
  "\\x\x7bFFFF\x7d?(.+?)\\x\x7bFFFF\x7d?(?:\\s*)?"

/-- Comments between `/**` and `*/`. -/
def starBlocks : Pattern where
  text := "/\\*\\*" ++ bodyText ++ "\\*/"
  regex := sequence (delimited 1 (chars "/**") (chars "*/"))

/-- Line decoration: blanks, a mark in group 2, and one optional blank. -/
def marked (mark : String) : Regex :=
  sequence [.look .startLine, opt (group 1 (star (cls .blank))), group 2 (sequence (chars mark)),
    opt (char ' ')]

/-- Lines that start with a star. -/
def starInlines : Pattern where
  text := "(?m)^(\\s*)?(\\*)[ ]?"
  regex := marked "*"

/-- Lines that start with a hash sign. -/
def hashInlines : Pattern where
  text := "(?m)^(\\s*)?(#)[ ]?"
  regex := marked "#"

/-- The start of an annotated text: a tag, blanks, an optional sigil and a delimiter. -/
def annotated (quotes : String) : List Regex :=
  chars "@apidoc" ++
    [star (cls .blank),
     opt (sequence [char '~', .set (.union (.char 's') (.char 'S'))])] ++ chars quotes

/-- Comments of any language without patterns of its own. -/
def general : Language := ⟨starBlocks, starInlines⟩

/-- Texts after an `@apidoc` annotation, in double or single quotes. -/
def annotatedText : Language where
  blocks :=
    { text := "@apidoc\\s*(?:~[sS])?\"\"\"" ++ bodyText ++ "\"\"\"" ++
        "|@apidoc\\s*(?:~[sS])?'''" ++ bodyText ++ "'''"
      regex := choice
        [sequence (delimited 1 (annotated "\"\"\"") (chars "\"\"\"")),
         sequence (delimited 2 (annotated "'''") (chars "'''"))] }
  inlines :=
    { text := "(?m)^(\\t*)?"
      regex := sequence [.look .startLine, opt (group 1 (star (char '\t')))] }

/-- Long comments between double square brackets. -/
def longBracket : Language where
  blocks :=
    { text := "--\\[\\[" ++ bodyText ++ "--\\]\\]"
      regex := sequence (delimited 1 (chars "--[[") (chars "--]]")) }
  inlines := starInlines

/-- Hash-and-star comments, or comments between two words at a line start. -/
def hashOrWords (opening closing : String) : Language where
  blocks :=
    { text := "#\\*\\*" ++ bodyText ++ "#\\*|" ++ opening ++ bodyText ++ closing
      regex := choice
        [sequence (delimited 1 (chars "#**") (chars "#*")),
         sequence (delimited 2 (chars opening) (chars closing))] }
  inlines := hashInlines

/-- Texts in triple double quotes. -/
def tripleQuoted : Language where
  blocks :=
    { text := "\"\"\"" ++ bodyText ++ "\"\"\""
      regex := sequence (delimited 1 (chars "\"\"\"") (chars "\"\"\"")) }
  inlines :=
    { text := "(?m)^[ \\t]*"
      regex := sequence [.look .startLine, star (.set (.union (.char ' ') (.char '\t')))] }

/-- Comments between triple hash signs. -/
def tripleHash : Language where
  blocks :=
    { text := "###" ++ bodyText ++ "###"
      regex := sequence (delimited 1 (chars "###") (chars "###")) }
  inlines := hashInlines

/-- Comments between percent signs with braces. -/
def percentBraces : Language where
  blocks :=
    { text := "%\\\x7b" ++ bodyText ++ "%\\\x7d"
      regex := sequence (delimited 1 (chars "%\x7b") (chars "%\x7d")) }
  inlines :=
    { text := "(?m)^(\\s*)?(%)[ ]?"
      regex := marked "%" }

/-- Comments between four semicolons. -/
def fourSemicolons : Language where
  blocks :=
    { text := ";;;;" ++ bodyText ++ ";;;;"
      regex := sequence (delimited 1 (chars ";;;;") (chars ";;;;")) }
  inlines :=
    { text := "(?m)^(\\s*)?(;;)[ ]?"
      regex := marked ";;" }

/-- The built-in languages by key. -/
def builtin : Table Language :=
  [(defaultKey, general),
   (".ex", annotatedText), (".exs", annotatedText),
   (".lua", longBracket),
   (".pm", hashOrWords "=pod" "=cut"), (".pl", hashOrWords "=pod" "=cut"),
   (".rb", hashOrWords "=begin" "=end"),
   (".py", tripleQuoted),
   (".coffee", tripleHash),
   (".erl", percentBraces),
   (".clj", fourSemicolons)]

end Language

/-- The languages in use, and the one for all keys without an entry. -/
structure LanguageTable where
  fallback : Language
  entries : Table Language

namespace LanguageTable

/-- The built-in languages. -/
def builtin : LanguageTable :=
  ⟨Language.general, Language.builtin⟩

/-- Adds or replaces a language; keys are in lower case. -/
def add (t : LanguageTable) (key : String) (language : Language) : LanguageTable :=
  let key := Text.lower key
  { fallback := if key = Language.defaultKey then language else t.fallback
    entries := Table.insert key language t.entries }

/-- The language under a key, or the fallback. -/
def get (t : LanguageTable) (key : String) : Language :=
  (Table.get? key t.entries).getD t.fallback

/-- Whether a key has an entry of its own. -/
def contains (t : LanguageTable) (key : String) : Bool :=
  Table.contains key t.entries

end LanguageTable

end ApiGloss

import ApiGloss.Field.Declaration
import ApiGloss.Pattern.Search
import ApiGloss.Text.Indent
import ApiGloss.Text.Runs

/-!
# The Grammar of Field Declarations

A declaration is written

`(group) {Type{size}=allowed,values} [name=default] description`

where everything but the name may be left out, and the brackets mark an optional field. The
grammar is one regular expression in four parts; of several readings the preferred match
counts. `FieldDecl.parse?` reads a declaration with it.

Allowed values are a list between commas or blanks, or in quotes if the first value is.
-/

namespace ApiGloss.FieldDecl

open Regex

/-! ### The expression -/

/-- A union of sets. -/
def setOf : List CharSet → CharSet
  | [] => .none
  | s :: rest => rest.foldl .union s

/-- Blanks. -/
def blanks : Regex := star (cls .blank)

/-- Any character, line breaks included. -/
def anyChar : Regex := .set .all

/-- Letters and digits. -/
def alphanumeric : List CharSet :=
  [.range 'a' 'z', .range 'A' 'Z', .range '0' '9']

/-- The characters of a type. -/
def typeChars : CharSet :=
  setOf (alphanumeric ++
    ['$', '(', ')', '#', ':', '.', '/', '\\', '[', ']', '_', '|', '-'].map .char)

/-- The characters of a name. -/
def nameChars : CharSet :=
  setOf (alphanumeric ++ ['$', ':', '.', '/', '\\', '_', '-'].map .char)

/-- The characters of an index behind a name. -/
def indexChars : CharSet :=
  setOf (alphanumeric ++ ['.', '/', '\\', '_', '-'].map .char)

/-- The group in parentheses. Group 1 is its text. -/
def groupPart : List Regex :=
  [blanks,
   opt (sequence [char '(', blanks, .group 1 (lazyPlus anyChar), blanks, char ')', blanks])]

/-- The type in braces, with an optional size in braces and optional allowed values. Groups
2, 3 and 4 are their texts. -/
def typePart : List Regex :=
  [blanks,
   opt (sequence
     [char '{', blanks, .group 2 (plus (.set typeChars)), blanks,
      opt (sequence [char '{', blanks, .group 3 (lazyPlus anyChar), blanks, char '}', blanks]),
      blanks, opt (sequence [char '=', blanks, .group 4 (lazyPlus anyChar)]), blanks, char '}',
      blanks])]

/-- The value behind an equals sign: in double quotes (group 7), in single quotes (group 8),
or up to a blank, a bracket or the end (group 9). -/
def defaultPart : Regex :=
  sequence
    [blanks, char '=', blanks,
     choice
       [sequence [char '"', .group 7 (star (.set (.compl (.char '"')))), char '"'],
        sequence [char '\'', .group 8 (star (.set (.compl (.char '\'')))), char '\''],
        sequence [.group 9 (lazyStar anyChar), choice [cls .blank, char ']', .look .endText]]]]

/-- The name, possibly in brackets and with a default. Group 5 is all of it and group 6 the
name. -/
def namePart : Regex :=
  .group 5 (sequence
    [opt (char '['), blanks,
     .group 6 (sequence
       [plus (.set nameChars),
        opt (sequence [char '[', star (.set indexChars), char ']'])]),
     opt defaultPart, blanks, opt (char ']'), blanks])

/-- The description. Group 10 is its text. -/
def descriptionPart : Regex :=
  opt (.group 10 (star anyChar))

/-- The **expression for a declaration**. -/
def expression : Regex :=
  sequence ([.look .startText] ++ groupPart ++ typePart ++
    [namePart, descriptionPart, .look .endText])

/-! ### Allowed values -/

/-- The texts between pairs of `quote`, from left to right; a pair encloses at least one
character. -/
def quotedTexts (quote : Char) (s : List Char) : List (List Char) :=
  match s with
  | [] => []
  | c :: cs =>
    if c = quote then
      match _h : cs.dropWhile (· != quote) with
      | [] => quotedTexts quote cs
      | _ :: after =>
        if (cs.takeWhile (· != quote)).isEmpty then quotedTexts quote cs
        else cs.takeWhile (· != quote) :: quotedTexts quote after
    else quotedTexts quote cs
termination_by s.length
decreasing_by
  · simp
  · simp
  · have h : (cs.dropWhile (· != quote)).length ≤ cs.length :=
      (List.dropWhile_sublist _).length_le
    rw [_h] at h
    simp only [List.length_cons] at h ⊢
    omega
  · simp

/-- Either kind of quote. -/
def isQuote (c : Char) : Bool :=
  c == '"' || c == '\''

/-- **Splits a list of allowed values**; quotes at the ends of a value are dropped. -/
def splitAllowed (raw : List Char) : List (List Char) :=
  let values := match raw with
    | '"' :: _ => quotedTexts '"' raw
    | '\'' :: _ => quotedTexts '\'' raw
    | _ => Chars.runs (fun c => c != ',' && !Text.isBlank c) raw
  values.map (Chars.strip isQuote)

/-! ### Reading -/

/-- The declaration that a match of the expression describes. -/
def ofMatch (defaultGroup : String) (m : MatchState) : FieldDecl :=
  let text (i : Nat) : Option String := (m.group? i).map String.ofList
  { group := (text 1).getD defaultGroup
    type := text 2
    size := text 3
    allowedValues := (m.group? 4).map fun raw => (splitAllowed raw).map String.ofList
    isOptional := ((m.group? 5).getD []).head? == some '['
    field := (text 6).getD ""
    defaultValue :=
      (text 7).orElse fun _ => (text 8).orElse fun _ => (text 9).filter (· != "")
    description := Text.unindent ((text 10).getD "") }

/-- **Reads a declaration**; a field that names no group is in `defaultGroup`. -/
def parse? (content defaultGroup : String) : Option FieldDecl :=
  (expression.find? content.toList).map (ofMatch defaultGroup)

end ApiGloss.FieldDecl

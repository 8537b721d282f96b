import ApiGloss.Yaml.Scalar

/-!
# Writing YAML

Values in block style: an entry a line, nested mappings indented by two blanks, sequences in
a mapping not indented. Empty collections are written in brackets. A key that is long or has
several lines is written with a question mark, its value behind a colon on the next line.

Collections are lists of lines. After a hyphen, a question mark or a colon at the start of a
line, a collection begins on the same line.
-/

namespace ApiGloss.Yaml

/-- In YAML a positive exponent has no sign. -/
def realLayout : Decimal.Layout := ⟨false⟩

/-- A number as a scalar. -/
def numberText : Json.Number → String
  | .int n => Json.intText n
  | .real d => d.text realLayout

/-- Puts a mark of one character before the first line of a collection that is indented
deeper than the mark. -/
def markFirst (indent : Nat) (mark : Char) : List (List Char) → List (List Char)
  | [] => []
  | line :: rest => (pad indent ++ mark :: ' ' :: line.drop (indent + 2)) :: rest

mutual
/-- The lines of a mapping. -/
def mappingLines (indent : Nat) : List (String × Json) → List (List Char)
  | [] => []
  | (key, value) :: rest =>
    let keyText := scalarText (indent + 2) key.toList
    (if isSimpleKey key then
      match inlineText (indent + 2) value with
      | some text => [pad indent ++ keyText ++ ':' :: ' ' :: text]
      | none => (pad indent ++ keyText ++ [':']) :: nestedLines indent (indent + 2) value
    else
      (pad indent ++ '?' :: ' ' :: keyText) ::
        match inlineText (indent + 2) value with
        | some text => [pad indent ++ ':' :: ' ' :: text]
        | none => markFirst indent ':' (nestedLines (indent + 2) (indent + 2) value)) ++
      mappingLines indent rest

/-- The lines of a sequence. -/
def sequenceLines (indent : Nat) : List Json → List (List Char)
  | [] => []
  | item :: rest =>
    (match inlineText (indent + 2) item with
      | some text => [pad indent ++ '-' :: ' ' :: text]
      | none => markFirst indent '-' (nestedLines (indent + 2) (indent + 2) item)) ++
      sequenceLines indent rest

/-- The lines of a collection that is not empty, with different indentation for sequences and
mappings. -/
def nestedLines (sequenceIndent mappingIndent : Nat) : Json → List (List Char)
  | .arr items => sequenceLines sequenceIndent items
  | .obj fields => mappingLines mappingIndent fields
  | _ => []

/-- A scalar or an empty collection, which stand behind their mark or key. -/
def inlineText (indent : Nat) : Json → Option (List Char)
  | .null => some "null".toList
  | .bool true => some "true".toList
  | .bool false => some "false".toList
  | .num n => some (numberText n).toList
  | .str s => some (scalarText indent s.toList)
  | .arr [] => some ['[', ']']
  | .obj [] => some ['{', '}']
  | .arr (_ :: _) => none
  | .obj (_ :: _) => none
end

mutual
/-- Whether the last scalar of a value keeps its final line breaks. -/
def endsOpen : Json → Bool
  | .str s => isOpenEnded s.toList
  | .arr items => itemsEndOpen items
  | .obj fields => entriesEndOpen fields
  | _ => false

/-- Whether the last item ends open. -/
def itemsEndOpen : List Json → Bool
  | [] => false
  | [j] => endsOpen j
  | _ :: rest => itemsEndOpen rest

/-- Whether the last entry ends open. -/
def entriesEndOpen : List (String × Json) → Bool
  | [] => false
  | [(_, j)] => endsOpen j
  | _ :: rest => entriesEndOpen rest
end

/-- Ends a line, unless a line break of its scalar has ended it already. -/
def endLine (line : List Char) : List Char :=
  if line.getLast?.any isBreak then line else line ++ ['\n']

/-- The **written form of a value**. Where the last scalar keeps its final line breaks, a line
with three points ends the document. -/
def print (j : Json) : String :=
  let lines := match inlineText 2 j with
    | some text => [text]
    | none => nestedLines 0 0 j
  let stop := if endsOpen j then [['.', '.', '.']] else []
  String.ofList ((lines ++ stop).flatMap endLine)

end ApiGloss.Yaml

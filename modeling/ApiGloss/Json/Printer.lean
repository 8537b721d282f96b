import ApiGloss.Json.Number

/-!
# Writing JSON

Two written forms: a compact one without blanks, and one with an entry a line, indented by
two blanks a level. Only quotes, backslashes and control characters are escaped.
-/

namespace ApiGloss.Json

/-- A lower-case hexadecimal digit. -/
def hexDigit (n : Nat) : Char :=
  if n < 10 then Char.ofNat ('0'.toNat + n) else Char.ofNat ('a'.toNat + n - 10)

/-- One character as it stands in a written string. -/
def escapeChar (c : Char) : List Char :=
  if c = '"' then ['\\', '"']
  else if c = '\\' then ['\\', '\\']
  else if c = '\x08' then ['\\', 'b']
  else if c = '\t' then ['\\', 't']
  else if c = '\n' then ['\\', 'n']
  else if c = '\x0c' then ['\\', 'f']
  else if c = '\r' then ['\\', 'r']
  else if c.toNat < 0x20 then
    ['\\', 'u', '0', '0', hexDigit (c.toNat / 16), hexDigit (c.toNat % 16)]
  else [c]

/-- A string with its quotes and escapes. -/
def quote (s : String) : String :=
  String.ofList ('"' :: s.toList.flatMap escapeChar ++ ['"'])

mutual
/-- The **compact form** of a value. -/
def compact : Json → String
  | .null => "null"
  | .bool true => "true"
  | .bool false => "false"
  | .num n => n.text
  | .str s => quote s
  | .arr items => "[" ++ String.intercalate "," (compactItems items) ++ "]"
  | .obj fields => "\x7b" ++ String.intercalate "," (compactEntries fields) ++ "\x7d"

/-- The compact forms of the items of an array. -/
def compactItems : List Json → List String
  | [] => []
  | j :: js => compact j :: compactItems js

/-- The compact forms of the entries of an object. -/
def compactEntries : List (String × Json) → List String
  | [] => []
  | (k, j) :: es => (quote k ++ ":" ++ compact j) :: compactEntries es
end

/-- A line break followed by the indentation of a level. -/
def newline (level : Nat) : String :=
  String.ofList ('\n' :: List.replicate (2 * level) ' ')

mutual
/-- The indented form of a value at a level. -/
def prettyAt (level : Nat) : Json → String
  | .null => "null"
  | .bool true => "true"
  | .bool false => "false"
  | .num n => n.text
  | .str s => quote s
  | .arr [] => "[]"
  | .arr (j :: js) =>
    "[" ++ String.intercalate "," (prettyItems (level + 1) (j :: js)) ++ newline level ++ "]"
  | .obj [] => "\x7b\x7d"
  | .obj (e :: es) =>
    "\x7b" ++ String.intercalate "," (prettyEntries (level + 1) (e :: es)) ++ newline level ++
      "\x7d"

/-- The indented forms of the items of an array, a line each. -/
def prettyItems (level : Nat) : List Json → List String
  | [] => []
  | j :: js => (newline level ++ prettyAt level j) :: prettyItems level js

/-- The indented forms of the entries of an object, a line each. -/
def prettyEntries (level : Nat) : List (String × Json) → List String
  | [] => []
  | (k, j) :: es =>
    (newline level ++ quote k ++ ": " ++ prettyAt level j) :: prettyEntries level es
end

/-- The **indented form** of a value. -/
def pretty (j : Json) : String :=
  prettyAt 0 j

end ApiGloss.Json

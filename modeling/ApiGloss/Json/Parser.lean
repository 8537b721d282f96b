import ApiGloss.Json.Number

/-!
# Reading JSON

A strict reader: one value, blanks around it, nothing else. Strings may not hold control
characters or unpaired surrogates. Values may be nested `maxDepth` levels deep. An object
that names an entry twice keeps the first place and the last value.

The reader of a value is structural on the depth that is left; the loops over items and
entries spend one unit of fuel a turn, and every turn consumes a character, so the length of
the text is fuel enough.
-/

namespace ApiGloss.Json

/-- Arrays and objects may be nested this deep. -/
def maxDepth : Nat := 127

/-- The blanks between the parts of a text. -/
def isSpace (c : Char) : Bool :=
  c == ' ' || c == '\n' || c == '\t' || c == '\r'

/-- Skips blanks. -/
def skipSpace (s : List Char) : List Char :=
  s.dropWhile isSpace

/-- The value of a hexadecimal digit. -/
def hexValue? (c : Char) : Option Nat :=
  if c.isDigit then some (c.toNat - '0'.toNat)
  else if 'a' ≤ c ∧ c ≤ 'f' then some (c.toNat - 'a'.toNat + 10)
  else if 'A' ≤ c ∧ c ≤ 'F' then some (c.toNat - 'A'.toNat + 10)
  else none

/-- Reads the four digits of an escaped code unit. -/
def readUnit? : List Char → Option (Nat × List Char)
  | a :: b :: c :: d :: rest => do
    let a ← hexValue? a
    let b ← hexValue? b
    let c ← hexValue? c
    let d ← hexValue? d
    some (((a * 16 + b) * 16 + c) * 16 + d, rest)
  | _ => none

/-- Reads an escaped character after its `\u`; two surrogates in a row make one character. -/
def readCodePoint? (s : List Char) : Option (Char × List Char) :=
  match readUnit? s with
  | none => none
  | some (hi, rest) =>
    if hi < 0xD800 ∨ 0xDFFF < hi then some (Char.ofNat hi, rest)
    else if 0xDC00 ≤ hi then none
    else match rest with
      | '\\' :: 'u' :: r =>
        match readUnit? r with
        | some (lo, r') =>
          if 0xDC00 ≤ lo ∧ lo ≤ 0xDFFF then
            some (Char.ofNat (0x10000 + (hi - 0xD800) * 0x400 + (lo - 0xDC00)), r')
          else none
        | none => none
      | _ => none

/-- The character that a one-letter escape stands for. -/
def simpleEscape? : Char → Option Char
  | '"' => some '"'
  | '\\' => some '\\'
  | '/' => some '/'
  | 'b' => some '\x08'
  | 'f' => some '\x0c'
  | 'n' => some '\n'
  | 'r' => some '\r'
  | 't' => some '\t'
  | _ => none

/-- Reads a string after its opening quote; `acc` holds the characters read, last first. -/
def readString? : Nat → List Char → List Char → Option (String × List Char)
  | 0, _, _ => none
  | fuel + 1, acc, s =>
    match s with
    | [] => none
    | '"' :: rest => some (String.ofList acc.reverse, rest)
    | '\\' :: 'u' :: rest =>
      match readCodePoint? rest with
      | some (c, r) => readString? fuel (c :: acc) r
      | none => none
    | '\\' :: e :: rest =>
      match simpleEscape? e with
      | some c => readString? fuel (c :: acc) rest
      | none => none
    | ['\\'] => none
    | c :: rest => if c.toNat < 0x20 then none else readString? fuel (c :: acc) rest

/-- Reads a string with its quotes. -/
def readQuoted? : List Char → Option (String × List Char)
  | '"' :: rest => readString? (rest.length + 1) [] rest
  | _ => none

/-- Reads the items of an array after the first bracket or a comma, last item first. -/
def readItems? (item? : List Char → Option (Json × List Char)) :
    Nat → List Json → List Char → Option (List Json × List Char)
  | 0, _, _ => none
  | fuel + 1, acc, s =>
    match item? (skipSpace s) with
    | none => none
    | some (j, rest) =>
      match skipSpace rest with
      | ',' :: r => readItems? item? fuel (j :: acc) r
      | ']' :: r => some ((j :: acc).reverse, r)
      | _ => none

/-- Reads the entries of an object after the first brace or a comma. -/
def readEntries? (item? : List Char → Option (Json × List Char)) :
    Nat → Table Json → List Char → Option (Table Json × List Char)
  | 0, _, _ => none
  | fuel + 1, acc, s =>
    match readQuoted? (skipSpace s) with
    | none => none
    | some (key, rest) =>
      match skipSpace rest with
      | ':' :: r =>
        match item? (skipSpace r) with
        | none => none
        | some (j, rest) =>
          let acc := Table.insert key j acc
          match skipSpace rest with
          | ',' :: r => readEntries? item? fuel acc r
          | '}' :: r => some (acc, r)
          | _ => none
      | _ => none

/-- Reads a value at the start of a text, with `depth` levels of nesting left. -/
def readValue? (depth : Nat) (s : List Char) : Option (Json × List Char) :=
  match s with
  | 'n' :: 'u' :: 'l' :: 'l' :: rest => some (.null, rest)
  | 't' :: 'r' :: 'u' :: 'e' :: rest => some (.bool true, rest)
  | 'f' :: 'a' :: 'l' :: 's' :: 'e' :: rest => some (.bool false, rest)
  | '"' :: rest => (readString? (rest.length + 1) [] rest).map fun (t, r) => (.str t, r)
  | '[' :: rest =>
    match depth with
    | 0 => none
    | depth + 1 =>
      match skipSpace rest with
      | ']' :: r => some (.arr [], r)
      | _ =>
        (readItems? (readValue? depth) (rest.length + 1) [] rest).map fun (js, r) => (.arr js, r)
  | '{' :: rest =>
    match depth with
    | 0 => none
    | depth + 1 =>
      match skipSpace rest with
      | '}' :: r => some (.obj [], r)
      | _ =>
        (readEntries? (readValue? depth) (rest.length + 1) [] rest).map fun (es, r) => (.obj es, r)
  | s => (readNumber? s).map fun (n, r) => (.num n, r)

/-- The **value that a text spells**, if it is well-formed JSON. -/
def parse? (s : String) : Option Json :=
  match readValue? maxDepth (skipSpace s.toList) with
  | some (j, rest) => if skipSpace rest = [] then some j else none
  | none => none

end ApiGloss.Json

import ApiGloss.Json.Number
import ApiGloss.Text.Lines

/-!
# YAML Scalars

How a text is written as a YAML scalar. A text that could be taken for something else is
put in single quotes, a text with line feeds becomes a literal block, and any other text is
plain as far as YAML allows it. A style that cannot hold the text gives way: plain to single
quotes, single quotes and literal blocks to double quotes.
-/

namespace ApiGloss.Yaml

/-- The styles of a scalar. -/
inductive Style where
  | plain
  | single
  | double
  | literal
  deriving DecidableEq, Repr

/-! ### Texts that look like other values -/

/-- A digit in a base up to sixteen. -/
def isDigitIn (base : Nat) (c : Char) : Bool :=
  let value := if c.isDigit then c.toNat - '0'.toNat
    else if 'a' ≤ c ∧ c ≤ 'f' then c.toNat - 'a'.toNat + 10
    else if 'A' ≤ c ∧ c ≤ 'F' then c.toNat - 'A'.toNat + 10
    else base
  value < base

/-- The value of digits in a base. -/
def digitsValue (base : Nat) (s : List Char) : Nat :=
  s.foldl (fun n c => n * base + (if c.isDigit then c.toNat - '0'.toNat
    else if 'a' ≤ c then c.toNat - 'a'.toNat + 10 else c.toNat - 'A'.toNat + 10)) 0

/-- Whether a text is digits in a base with a value up to `limit`. -/
def isNumeral (base limit : Nat) (s : List Char) : Bool :=
  !s.isEmpty && s.all (isDigitIn base) && digitsValue base s ≤ limit

/-- Whether a text is a numeral with a base mark or a decimal one, up to `limit`. -/
def isMarkedNumeral (limit : Nat) (s : List Char) : Bool :=
  match s with
  | '0' :: 'x' :: rest => isNumeral 16 limit rest
  | '0' :: 'o' :: rest => isNumeral 8 limit rest
  | '0' :: 'b' :: rest => isNumeral 2 limit rest
  | _ => isNumeral 10 limit s

/-- A text without its sign. -/
def unsigned : List Char → List Char
  | '+' :: s => s
  | '-' :: s => s
  | s => s

/-- Digits with a needless leading zero, which are a text and not a number. -/
def hasLeadingZero (s : List Char) : Bool :=
  match unsigned s with
  | '0' :: c :: rest => (c :: rest).all Char.isDigit
  | _ => false

/-- Whether a text reads as an integer of up to 128 bits. -/
def looksInteger (s : List Char) : Bool :=
  !hasLeadingZero s &&
    match s with
    | '-' :: rest => isMarkedNumeral (Nat.pow 2 127) rest
    | '+' :: rest => isMarkedNumeral (Nat.pow 2 128 - 1) rest
    | s => isMarkedNumeral (Nat.pow 2 128 - 1) s

/-- Whether `0.d₁d₂… · 10 ^ power` is finite as a double: it lies below the midpoint between
the largest double and the next power of two. -/
def isFinite (digits : List Char) (power : Int) : Bool :=
  let ds := digits.dropWhile (· == '0')
  let power := power - (digits.length - ds.length : Nat)
  ds.isEmpty || power ≤ 308 ||
    (power == 309 && digitsValue 10 ds * Nat.pow 10 309
      < (Nat.pow 2 54 - 1) * Nat.pow 2 970 * Nat.pow 10 ds.length)

/-- Whether a text reads as a finite decimal number: digits with an optional point and an
optional exponent. -/
def looksDecimal (s : List Char) : Bool :=
  let whole := s.takeWhile Char.isDigit
  let (fraction, rest) := match s.dropWhile Char.isDigit with
    | '.' :: r => (r.takeWhile Char.isDigit, r.dropWhile Char.isDigit)
    | r => ([], r)
  let digits := whole ++ fraction
  !digits.isEmpty &&
    match rest with
    | [] => isFinite digits whole.length
    | c :: r =>
      let (down, power) := match r with
        | '-' :: p => (true, p)
        | '+' :: p => (false, p)
        | p => (false, p)
      let exponent : Int := digitsValue 10 power
      (c == 'e' || c == 'E') && !power.isEmpty && power.all Char.isDigit &&
        isFinite digits (whole.length + (if down then -exponent else exponent))

/-- The words for infinity. -/
def infinityWords : List String := [".inf", ".Inf", ".INF"]

/-- Whether a text reads as a floating-point number. -/
def looksReal (s : List Char) : Bool :=
  !hasLeadingZero s &&
    match s with
    | '+' :: rest => infinityWords.contains (String.ofList rest) || looksDecimal rest
    | '-' :: rest => infinityWords.contains (String.ofList rest) || looksDecimal rest
    | _ =>
      infinityWords.contains (String.ofList s) ||
        [".nan", ".NaN", ".NAN"].contains (String.ofList s) || looksDecimal s

/-- Words that stand for other values. -/
def reservedWords : List String :=
  ["", "~", "null", "Null", "NULL", "true", "True", "TRUE", "false", "False", "FALSE"]

/-- Whether a text could be taken for another value. -/
def isAmbiguous (s : List Char) : Bool :=
  reservedWords.contains (String.ofList s) || looksInteger s || looksReal s || hasLeadingZero s

/-! ### What the styles can hold -/

/-- Characters that are written as they are. -/
def isPrintable (c : Char) : Bool :=
  let n := c.toNat
  n == 0xA || (0x20 ≤ n && n ≤ 0x7E) ||
    (0xA0 ≤ n && n != 0xFEFF && n != 0xFFFE && n != 0xFFFF)

/-- Characters that break a line. -/
def isBreak (c : Char) : Bool :=
  c == '\n' || c == '\r' || c == '\u0085' || c == '\u2028' || c == '\u2029'

/-- Whether a position is before a blank, a line break or the end. -/
def blankAhead : List Char → Bool
  | [] => true
  | c :: _ => c == ' ' || c == '\t' || isBreak c

/-- Whether a first character forbids a plain scalar. -/
def badStart (c : Char) (rest : List Char) : Bool :=
  ['#', ',', '[', ']', '{', '}', '&', '*', '!', '|', '>', '\'', '"', '%', '@', '\x60'].contains c ||
    ((c == '?' || c == ':' || c == '-') && blankAhead rest)

/-- Whether a later character, behind `before`, forbids a plain scalar. -/
def badInside (before : Char) : List Char → Bool
  | [] => false
  | c :: rest =>
    (c == ':' && blankAhead rest) || (c == '#' && blankAhead [before]) || badInside c rest

/-- Whether some character with property `p` is followed by one with property `q`. -/
def follows (p q : Char → Bool) : List Char → Bool
  | a :: b :: rest => (p a && q b) || follows p q (b :: rest)
  | _ => false

/-- Whether a plain scalar can hold the text. -/
def plainAllowed (s : List Char) : Bool :=
  match s with
  | [] => true
  | c :: rest =>
    !(badStart c rest || badInside c rest ||
      ['-', '-', '-'].isPrefixOf s || ['.', '.', '.'].isPrefixOf s ||
      c == ' ' || s.getLast? == some ' ' || s.any isBreak || s.any (!isPrintable ·))

/-- Whether single quotes can hold the text. -/
def singleAllowed (s : List Char) : Bool :=
  !(follows isBreak (· == ' ') s || follows (· == ' ') isBreak s || s.any (!isPrintable ·))

/-- Whether a literal block can hold the text. -/
def literalAllowed (s : List Char) : Bool :=
  !(s.isEmpty || s.getLast? == some ' ' || follows (· == ' ') isBreak s || s.any (!isPrintable ·))

/-- The **style of a text**. -/
def styleOf (s : List Char) : Style :=
  let quoted := if singleAllowed s then Style.single else .double
  if s.contains '\n' then if literalAllowed s then .literal else .double
  else if isAmbiguous s then quoted
  else if plainAllowed s then .plain
  else quoted

/-! ### Writing -/

/-- Blanks up to a column. -/
def pad (indent : Nat) : List Char :=
  List.replicate indent ' '

/-- Upper-case hexadecimal digits, at least `width` of them. -/
def hex (width n : Nat) : List Char :=
  let ds := (Nat.toDigits 16 n).map Char.toUpper
  List.replicate (width - ds.length) '0' ++ ds

/-- One character between double quotes. -/
def escapeChar (c : Char) : List Char :=
  let n := c.toNat
  if c == '"' || c == '\\' then ['\\', c]
  else if isPrintable c && !isBreak c then [c]
  else match n with
    | 0x00 => ['\\', '0']
    | 0x07 => ['\\', 'a']
    | 0x08 => ['\\', 'b']
    | 0x09 => ['\\', 't']
    | 0x0A => ['\\', 'n']
    | 0x0B => ['\\', 'v']
    | 0x0C => ['\\', 'f']
    | 0x0D => ['\\', 'r']
    | 0x1B => ['\\', 'e']
    | 0x85 => ['\\', 'N']
    | 0x2028 => ['\\', 'L']
    | 0x2029 => ['\\', 'P']
    | _ =>
      if n ≤ 0xFF then '\\' :: 'x' :: hex 2 n
      else if n ≤ 0xFFFF then '\\' :: 'u' :: hex 4 n
      else '\\' :: 'U' :: hex 8 n

/-- A text between single quotes. What follows a line break is indented. -/
def singleBody (indent : Nat) (broken : Bool) : List Char → List Char
  | [] => if broken then pad indent else []
  | c :: rest =>
    if isBreak c then c :: singleBody indent true rest
    else
      (if broken then pad indent else []) ++ (if c == '\'' then ['\'', '\''] else [c]) ++
        singleBody indent false rest

/-- The lines of a literal block; empty lines are not indented. -/
def literalBody (indent : Nat) (broken : Bool) : List Char → List Char
  | [] => []
  | c :: rest =>
    if isBreak c then c :: literalBody indent true rest
    else (if broken then pad indent else []) ++ c :: literalBody indent false rest

/-- The hints behind the mark of a literal block: its indentation where the text starts with
a blank or a break, and what becomes of the breaks at its end. -/
def literalHints (s : List Char) : List Char :=
  let start := match s with
    | c :: _ => if c == ' ' || isBreak c then ['2'] else []
    | [] => []
  let stop := match s.reverse with
    | [] => ['-']
    | [c] => if isBreak c then ['+'] else ['-']
    | c :: d :: _ => if !isBreak c then ['-'] else if isBreak d then ['+'] else []
  start ++ stop

/-- A **text as a scalar** whose further lines are indented by `indent`. -/
def scalarText (indent : Nat) (s : List Char) : List Char :=
  match styleOf s with
  | .plain => s
  | .single => '\'' :: singleBody indent false s ++ ['\'']
  | .double => '"' :: s.flatMap escapeChar ++ ['"']
  | .literal => '|' :: literalHints s ++ '\n' :: literalBody indent true s

/-- Whether a text is written as a literal block that keeps its final line breaks. -/
def isOpenEnded (s : List Char) : Bool :=
  styleOf s = .literal && (literalHints s).contains '+'

/-- Whether a text can stand before the colon of its entry on one line. -/
def isSimpleKey (s : String) : Bool :=
  !s.toList.any isBreak && s.utf8ByteSize ≤ 128

end ApiGloss.Yaml

import ApiGloss.Pattern.Regex
import ApiGloss.Text.Lines

/-!
# Reading Patterns

Reads the written form of a regular expression. Besides literals, sets, repetitions,
alternatives and groups there are flags for a group or for the rest of a group, named groups,
nested sets with set operations, code-point escapes and word-edge assertions.

Look-around and back references are refused, and so is everything ill-formed: a repetition
of nothing, an unclosed group or set, an unknown escape or flag, an inverted range. A pattern
that is not wide may hold characters beyond ASCII, but its sets may not. The reader only says
whether a text is a pattern, not why it is none.

The syntax is not complete. There are no sets for the Unicode properties of characters, as in
`\p`, so that patterns with them are refused; and neither the size of a pattern nor the depth
of its groups is bounded.

Every turn of the two loops consumes a character, so the length of the text is fuel enough.
-/

namespace ApiGloss.Pattern

/-- The switches that can be set inside a pattern. -/
structure Flags where
  caseless : Bool := false
  multiLine : Bool := false
  dotAll : Bool := false
  swapGreed : Bool := false
  /-- Whether sets hold characters beyond ASCII. -/
  wide : Bool := true
  crlf : Bool := false
  verbose : Bool := false

/-- The ASCII characters. -/
def asciiChars : CharSet :=
  .range '\x00' '\x7f'

/-- A set under the flags in force: with all case variants if case does not count. Where the
pattern is not wide, only ASCII characters have variants, and only ASCII ones. -/
def Flags.fold (f : Flags) (s : CharSet) : CharSet :=
  if !f.caseless then s
  else if f.wide then .caseless s
  else .union s (.inter asciiChars (.caseless (.inter asciiChars s)))

/-- Whether a character may stand in a set. -/
def Flags.admits (f : Flags) (c : Char) : Bool :=
  f.wide || asciiChars.mem c

/-- What the reader carries along: the text ahead, the flags in force, the number of the next
group and the group names in use. -/
structure Reader where
  ahead : List Char
  flags : Flags := {}
  nextGroup : Nat := 1
  names : List (List Char) := []

/-- A step of the reader; it fails where the text is no pattern. -/
abbrev Read := StateT Reader Option

/-- Drops blanks and comments: a comment runs from `#` to the end of its line. -/
def dropVerbose : Nat → List Char → List Char
  | 0, s => s
  | fuel + 1, s =>
    match s.dropWhile Text.isBlank with
    | '#' :: rest => dropVerbose fuel (rest.dropWhile (· != '\n'))
    | s => s

namespace Reader

/-- Fails. -/
def refuse {α : Type} : Read α :=
  fun _ => none

/-- Succeeds exactly when a condition holds. -/
def require (b : Bool) : Read Unit :=
  if b then pure () else refuse

/-- Skips blanks and comments where the pattern is verbose. -/
def skipVerbose : Read Unit :=
  modify fun r =>
    if r.flags.verbose then { r with ahead := dropVerbose r.ahead.length r.ahead } else r

/-- The next character, if there is one. -/
def peek? : Read (Option Char) :=
  return (← get).ahead.head?

/-- Takes the next character. -/
def take : Read Char := do
  match (← get).ahead with
  | [] => refuse
  | c :: cs => modify ({ · with ahead := cs }); return c

/-- Takes a fixed text if it comes next. -/
def takeIf (s : String) : Read Bool := do
  let r ← get
  if s.toList.isPrefixOf r.ahead then
    set { r with ahead := r.ahead.drop s.length }
    return true
  else return false

/-- Takes the characters of a class. -/
def takeWhile (p : Char → Bool) : Read (List Char) := do
  let r ← get
  set { r with ahead := r.ahead.dropWhile p }
  return r.ahead.takeWhile p

/-- The set of one literal character under the flags in force. -/
def literalSet (c : Char) : Read CharSet :=
  return (← get).flags.fold (.char c)

/-! ### Escapes -/

/-- What an escape stands for. -/
inductive Escape where
  | literal (c : Char)
  | set (s : CharSet)
  | look (a : Assertion)

/-- Characters with a meaning of their own, which an escape turns into literals. -/
def isMeta (c : Char) : Bool :=
  "\\.+*?()|[]\x7b\x7d^$#&-~".toList.contains c

/-- Other characters that may be escaped without need. -/
def isEscapable (c : Char) : Bool :=
  c.toNat < 0x80 && !c.isAlphanum && c != '<' && c != '>'

/-- The value of a hexadecimal digit. -/
def hexValue? (c : Char) : Option Nat :=
  if c.isDigit then some (c.toNat - '0'.toNat)
  else if 'a' ≤ c ∧ c ≤ 'f' then some (c.toNat - 'a'.toNat + 10)
  else if 'A' ≤ c ∧ c ≤ 'F' then some (c.toNat - 'A'.toNat + 10)
  else none

/-- The character with a code point given by hexadecimal digits. -/
def charOfHex? (digits : List Char) : Option Char := do
  let values ← digits.mapM hexValue?
  let n := values.foldl (fun n d => n * 16 + d) 0
  if n < 0xD800 ∨ (0xDFFF < n ∧ n < 0x110000) then some (Char.ofNat n) else none

/-- Reads a code point: in braces, or with a fixed number of digits. -/
def codePoint (width : Nat) : Read Char := do
  if ← takeIf "\x7b" then
    let digits ← takeWhile (· != '}')
    require (← takeIf "\x7d")
    require !digits.isEmpty
    match charOfHex? digits with
    | some c => return c
    | none => refuse
  else
    let r ← get
    let digits := r.ahead.take width
    require (digits.length == width)
    set { r with ahead := r.ahead.drop width }
    match charOfHex? digits with
    | some c => return c
    | none => refuse

/-- Reads the hexadecimal escape of two digits, or of a code point in braces. Two digits are a byte
where the pattern is not wide, and then an ASCII character. -/
def hexEscape : Read Char := do
  let inBraces := (← get).ahead.head? == some '{'
  let c ← codePoint 2
  require (inBraces || (← get).flags.admits c)
  return c

/-- The ASCII characters of a named class. -/
def asciiClass : CharClass → CharSet
  | .digit => .range '0' '9'
  | .blank => .union (.range '\t' '\r') (.char ' ')
  | .word =>
    .union (.union (.range '0' '9') (.range 'A' 'Z')) (.union (.char '_') (.range 'a' 'z'))

/-- A named class, possibly negated, under the flags in force. -/
def classSet (cls : CharClass) (negated : Bool) : Read CharSet := do
  if (← get).flags.wide then
    return if negated then .compl (.named cls) else .named cls
  else
    require !negated
    return asciiClass cls

/-- The word characters that word edges refer to. -/
def edgeSet : Read CharSet :=
  return if (← get).flags.wide then .named .word else asciiClass .word

/-- The special word edges that may follow `\b` in braces. -/
def specialEdge (w : CharSet) : Read (Option Assertion) := do
  if ← takeIf "\x7bstart\x7d" then return some (.wordStart w)
  else if ← takeIf "\x7bend\x7d" then return some (.wordEnd w)
  else if ← takeIf "\x7bstart-half\x7d" then return some (.wordStartHalf w)
  else if ← takeIf "\x7bend-half\x7d" then return some (.wordEndHalf w)
  else return none

/-- Reads an escape after its backslash. -/
def escape : Read Escape := do
  let c ← take
  match c with
  | 'x' => return .literal (← hexEscape)
  | 'u' => return .literal (← codePoint 4)
  | 'U' => return .literal (← codePoint 8)
  | 'd' => return .set (← classSet .digit false)
  | 'D' => return .set (← classSet .digit true)
  | 's' => return .set (← classSet .blank false)
  | 'S' => return .set (← classSet .blank true)
  | 'w' => return .set (← classSet .word false)
  | 'W' => return .set (← classSet .word true)
  | 'a' => return .literal '\x07'
  | 'f' => return .literal '\x0c'
  | 't' => return .literal '\t'
  | 'n' => return .literal '\n'
  | 'r' => return .literal '\r'
  | 'v' => return .literal '\x0b'
  | 'A' => return .look .startText
  | 'z' => return .look .endText
  | 'B' => return .look (.noWordEdge (← edgeSet))
  | '<' => return .look (.wordStart (← edgeSet))
  | '>' => return .look (.wordEnd (← edgeSet))
  | 'b' =>
    let w ← edgeSet
    match ← specialEdge w with
    | some a => return .look a
    | none => return .look (.wordEdge w)
  | c => if isMeta c || isEscapable c then return .literal c else refuse

/-! ### Sets in brackets -/

/-- The named ASCII sets that may stand between `[:` and `:]`. -/
def asciiSet? : String → Option CharSet
  | "alnum" => some (.union (.range '0' '9') (.union (.range 'A' 'Z') (.range 'a' 'z')))
  | "alpha" => some (.union (.range 'A' 'Z') (.range 'a' 'z'))
  | "ascii" => some asciiChars
  | "blank" => some (.union (.char '\t') (.char ' '))
  | "cntrl" => some (.union (.range '\x00' '\x1f') (.char '\x7f'))
  | "digit" => some (.range '0' '9')
  | "graph" => some (.range '!' '~')
  | "lower" => some (.range 'a' 'z')
  | "print" => some (.range ' ' '~')
  | "punct" => some (.union (.union (.range '!' '/') (.range ':' '@'))
      (.union (.range '[' '\x60') (.range '\x7b' '~')))
  | "space" => some (asciiClass .blank)
  | "upper" => some (.range 'A' 'Z')
  | "word" => some (asciiClass .word)
  | "xdigit" => some (.union (.range '0' '9') (.union (.range 'A' 'F') (.range 'a' 'f')))
  | _ => none

/-- Reads a named ASCII set such as `[:alpha:]`, if one comes next. -/
def asciiSet : Read (Option CharSet) := do
  let r ← get
  match r.ahead with
  | '[' :: ':' :: rest =>
    let (negated, rest) := match rest with
      | '^' :: rest => (true, rest)
      | rest => (false, rest)
    let name := rest.takeWhile (· != ':')
    match rest.dropWhile (· != ':') with
    | ':' :: ']' :: rest =>
      match asciiSet? (String.ofList name) with
      | some s =>
        set { r with ahead := rest }
        require (r.flags.wide || !negated)
        return some (if negated then .compl s else s)
      | none => return none
    | _ => return none
  | _ => return none

/-- The operations between the parts of a set. -/
inductive SetOp where
  | inter
  | diff
  | symmDiff

/-- Applies an operation. -/
def SetOp.apply : SetOp → CharSet → CharSet → CharSet
  | .inter, a, b => .inter a b
  | .diff, a, b => .diff a b
  | .symmDiff, a, b => .symmDiff a b

/-- Adds a part to the union read so far. -/
def addPart (acc : Option CharSet) (s : CharSet) : Option CharSet :=
  match acc with
  | none => some s
  | some a => some (.union a s)

/-- The set of a bracket expression from its union and its pending operation. -/
def closeSet (f : Flags) (pending : Option (SetOp × CharSet)) (union : Option CharSet) :
    CharSet :=
  let own := f.fold (union.getD .none)
  match pending with
  | none => own
  | some (op, lhs) => op.apply lhs own

/-- Reads one literal or class inside a set. -/
def setItem : Read Escape := do
  let c ← take
  let item ← if c = '\\' then escape else pure (.literal c)
  match item with
  | .literal c => require ((← get).flags.admits c)
  | _ => pure ()
  return item

/-- What follows the next character, blanks and comments skipped where the pattern is
verbose. -/
def peekSecond? : Read (Option Char) := do
  let r ← get
  let rest := r.ahead.drop 1
  return (if r.flags.verbose then dropVerbose rest.length rest else rest).head?

/-- Reads a range, a literal or a class inside a set. -/
def setRange : Read CharSet := do
  let first ← setItem
  skipVerbose
  let next ← peek?
  let second ← peekSecond?
  require next.isSome
  if next != some '-' || second == some ']' || second == some '-' then
    match first with
    | .literal c => return .char c
    | .set s => return s
    | .look _ => refuse
  else
    let _ ← take
    skipVerbose
    let last ← setItem
    match first, last with
    | .literal lo, .literal hi => require (lo ≤ hi); return .range lo hi
    | _, _ => refuse

/-- Takes leading hyphens of a set as literals. -/
def leadingHyphens : Nat → Option CharSet → Read (Option CharSet)
  | 0, acc => return acc
  | fuel + 1, acc => do
    if ← takeIf "-" then
      skipVerbose
      leadingHyphens fuel (addPart acc (.char '-'))
    else return acc

/-- Reads a set up to its closing bracket. `opening` says that the opening bracket has just
been taken; `union` and `pending` hold what has been read of the set. -/
def bracketSet : Nat → Bool → Bool → Option (SetOp × CharSet) → Option CharSet → Read CharSet
  | 0, _, _, _, _ => refuse
  | fuel + 1, opening, negated, pending, union => do
    skipVerbose
    if opening then
      let negated ← takeIf "^"
      require ((← get).flags.wide || !negated)
      skipVerbose
      let r ← get
      let union ← leadingHyphens r.ahead.length none
      let first ← peek?
      if union.isNone && first == some ']' then
        let _ ← take
        bracketSet fuel false negated none (some (.char ']'))
      else bracketSet fuel false negated none union
    else
      let flags := (← get).flags
      match ← peek? with
      | none => refuse
      | some ']' =>
        let _ ← take
        let s := closeSet flags pending union
        return if negated then .compl s else s
      | some '[' =>
        match ← asciiSet with
        | some s => bracketSet fuel false negated pending (addPart union s)
        | none =>
          let _ ← take
          let s ← bracketSet fuel true false none none
          bracketSet fuel false negated pending (addPart union s)
      | some _ =>
        if ← takeIf "&&" then
          bracketSet fuel false negated (some (.inter, closeSet flags pending union)) none
        else if ← takeIf "--" then
          bracketSet fuel false negated (some (.diff, closeSet flags pending union)) none
        else if ← takeIf "~~" then
          bracketSet fuel false negated (some (.symmDiff, closeSet flags pending union)) none
        else
          let s ← setRange
          bracketSet fuel false negated pending (addPart union s)

/-! ### Flags and groups -/

/-- Sets or clears the flag of a letter. -/
def setFlag? (f : Flags) (on : Bool) : Char → Option Flags
  | 'i' => some { f with caseless := on }
  | 'm' => some { f with multiLine := on }
  | 's' => some { f with dotAll := on }
  | 'U' => some { f with swapGreed := on }
  | 'u' => some { f with wide := on }
  | 'R' => some { f with crlf := on }
  | 'x' => some { f with verbose := on }
  | _ => none

/-- Applies the letters of a flag list; a letter may occur once, and so may the `-` that
turns the letters behind it off, but not at the end. -/
def applyFlags? (f : Flags) (on : Bool) (seen : List Char) : List Char → Option Flags
  | [] => if seen.head? = some '-' then none else some f
  | c :: cs =>
    if seen.contains c then none
    else if c = '-' then applyFlags? f false (c :: seen) cs
    else (setFlag? f on c).bind fun f => applyFlags? f on (c :: seen) cs

/-- Whether a character may stand in a group name. -/
def isNameChar (first : Bool) (c : Char) : Bool :=
  let letter := Text.isWord c && !Text.isDigit c
  letter || (!first && (c == '.' || c == '[' || c == ']' || Text.isDigit c))

/-- Takes the next group number. -/
def newGroup : Read Nat := do
  let r ← get
  set { r with nextGroup := r.nextGroup + 1 }
  return r.nextGroup

/-- How a group starts. -/
inductive GroupStart where
  | capture (index : Nat)
  | plain (flags : Flags)
  | switch (flags : Flags)

/-- Reads the name of a group up to its `>`. -/
def groupName : Read Unit := do
  let name ← takeWhile (· != '>')
  require (← takeIf ">")
  match name with
  | [] => refuse
  | c :: cs => require (isNameChar true c && cs.all (isNameChar false))
  let r ← get
  require !(r.names.contains name)
  set { r with names := name :: r.names }

/-- Reads the start of a group after its `(`. -/
def groupStart : Read GroupStart := do
  skipVerbose
  let r ← get
  if ["?=", "?!", "?<=", "?<!"].any fun s => s.toList.isPrefixOf r.ahead then refuse
  else if ← takeIf "?P<" then
    let index ← newGroup
    groupName
    return .capture index
  else if ← takeIf "?<" then
    let index ← newGroup
    groupName
    return .capture index
  else if ← takeIf "?" then
    let letters ← takeWhile fun c => c != ':' && c != ')'
    let stop ← take
    match applyFlags? r.flags true [] letters with
    | none => refuse
    | some flags =>
      if stop = ')' then
        require !letters.isEmpty
        return .switch flags
      else return .plain flags
  else return .capture (← newGroup)

/-! ### Repetitions -/

/-- Whether a repetition is greedy: a `?` behind it makes it lazy, and the flag swaps. -/
def greed : Read Bool := do
  let isLazy ← takeIf "?"
  return isLazy == (← get).flags.swapGreed

/-- A repetition count; blanks around it are skipped. -/
def count? : Read (Option Nat) := do
  let _ ← takeWhile Text.isBlank
  let digits ← takeWhile Char.isDigit
  let _ ← takeWhile Text.isBlank
  if digits.isEmpty then return none
  else
    let n := digits.foldl (fun n c => n * 10 + (c.toNat - '0'.toNat)) 0
    require (n < Nat.pow 2 32)
    return some n

/-- Reads the counts of a repetition after its opening brace. -/
def counts : Read (Nat × Option Nat) := do
  skipVerbose
  let min ← count?
  match min with
  | none => refuse
  | some min =>
    if ← takeIf "," then
      skipVerbose
      if ← takeIf "\x7d" then return (min, none)
      let max ← count?
      match max with
      | none => refuse
      | some max =>
        require (min ≤ max)
        require (← takeIf "\x7d")
        return (min, some max)
    else
      require (← takeIf "\x7d")
      return (min, some min)

/-- Repeats the last part read; there must be one. -/
def repeatLast (min : Nat) (max : Option Nat) (parts : List (Option Regex)) :
    Read (List (Option Regex)) := do
  match parts with
  | some r :: rest => return some (.rep min max (← greed) r) :: rest
  | _ => refuse

/-! ### Expressions -/

/-- One character with a meaning of its own outside sets, or a literal. -/
def primitive (c : Char) : Read Regex := do
  let f := (← get).flags
  match c with
  | '.' =>
    require f.wide
    return .set (if f.dotAll then .all
      else if f.crlf then .compl (.union (.char '\r') (.char '\n')) else .dot)
  | '^' =>
    return .look (if !f.multiLine then .startText else if f.crlf then .startAnyLine else .startLine)
  | '$' =>
    return .look (if !f.multiLine then .endText else if f.crlf then .endAnyLine else .endLine)
  | '\\' =>
    match ← escape with
    | .literal c => return .set (← literalSet c)
    | .set s => return .set s
    | .look a => return .look a
  | c => return .set (← literalSet c)

/-- The parts read for one alternative, last first, as one expression. A flag switch leaves
no part behind. -/
def closeParts (parts : List (Option Regex)) : Regex :=
  Regex.sequence (parts.reverse.filterMap id)

/-- Reads alternatives up to the end of their group, which is not taken. `branches` holds the
alternatives already read and `parts` the parts of the current one, last first. -/
def alternatives : Nat → List Regex → List (Option Regex) → Read Regex
  | 0, _, _ => refuse
  | fuel + 1, branches, parts => do
    skipVerbose
    match ← peek? with
    | none => return Regex.choice (closeParts parts :: branches).reverse
    | some ')' => return Regex.choice (closeParts parts :: branches).reverse
    | some '|' =>
      let _ ← take
      alternatives fuel (closeParts parts :: branches) []
    | some '(' =>
      let _ ← take
      let outer := (← get).flags
      match ← groupStart with
      | .switch flags =>
        modify ({ · with flags := flags })
        alternatives fuel branches (none :: parts)
      | .plain flags =>
        modify ({ · with flags := flags })
        let body ← alternatives fuel [] []
        require (← takeIf ")")
        modify ({ · with flags := outer })
        alternatives fuel branches (some body :: parts)
      | .capture index =>
        let body ← alternatives fuel [] []
        require (← takeIf ")")
        modify ({ · with flags := outer })
        alternatives fuel branches (some (.group index body) :: parts)
    | some '[' =>
      let _ ← take
      let r ← get
      let s ← bracketSet (2 * r.ahead.length + 2) true false none none
      alternatives fuel branches (some (.set s) :: parts)
    | some '*' =>
      let _ ← take
      alternatives fuel branches (← repeatLast 0 none parts)
    | some '+' =>
      let _ ← take
      alternatives fuel branches (← repeatLast 1 none parts)
    | some '?' =>
      let _ ← take
      alternatives fuel branches (← repeatLast 0 (some 1) parts)
    | some '{' =>
      let _ ← take
      require ((parts.head?.bind id).isSome)
      let (min, max) ← counts
      alternatives fuel branches (← repeatLast min max parts)
    | some _ =>
      let c ← take
      let r ← primitive c
      alternatives fuel branches (some r :: parts)

end Reader

/-- The **expression that a text spells**, if the text is a pattern. -/
def read? (s : String) : Option Regex :=
  match Reader.alternatives (s.length + 1) [] [] { ahead := s.toList } with
  | some (r, state) => if state.ahead.isEmpty then some r else none
  | none => none

end ApiGloss.Pattern

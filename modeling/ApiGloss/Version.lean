import ApiGloss.Text.Blank
import ApiGloss.Text.Lines

/-!
# Versions

Semantic versions: three numbers, optional pre-release identifiers and optional build
identifiers. All parts take part in the order. A version is compared through its `rank`, a
list of lists of lists of numbers in lexicographic order, so that the order is total because
the order of lists is:

* a version with pre-release identifiers comes before the same version without;
* numeric identifiers come before others and are ordered by value, others by characters;
* leading zeros of numeric build identifiers decide last.

`Version.resolve` picks, among candidates in order of definition, the one that a block of a
requested version may use.
-/

namespace ApiGloss

/-- A **semantic version**. -/
structure Version where
  major : Nat
  minor : Nat
  patch : Nat
  pre : List (List Char)
  build : List (List Char)
  deriving DecidableEq, Repr

namespace Version

/-! ### Reading -/

/-- The numbers of a version fit 64 bits. -/
def maxNumber : Nat := Nat.pow 2 64 - 1

/-- Reads a number without leading zeros at the start of a text. -/
def readNumber? (s : List Char) : Option (Nat × List Char) :=
  let digits := s.takeWhile Char.isDigit
  let value := digits.foldl (fun n c => n * 10 + (c.toNat - '0'.toNat)) 0
  if digits = [] then none
  else if digits.head? = some '0' ∧ digits ≠ ['0'] then none
  else if maxNumber < value then none
  else some (value, s.dropWhile Char.isDigit)

/-- The characters of an identifier. -/
def isIdentChar (c : Char) : Bool :=
  c.isAlphanum || c == '-'

/-- Whether an identifier is numeric. -/
def isNumeric (ident : List Char) : Bool :=
  ident.all Char.isDigit

/-- Whether an identifier may stand in the pre-release part: numbers have no leading zeros. -/
def validPre (ident : List Char) : Bool :=
  !(isNumeric ident && ident.head? == some '0' && ident.length != 1)

/-- Reads identifiers divided by points at the start of a text. -/
def readIdents? (valid : List Char → Bool) (s : List Char) :
    Option (List (List Char) × List Char) :=
  let run := s.takeWhile fun c => isIdentChar c || c == '.'
  let idents := Chars.split '.' run
  if idents.all fun i => !i.isEmpty && valid i then
    some (idents, s.dropWhile fun c => isIdentChar c || c == '.')
  else none

/-- Reads the pre-release part, if the text starts with one. -/
def readPre? : List Char → Option (List (List Char) × List Char)
  | '-' :: rest => readIdents? validPre rest
  | s => some ([], s)

/-- Reads the build part, if the text starts with one. -/
def readBuild? : List Char → Option (List (List Char) × List Char)
  | '+' :: rest => readIdents? (fun _ => true) rest
  | s => some ([], s)

/-- Reads a point at the start of a text. -/
def readPoint? : List Char → Option (List Char)
  | '.' :: rest => some rest
  | _ => none

/-- Reads a whole text as a version. -/
def ofChars? (s : List Char) : Option Version := do
  let (major, s) ← readNumber? s
  let s ← readPoint? s
  let (minor, s) ← readNumber? s
  let s ← readPoint? s
  let (patch, s) ← readNumber? s
  let (pre, s) ← readPre? s
  let (build, s) ← readBuild? s
  if s = [] then some ⟨major, minor, patch, pre, build⟩ else none

/-- The **version that a text spells**; blanks around it and leading `v` and `=` signs are
skipped. -/
def parse? (s : String) : Option Version :=
  ofChars? ((Chars.trim s.toList).dropWhile fun c => c == 'v' || c == '=')

/-! ### Writing -/

/-- The **written form** of a version. -/
def text (v : Version) : String :=
  let numbers := s!"{v.major}.{v.minor}.{v.patch}"
  let pre := if v.pre = [] then [] else '-' :: Chars.join '.' v.pre
  let build := if v.build = [] then [] else '+' :: Chars.join '.' v.build
  numbers ++ String.ofList (pre ++ build)

/-! ### Order -/

/-- The rank of a pre-release identifier. -/
def preRank (ident : List Char) : List Nat :=
  if isNumeric ident then 0 :: ident.length :: ident.map Char.toNat
  else 1 :: ident.map Char.toNat

/-- The rank of a build identifier; leading zeros count last. -/
def buildRank (ident : List Char) : List Nat :=
  if isNumeric ident then
    let value := ident.dropWhile (· == '0')
    0 :: value.length :: (value.map Char.toNat ++ [ident.length])
  else 1 :: ident.map Char.toNat

/-- The **rank** of a version, compared lexicographically. -/
def rank (v : Version) : List (List (List Nat)) :=
  [[[v.major]], [[v.minor]], [[v.patch]],
   if v.pre = [] then [[1]] else [0] :: v.pre.map preRank,
   v.build.map buildRank]

/-- Versions are ordered by rank. -/
instance : Ord Version := ⟨fun a b => compare a.rank b.rank⟩

/-- `a` comes before `b` or has the same rank. -/
def atMost (a b : Version) : Bool :=
  (compare a b).isLE

/-! ### Resolution -/

/-- Follows the candidates in order. A candidate between the baseline and the requested
version is taken, and its version is the new baseline. -/
def follow (requested : Version) : Version → Option String → List String → Option String
  | _, found, [] => found
  | baseline, found, candidate :: rest =>
    match parse? candidate with
    | some v =>
      if atMost v requested && atMost baseline v then follow requested v (some candidate) rest
      else follow requested baseline found rest
    | none => follow requested baseline found rest

/-- The **candidate that a request may use**: the request itself if it is among them, else the
last candidate reached by `follow` from the default version. -/
def resolve (candidates : List String) (requested fallback : String) : Option String :=
  if candidates.contains requested then some requested
  else match parse? requested, parse? fallback with
    | some r, some base => follow r base none candidates
    | _, _ => none

end Version

end ApiGloss

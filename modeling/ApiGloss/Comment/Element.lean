import ApiGloss.Text.Blank
import ApiGloss.Text.Word

/-!
# Elements of a Block

A block is a sequence of elements, each a tag with its content. An element starts at an `@`,
followed by the name of the tag and one optional blank. Its content runs up to the next line
that starts with a tag, where only blanks and stars may stand before the `@`.

The text before the first `@` belongs to no element. Hooks may change elements while they
are collected.
-/

namespace ApiGloss

/-- One **tag with its content**. -/
structure Element where
  /-- The tag as written. -/
  sourceName : String
  /-- The tag in lower case, by which it is looked up. -/
  name : String
  /-- What follows the tag, up to the next tag. -/
  content : String
  /-- The whole text of the element. -/
  source : String
  deriving DecidableEq, Repr

namespace Element

/-- Blanks and stars, which may stand before a tag on its line. -/
def isMargin (c : Char) : Bool :=
  Text.isInlineBlank c || c == '*'

/-- Whether a line starts with a tag. -/
def startsTag (line : List Char) : Bool :=
  (line.dropWhile isMargin).head? == some '@'

/-- Cuts a text before the first line break that is followed by a tag. -/
def splitAtTag : List Char → List Char × List Char
  | [] => ([], [])
  | c :: cs =>
    if c = '\n' ∧ startsTag cs then ([], c :: cs)
    else
      let (content, rest) := splitAtTag cs
      (c :: content, rest)

/-- Cutting loses nothing. -/
theorem splitAtTag_append (s : List Char) : (splitAtTag s).1 ++ (splitAtTag s).2 = s := by
  induction s with
  | nil => rfl
  | cons c cs ih =>
    unfold splitAtTag
    split
    · rfl
    · simpa using ih

/-- The blank that separates a tag from its content, if there is one. -/
def separator : List Char → List Char
  | [] => []
  | c :: _ => if Text.isInlineBlank c then [c] else []

/-- The separating blank comes first. -/
theorem separator_append_drop (s : List Char) :
    separator s ++ s.drop (separator s).length = s := by
  cases s with
  | nil => rfl
  | cons c cs =>
    by_cases h : Text.isInlineBlank c <;> simp [separator, h]

/-- Reads one element after its `@`: the element and the text from the line break before the
next tag on. -/
def readOne (s : List Char) : Element × List Char :=
  let name := s.takeWhile Text.isPlainWord
  let body := s.dropWhile Text.isPlainWord
  let sep := separator body
  let (content, rest) := splitAtTag (body.drop sep.length)
  ({ sourceName := String.ofList name
     name := String.ofList (name.map Char.toLower)
     content := String.ofList content
     source := String.ofList ('@' :: name ++ sep ++ content) }, rest)

/-- What follows an element is no longer than the text from its `@` on. -/
theorem length_readOne (s : List Char) : (readOne s).2.length ≤ s.length := by
  have h₁ := congrArg List.length (splitAtTag_append
    ((s.dropWhile Text.isPlainWord).drop (separator (s.dropWhile Text.isPlainWord)).length))
  have h₂ : (s.dropWhile Text.isPlainWord).length ≤ s.length :=
    (List.dropWhile_sublist _).length_le
  simp only [List.length_append, List.length_drop] at h₁
  simp only [readOne]
  omega

/-- The elements of a block, in order. -/
def tokens (s : List Char) : List Element :=
  match _h : s.dropWhile (· != '@') with
  | [] => []
  | _ :: rest => (readOne rest).1 :: tokens (readOne rest).2
termination_by s.length
decreasing_by
  have h₁ := length_readOne rest
  have h₂ : (s.dropWhile (· != '@')).length ≤ s.length := (List.dropWhile_sublist _).length_le
  rw [_h] at h₂
  simp only [List.length_cons] at h₂
  omega

end Element

/-- A **hook** on the collection of elements. -/
structure ElementHook where
  /-- Changes an element before it is added. -/
  onElement : Element → Element := id
  /-- Changes the list after each addition. -/
  onElements : List Element → List Element := id

namespace Element

/-- Adds one element to the list, with all hooks in turn. -/
def collect (hooks : List ElementHook) (acc : List Element) (e : Element) : List Element :=
  let e := hooks.foldl (fun e h => h.onElement e) e
  hooks.foldl (fun es h => h.onElements es) (acc ++ [e])

/-- The **elements of a block** under hooks. -/
def findAll (hooks : List ElementHook) (block : String) : List Element :=
  (tokens block.toList).foldl (collect hooks) []

end Element

end ApiGloss

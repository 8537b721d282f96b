import ApiGloss.Pattern.Regex

/-!
# Finding Matches

Searching a text for the leftmost match of an expression, and going through all matches
from left to right. Matches do not overlap, and an empty match right behind the previous
match does not count.

`Regex.scan` cuts a text into the matches, each with the text skipped before it, and the text
that is left: putting all pieces together again gives the text.
-/

namespace ApiGloss

/-- A match found in a text. -/
structure Found where
  /-- The text between the previous match and this one. -/
  skipped : List Char
  /-- The text that matched. -/
  text : List Char
  /-- What the groups captured, latest first. -/
  captures : List (Nat × List Char)

/-- The text that a group captured last. -/
def Found.group? (f : Found) (index : Nat) : Option (List Char) :=
  f.captures.lookup index

namespace Regex

/-- Matches an expression right at a state. -/
def matchAt (r : Regex) (s : MatchState) : Option MatchState :=
  r.run some { s with captures := [] }

/-- The leftmost match from a state on: the skipped text, where the match starts and where it
ends. -/
def search (r : Regex) (before : Option Char) (pos : Nat) :
    List Char → Option (List Char × List Char × MatchState)
  | [] => (r.matchAt ⟨before, [], pos, []⟩).map fun e => ([], [], e)
  | c :: cs =>
    match r.matchAt ⟨before, c :: cs, pos, []⟩ with
    | some e => some ([], c :: cs, e)
    | none => (search r (some c) (pos + 1) cs).map fun (skipped, rest) => (c :: skipped, rest)

/-- The next match that counts: an empty match that ends where the previous match ended is
passed over by searching from one character further on. -/
def next? (r : Regex) (last : Option Nat) (s : MatchState) :
    Option (List Char × List Char × MatchState) :=
  match r.search s.before s.pos s.ahead with
  | none => none
  | some (skipped, here, e) =>
    if e.ahead.length = here.length ∧ some e.pos = last then
      match s.ahead with
      | [] => none
      | c :: cs =>
        (r.search (some c) (s.pos + 1) cs).map fun (skipped, rest) => (c :: skipped, rest)
    else some (skipped, here, e)

/-- All matches from a state on and the text behind the last one. -/
def scanFrom (r : Regex) : Nat → Option Nat → MatchState → List Found × List Char
  | 0, _, s => ([], s.ahead)
  | fuel + 1, last, s =>
    match r.next? last s with
    | none => ([], s.ahead)
    | some (skipped, here, e) =>
      let found : Found := ⟨skipped, here.take (here.length - e.ahead.length), e.captures⟩
      let (more, rest) := scanFrom r fuel (some e.pos) e
      (found :: more, rest)

/-- **All matches** in a text and the text behind the last one. -/
def scan (r : Regex) (s : List Char) : List Found × List Char :=
  r.scanFrom (s.length + 2) none (.start s)

/-- The first match in a text. -/
def find? (r : Regex) (s : List Char) : Option MatchState :=
  (r.search none 0 s).map fun (_, _, e) => e

/-- Whether an expression matches somewhere in a text. -/
def matches? (r : Regex) (s : List Char) : Bool :=
  (r.find? s).isSome

/-- Replaces all matches. -/
def replaceAll (r : Regex) (f : Found → List Char) (s : List Char) : List Char :=
  let (found, rest) := r.scan s
  found.flatMap (fun m => m.skipped ++ f m) ++ rest

/-- Deletes all matches. -/
def deleteAll (r : Regex) (s : List Char) : List Char :=
  r.replaceAll (fun _ => []) s

end Regex

end ApiGloss

import ApiGloss.Pattern.CharSet

/-!
# Regular Expressions

Regular expressions with captures and their matching. Of several ways to match, the first in
order of preference counts: the left alternative before the right one, more rounds of a
greedy repetition before fewer, fewer rounds of a lazy one before more.

`Regex.run` passes the state behind each part to a continuation, which says whether the
whole match succeeds from there. A further round of an unbounded repetition must consume
something; only its first round may match the empty text. The recursion is structural on
the expression, and the rounds of a repetition are bounded by the text that is left.
-/

namespace ApiGloss

/-- Conditions on a position that consume nothing. -/
inductive Assertion where
  | startText
  | endText
  | startLine
  | endLine
  /-- Line start where carriage returns break lines too. -/
  | startAnyLine
  /-- Line end where carriage returns break lines too. -/
  | endAnyLine
  | wordEdge (isWord : CharSet)
  | noWordEdge (isWord : CharSet)
  | wordStart (isWord : CharSet)
  | wordEnd (isWord : CharSet)
  | wordStartHalf (isWord : CharSet)
  | wordEndHalf (isWord : CharSet)
  deriving DecidableEq, Repr

/-- A **regular expression**. -/
inductive Regex where
  | empty
  | set (s : CharSet)
  | look (a : Assertion)
  | seq (a b : Regex)
  | alt (a b : Regex)
  /-- At least `min` rounds, at most `max` if given. -/
  | rep (min : Nat) (max : Option Nat) (greedy : Bool) (r : Regex)
  /-- A capture group with its number. -/
  | group (index : Nat) (r : Regex)
  deriving DecidableEq, Repr

/-- Where a match stands: the character before, the text ahead, how many characters have been
passed, and what the groups have captured so far, latest first. -/
structure MatchState where
  before : Option Char
  ahead : List Char
  pos : Nat
  captures : List (Nat × List Char)

namespace MatchState

/-- The state at the start of a text. -/
def start (s : List Char) : MatchState :=
  ⟨none, s, 0, []⟩

/-- Records what group `index` captured since the earlier state `since`. -/
def capture (s : MatchState) (index : Nat) (since : MatchState) : MatchState :=
  { s with captures := (index, since.ahead.take (s.pos - since.pos)) :: s.captures }

/-- The text that a group captured last. -/
def group? (s : MatchState) (index : Nat) : Option (List Char) :=
  s.captures.lookup index

end MatchState

/-- Whether an assertion holds between the character before and the text ahead. -/
def Assertion.holds (a : Assertion) (s : MatchState) : Bool :=
  let next := s.ahead.head?
  let inWord (w : CharSet) (c? : Option Char) : Bool := c?.any w.mem
  match a with
  | .startText => s.before.isNone
  | .endText => next.isNone
  | .startLine => s.before.isNone || s.before == some '\n'
  | .endLine => next.isNone || next == some '\n'
  | .startAnyLine =>
    s.before.isNone || s.before == some '\n' || (s.before == some '\r' && next != some '\n')
  | .endAnyLine =>
    next.isNone || next == some '\r' || (next == some '\n' && s.before != some '\r')
  | .wordEdge w => inWord w s.before != inWord w next
  | .noWordEdge w => inWord w s.before == inWord w next
  | .wordStart w => !inWord w s.before && inWord w next
  | .wordEnd w => inWord w s.before && !inWord w next
  | .wordStartHalf w => !inWord w s.before
  | .wordEndHalf w => !inWord w next

namespace Regex

variable {β : Type}

/-- Exactly `n` rounds. -/
def copies (step : (MatchState → Option β) → MatchState → Option β) :
    Nat → (MatchState → Option β) → MatchState → Option β
  | 0, k, s => k s
  | n + 1, k, s => step (copies step n k) s

/-- The preferred of two continuations first. -/
def prefer (greedy : Bool) (more stop : Unit → Option β) : Option β :=
  if greedy then (more ()).orElse stop else (stop ()).orElse more

/-- At most `n` rounds. -/
def upTo (step : (MatchState → Option β) → MatchState → Option β) (greedy : Bool) :
    Nat → (MatchState → Option β) → MatchState → Option β
  | 0, k, s => k s
  | n + 1, k, s => prefer greedy (fun _ => step (upTo step greedy n k) s) (fun _ => k s)

/-- Any number of further rounds, each of which consumes something; at most `fuel`. -/
def many (step : (MatchState → Option β) → MatchState → Option β) (greedy : Bool)
    (k : MatchState → Option β) : Nat → MatchState → Option β
  | 0, s => k s
  | fuel + 1, s =>
    prefer greedy
      (fun _ => step (fun s' => if s'.pos = s.pos then none else many step greedy k fuel s') s)
      (fun _ => k s)

/-- One round, then further ones. If the first round consumes nothing, it is the only one. -/
def atLeastOne (step : (MatchState → Option β) → MatchState → Option β) (greedy : Bool)
    (k : MatchState → Option β) (s : MatchState) : Option β :=
  step (fun s' => if s'.pos = s.pos then k s' else many step greedy k s'.ahead.length s') s

/-- The rounds of a repetition. -/
def rounds (step : (MatchState → Option β) → MatchState → Option β) (min : Nat)
    (max : Option Nat) (greedy : Bool) (k : MatchState → Option β) (s : MatchState) : Option β :=
  match max, min with
  | some m, _ => copies step min (upTo step greedy (m - min) k) s
  | none, 0 => prefer greedy (fun _ => atLeastOne step greedy k s) (fun _ => k s)
  | none, n + 1 => copies step n (atLeastOne step greedy k) s

/-- **Matches an expression** at a state and goes on with the continuation `k`. -/
def run : Regex → (MatchState → Option β) → MatchState → Option β
  | .empty, k, s => k s
  | .set cs, k, s =>
    match s.ahead with
    | [] => none
    | c :: ahead =>
      if cs.mem c then k { s with before := some c, ahead := ahead, pos := s.pos + 1 } else none
  | .look a, k, s => if a.holds s then k s else none
  | .seq a b, k, s => a.run (b.run k) s
  | .alt a b, k, s => (a.run k s).orElse fun _ => b.run k s
  | .rep min max greedy r, k, s => rounds (fun k' s' => r.run k' s') min max greedy k s
  | .group index r, k, s => r.run (fun s' => k (s'.capture index s)) s

/-! ### Building expressions -/

/-- One character. -/
def char (c : Char) : Regex :=
  .set (.char c)

/-- A set of characters. -/
def cls (c : CharClass) : Regex :=
  .set (.named c)

/-- Expressions one after the other. -/
def sequence : List Regex → Regex
  | [] => .empty
  | [r] => r
  | r :: rs => .seq r (sequence rs)

/-- Alternatives, the preferred one first. -/
def choice : List Regex → Regex
  | [] => .set .none
  | [r] => r
  | r :: rs => .alt r (choice rs)

/-- Any number of rounds, as many as possible. -/
def star (r : Regex) : Regex := .rep 0 none true r

/-- At least one round, as many as possible. -/
def plus (r : Regex) : Regex := .rep 1 none true r

/-- Any number of rounds, as few as possible. -/
def lazyStar (r : Regex) : Regex := .rep 0 none false r

/-- At least one round, as few as possible. -/
def lazyPlus (r : Regex) : Regex := .rep 1 none false r

/-- At most one round, preferably one. -/
def opt (r : Regex) : Regex := .rep 0 (some 1) true r

/-- The characters of a text, one after the other. -/
def chars (s : String) : List Regex :=
  s.toList.map char

end Regex

end ApiGloss

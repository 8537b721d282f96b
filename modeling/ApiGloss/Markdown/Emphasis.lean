import ApiGloss.Markdown.Inline

/-!
# Emphasis

Runs of stars, underscores and tildes open and close emphasis. `Emphasis.resolve` takes the
parts of a text from left to right: each run that can close looks for the nearest run to its
left that can open, and what stands between them is emphasised. Runs without a partner are
text.
-/

namespace ApiGloss.Markdown.Emphasis

/-- A **run** of marks. -/
structure Run where
  char : Char
  /-- How many marks are left. -/
  count : Nat
  /-- How many marks it had. -/
  length : Nat
  canOpen : Bool
  canClose : Bool
  deriving DecidableEq, Repr

/-- A run from the characters around it. A run next to a word opens or closes emphasis; an
underscore inside a word does neither. -/
def Run.between (char : Char) (length : Nat) (before after : Char) : Run :=
  let isLeft := !Text.isBlank after &&
    !(Text.isPunctuation after && !Text.isBlank before && !Text.isPunctuation before)
  let isRight := !Text.isBlank before &&
    !(Text.isPunctuation before && !Text.isBlank after && !Text.isPunctuation after)
  { char, count := length, length
    canOpen := isLeft && (char != '_' || !isRight || Text.isPunctuation before)
    canClose := isRight && (char != '_' || !isLeft || Text.isPunctuation after) }

/-- The marks of a run as text. -/
def Run.text (r : Run) : Inline :=
  .text (List.replicate r.count r.char)

/-- A part of a text whose emphasis is still open. -/
inductive Token where
  | part (i : Inline)
  | run (r : Run)
  deriving Inhabited

/-- A token as text. -/
def Token.toInline : Token → Inline
  | .part i => i
  | .run r => r.text

/-- Whether two runs may enclose emphasis. If one of them could do both, their lengths must not
add up to a multiple of three, unless both are such multiples. -/
def Run.mayPair (opener closer : Run) : Bool :=
  opener.canOpen && opener.char == closer.char &&
    !((closer.canOpen || opener.canClose) && (opener.length + closer.length) % 3 == 0 &&
      !(opener.length % 3 == 0 && closer.length % 3 == 0))

/-- The nearest opener to the left of a closer, in tokens given backwards: the tokens between
them in order, the opener, and the tokens to its left backwards. -/
def findOpener? (closer : Run) (between : List Token) :
    List Token → Option (List Token × Run × List Token)
  | [] => none
  | .run r :: rest =>
    if r.mayPair closer then some (between, r, rest)
    else findOpener? closer (.run r :: between) rest
  | t :: rest => findOpener? closer (t :: between) rest

/-- Emphasis by a number of marks. -/
def enclose (char : Char) (marks : Nat) (parts : List Inline) : Inline :=
  if char = '~' then .deleted parts else if marks = 2 then .strong parts else .emphasis parts

/-- What is known while tokens are taken from left to right. -/
structure Progress where
  /-- The tokens so far, backwards. -/
  tokens : List Token
  /-- Tildes that do not match end the search for emphasis. -/
  isStopped : Bool := false

/-- Pairs a run that can close with openers, as long as it has marks; `fuel` bounds their
number. -/
def closeRun : Nat → Run → List Token → Progress
  | 0, _, tokens => { tokens }
  | fuel + 1, closer, tokens =>
    match findOpener? closer [] tokens with
    | none =>
      { tokens := (if closer.canOpen then .run closer else .part closer.text) :: tokens }
    | some (between, opener, rest) =>
      let marks := if 2 ≤ closer.count && 2 ≤ opener.count then 2 else 1
      if closer.char = '~' ∧ (opener.count ≠ closer.count ∨ marks < opener.count) then
        { tokens := .run closer :: tokens, isStopped := true }
      else
        let part := enclose closer.char marks (between.map Token.toInline)
        let rest := if opener.count = marks then rest
          else .run { opener with count := opener.count - marks } :: rest
        let tokens := .part part :: rest
        if closer.count = marks then { tokens }
        else closeRun fuel { closer with count := closer.count - marks } tokens

/-- Takes one token. -/
def Progress.add (p : Progress) (t : Token) : Progress :=
  match t with
  | .run r =>
    if p.isStopped || !r.canClose then { p with tokens := t :: p.tokens }
    else closeRun (r.count + 1) r p.tokens
  | .part _ => { p with tokens := t :: p.tokens }

/-- **Resolves the emphasis** in a sequence of tokens. -/
def resolve (tokens : List Token) : List Inline :=
  ((tokens.foldl Progress.add { tokens := [] }).tokens.map Token.toInline).reverse

end ApiGloss.Markdown.Emphasis

import ApiGloss.Markdown.Inline

/-!
# Links Without Markup

Addresses in plain text become links: web addresses with a scheme or with `www.` in front, and
mail addresses. Punctuation at the end of an address does not belong to it.
-/

namespace ApiGloss.Markdown.Autolink

/-! ### Web addresses -/

/-- Whether a character may occur in the name of a host. -/
def isHostChar (c : Char) : Bool :=
  !(Text.isBlank c || Text.isPunctuation c)

/-- Whether a text starts with the name of a host. Of its parts between points the last two must
not have an underscore. `allowShort` admits names without a point; `points` counts the points,
and `inPrevious` and `inCurrent` say whether the last two parts so far have an underscore. -/
def startsWithHost (allowShort : Bool) (points : Nat) (inPrevious inCurrent : Bool) :
    List Char → Bool
  | [] => !((inPrevious || inCurrent) && points ≤ 10) && (allowShort || 0 < points)
  | c :: cs =>
    if c == '\\' && !cs.isEmpty then startsWithHost allowShort points inPrevious inCurrent cs
    else if c == '_' then startsWithHost allowShort points inPrevious true cs
    else if c == '.' then startsWithHost allowShort (points + 1) inCurrent false cs
    else if isHostChar c || c == '-' then
      startsWithHost allowShort points inPrevious inCurrent cs
    else !inPrevious && !inCurrent && (allowShort || 0 < points)

/-- Punctuation that never ends an address. -/
def isTrailing (c : Char) : Bool :=
  ['?', '!', '.', ',', ':', '*', '_', '~', '\'', '"'].contains c

/-- Cuts off what does not belong to the end of an address, which is given backwards: trailing
punctuation, a character reference, and a closing parenthesis without an opening one. `fuel`
bounds the length of the address. -/
def trimEnd : Nat → List Char → List Char
  | 0, s => s
  | _ + 1, [] => []
  | fuel + 1, c :: cs =>
    if isTrailing c then trimEnd fuel cs
    else if c == ';' then
      match cs.takeWhile Char.isAlpha, cs.dropWhile Char.isAlpha with
      | _ :: _, '&' :: rest => trimEnd fuel rest
      | _, _ => trimEnd fuel cs
    else if c == ')' then
      if (c :: cs).count ')' ≤ (c :: cs).count '(' then c :: cs else trimEnd fuel cs
    else c :: cs

/-- The address at the start of a text: up to a space or an angle bracket, without what does not
belong to its end. -/
def takeAddress (s : List Char) : List Char :=
  let address := (s.takeWhile fun c => !isSpace c).takeWhile (· != '<')
  (trimEnd address.length address.reverse).reverse

/-- The schemes of addresses. -/
def schemes : List (List Char) :=
  ["http".toList, "https".toList, "ftp".toList]

/-- An address around a colon: its scheme, and what belongs to it from the colon on. `before` is
what stands before the colon, backwards. -/
def atColon? (before rest : List Char) : Option (List Char × List Char) :=
  match rest with
  | ':' :: '/' :: '/' :: c :: cs =>
    let scheme := (before.takeWhile Char.isAlpha).reverse
    if schemes.contains scheme && startsWithHost true 0 false false (c :: cs) then
      some (scheme, takeAddress rest)
    else none
  | _ => none

/-- An address that starts with `www.`. `before` is what stands before it, backwards. -/
def atWww? (before rest : List Char) : Option (List Char) :=
  let mayStart := match before with
    | [] => true
    | c :: _ => isSpace c || ['*', '_', '~', '(', '['].contains c
  if mayStart && (after? "www.".toList rest).isSome && startsWithHost false 0 false false rest then
    some (takeAddress rest)
  else none

/-! ### Mail addresses -/

/-- Whether a character may stand before the at sign of a mail address. -/
def isMailChar (c : Char) : Bool :=
  c.isAlphanum || ['.', '+', '-', '_'].contains c

/-- What stands before the at sign of an address. -/
structure MailStart where
  /-- The start of the address. -/
  chars : List Char
  /-- The text before it, backwards. -/
  before : List Char
  hasScheme : Bool
  isChat : Bool

/-- Goes backwards over the start of an address, of which `chars` has been read. -/
def mailStart (chars : List Char) (hasScheme isChat : Bool) : List Char → MailStart
  | [] => { chars, before := [], hasScheme, isChat }
  | c :: cs =>
    let scheme := String.ofList (cs.takeWhile Char.isAlpha).reverse
    if isMailChar c then mailStart (c :: chars) hasScheme isChat cs
    else if c == ':' && scheme == "mailto" then mailStart (c :: chars) true isChat cs
    else if c == ':' && scheme == "xmpp" then mailStart (c :: chars) true true cs
    else { chars, before := c :: cs, hasScheme, isChat }

/-- Reads what stands behind the at sign: the host, how many points it has, and what follows.
A second at sign spoils the address. -/
def mailHost? (isChat : Bool) : List Char → Option (List Char × Nat × List Char)
  | [] => some ([], 0, [])
  | c :: cs =>
    let isPoint := c == '.' && cs.head?.any Char.isAlphanum
    if c == '@' then none
    else if c.isAlphanum || isPoint || (c == '/' && isChat) || c == '-' || c == '_' then
      (mailHost? isChat cs).map fun (host, points, rest) =>
        (c :: host, if isPoint then points + 1 else points, rest)
    else some ([], 0, c :: cs)

/-- The link at an at sign: the text before it, backwards, the link, and what follows it. -/
def atSign? (before rest : List Char) : Option (List Char × Inline × List Char) := do
  let start := mailStart [] false false before
  if start.chars = [] then none
  let (host, points, rest) ← mailHost? start.isChat rest
  let last ← host.getLast?
  if points = 0 || !(last.isAlpha || last == '.') then none
  let shown := start.chars ++ '@' :: host
  let url := if start.hasScheme then shown else "mailto:".toList ++ shown
  some (start.before, .bareLink url shown, rest)

/-- The first mail address in a text outside of brackets: the text before it, the link, and what
follows it. `before` is what has been passed, backwards, and `depth` counts open brackets. -/
def firstMail? (depth : Int) (before : List Char) :
    List Char → Option (List Char × Inline × List Char)
  | [] => none
  | c :: cs =>
    let depth := if c == '[' then depth + 1 else if c == ']' then depth - 1 else depth
    if c == '@' && depth ≤ 0 then
      match atSign? before cs with
      | some (before, link, rest) => some (before.reverse, link, rest)
      | none => firstMail? depth (c :: before) cs
    else firstMail? depth (c :: before) cs

/-- Makes links of the mail addresses in a text; `fuel` bounds its length. -/
def linkMailsAux : Nat → List Char → List Inline
  | 0, s => [.text s]
  | fuel + 1, s =>
    match firstMail? 0 [] s with
    | none => [.text s]
    | some (before, link, rest) =>
      [.text before, link] ++ if rest = [] then [] else linkMailsAux fuel rest

/-- **Makes links of the mail addresses** in a text. -/
def linkMails (s : List Char) : List Inline :=
  linkMailsAux s.length s

end ApiGloss.Markdown.Autolink

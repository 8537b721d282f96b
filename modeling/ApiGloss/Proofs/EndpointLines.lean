import ApiGloss.Proofs.FirstChoice
import ApiGloss.Tag.Builtin

/-!
# Endpoint Lines Read Back

The first line of an endpoint holds a verb in braces, a URL and a title, with blanks between them.
Verb and title may be left out. The expression for it has three groups that would all take any
character, so what each of them takes is decided by where the parts behind it succeed for the first
time: the verb ends at the first closing brace, the URL at the first blank, and the title nowhere
before the end of the text.

Lines are described by what is written (`Tag.WrittenEndpoint`), and the expression is followed
through them part by part. A title may hold blanks and line breaks, and even end in a blank; all it
must not do is start with one, since the blanks before it are taken first.

## Main results

* `Tag.passes_endpointParts`: what the groups of the expression capture of a written line.
* `Tag.read_written_endpoint`: reading the line of an endpoint undoes writing it.
-/

namespace ApiGloss.Tag

open Regex Text

/-! ### The written form -/

/-- Blanks between two parts of a line, at least one; line breaks are blanks too. -/
structure WrittenGap where
  text : String
  proper : IsRun (.named .blank) text.toList

/-- A **verb as written**, in braces, with the blanks behind it. -/
structure WrittenVerb where
  name : String
  gap : WrittenGap
  name_ne_empty : name.toList ≠ []
  name_unclosed : '}' ∉ name.toList

/-- A **title as written**, with the blanks before it. -/
structure WrittenTitle where
  gap : WrittenGap
  text : String
  text_ne_empty : text.toList ≠ []
  text_start : StartsOutside isBlank text.toList

/-- The **written form of an endpoint**. Without a verb, the URL must not look like the start of
one. -/
structure WrittenEndpoint where
  verb : Option WrittenVerb := none
  url : String
  title : Option WrittenTitle := none
  url_proper : IsRun (.compl (.named .blank)) url.toList
  url_start : verb = none → StartsOutside (· == '{') url.toList

namespace WrittenEndpoint

variable (w : WrittenEndpoint)

/-- The verb in braces. -/
def verbChars : List Char :=
  w.verb.elim [] fun v => '{' :: (v.name.toList ++ '}' :: v.gap.text.toList)

/-- The title behind its blanks. -/
def titleChars : List Char :=
  w.title.elim [] fun t => t.gap.text.toList ++ t.text.toList

/-- The **text of a line**: the parts that are there, with blanks between them. -/
def text : String :=
  String.ofList (w.verbChars ++ (w.url.toList ++ w.titleChars))

/-- What the verb in braces captures. -/
def verbCaptures : List (Nat × List Char) :=
  w.verb.elim [] fun v => [(1, v.name.toList)]

/-- What the title captures. -/
def titleCaptures : List (Nat × List Char) :=
  w.title.elim [] fun t => [(3, t.text.toList)]

/-- What the groups capture of a line. -/
def captures : List (Nat × List Char) :=
  w.titleCaptures ++ (2, w.url.toList) :: w.verbCaptures

/-- The **entries** that are written; without a title there is an empty one. -/
def entries : Table Json :=
  w.verb.elim [] (fun v => [("type", .str v.name)]) ++
    [("url", .str w.url), ("title", .str (w.title.elim "" (·.text)))]

end WrittenEndpoint

/-! ### The parts of the expression -/

/-- The verb in braces, with blanks behind it. -/
def verbParts : List Regex :=
  [opt (sequence [char '{', group 1 (lazyPlus (.set .all)), char '}']), star (cls .blank)]

/-- The title with the blanks before it. -/
def titleParts : List Regex :=
  [plus (cls .blank), group 3 (lazyPlus (.set .all))]

/-- The title, and then the end of the text. -/
def endingParts : List Regex :=
  [opt (sequence titleParts), .look .endText]

section Parts

variable (w : WrittenEndpoint) (caps : List (Nat × List Char))

/-- The URL does not start with a blank, whatever follows. -/
theorem startsOutside_url (x : List Char) :
    StartsOutside (CharSet.named .blank).mem (w.url.toList ++ x) := by
  refine w.url_proper.startsOutside (fun c hc => ?_) x
  rw [CharSet.mem, Bool.not_eq_true'] at hc
  exact hc

/-- Where a character is left that is no blank, neither a title nor the end comes next. -/
theorem fails_endingParts {c : Char} (hc : isBlank c = false) (x : List Char) :
    Fails (sequence endingParts) (c :: x) := by
  have hblank : StartsOutside (CharSet.named .blank).mem (c :: x) := startsOutside_cons.mpr hc
  have htitle : Fails (sequence titleParts) (c :: x) := (fails_plus hblank).cons _
  exact fails_opt_cons (htitle.cons _) fails_endText

/-- **The title** is all that is left behind the blanks before it. -/
theorem passes_endingParts :
    Passes (sequence endingParts) (w.titleChars, caps) ([], w.titleCaptures ++ caps) := by
  rw [WrittenEndpoint.titleChars, WrittenEndpoint.titleCaptures, endingParts]
  cases w.title with
  | none =>
      have htitle : Fails (sequence titleParts) [] := (fails_plus (startsOutside_nil _)).cons _
      exact passes_opt_of_fails htitle (passes_endText.cons (passes_nil _))
  | some t =>
      -- at every earlier place the end of the text is still ahead
      have hearlier : ∀ a b, t.text.toList = a ++ b → a ≠ [] → b ≠ [] →
          Fails (sequence [.look .endText]) (b ++ []) := by
        intro a b _ _ hb
        obtain ⟨c, b, rfl⟩ := List.exists_cons_of_ne_nil hb
        exact fails_endText
      have htitle : Passes (sequence [group 3 (lazyPlus (.set .all)), .look .endText])
          (t.text.toList ++ [], caps) ([], (3, t.text.toList) :: caps) :=
        passes_lazyPlus t.text_ne_empty 3 hearlier (passes_endText.cons (passes_nil _))
      rw [List.append_nil] at htitle
      exact Passes.opt ((passes_plus t.gap.proper t.text_start).cons htitle)

/-- **The URL** ends where a blank or the end of the text comes next. -/
theorem passes_urlParts :
    Passes (sequence (group 2 (lazyPlus (.set .all)) :: endingParts))
      (w.url.toList ++ w.titleChars, caps)
      ([], w.titleCaptures ++ (2, w.url.toList) :: caps) := by
  refine passes_lazyPlus w.url_proper.1 2 ?_ (passes_endingParts w _)
  intro a b hsplit _ hb
  obtain ⟨c, b, rfl⟩ := List.exists_cons_of_ne_nil hb
  have hc := w.url_proper.2 c (by rw [hsplit]; simp)
  rw [CharSet.mem, Bool.not_eq_true'] at hc
  exact fails_endingParts hc _

/-- **All parts** of a line are passed over and captured. -/
theorem passes_endpointParts :
    Passes (sequence (opt (sequence verbParts) :: group 2 (lazyPlus (.set .all)) :: endingParts))
      (w.verbChars ++ (w.url.toList ++ w.titleChars), []) ([], w.captures) := by
  have hurl := startsOutside_url w w.titleChars
  rw [WrittenEndpoint.captures, WrittenEndpoint.verbChars, WrittenEndpoint.verbCaptures]
  refine Passes.opt ?_
  cases hverb : w.verb with
  | none =>
      have hbrace : Fails (char '{') (w.url.toList ++ w.titleChars) :=
        fails_char ((w.url_start hverb).append w.url_proper.1 _)
      exact passes_opt_of_fails (hbrace.cons _)
        ((passes_star_nil hurl).cons (passes_urlParts w _))
  | some v =>
      have hearlier : ∀ a b, v.name.toList = a ++ b → a ≠ [] → b ≠ [] →
          Fails (sequence (char '}' :: star (cls .blank) :: group 2 (lazyPlus (.set .all)) ::
            endingParts)) (b ++ '}' :: (v.gap.text.toList ++ (w.url.toList ++ w.titleChars))) := by
        intro a b hsplit _ hb
        obtain ⟨c, b, rfl⟩ := List.exists_cons_of_ne_nil hb
        refine (fails_char (startsOutside_cons.mpr (beq_eq_false_iff_ne.mpr ?_))).cons _
        rintro rfl
        exact v.name_unclosed (by rw [hsplit]; simp)
      have hrest : Passes (sequence (star (cls .blank) :: group 2 (lazyPlus (.set .all)) ::
          endingParts)) (v.gap.text.toList ++ (w.url.toList ++ w.titleChars), [(1, v.name.toList)])
          ([], w.titleCaptures ++ (2, w.url.toList) :: [(1, v.name.toList)]) :=
        (passes_star v.gap.proper.2 hurl).cons (passes_urlParts w _)
      have hname := passes_lazyPlus v.name_ne_empty 1 hearlier (passes_char.cons hrest)
      have htext : '{' :: (v.name.toList ++ '}' :: v.gap.text.toList) ++
          (w.url.toList ++ w.titleChars) = '{' :: (v.name.toList ++
            '}' :: (v.gap.text.toList ++ (w.url.toList ++ w.titleChars))) := by
        simp
      rw [Option.elim_some, Option.elim_some, htext]
      exact Passes.opt (passes_char.cons hname)

end Parts

/-! ### Whole lines -/

/-- The line that the captures of a match describe. -/
theorem parse?_written_endpoint (w : WrittenEndpoint) :
    EndpointLine.parse? w.text =
      some { verb := w.verb.map (·.name), url := w.url, title := w.title.elim "" (·.text) } := by
  obtain ⟨m, hfind, hcaptures⟩ := find?_of_passes (passes_endpointParts w)
  have hexpression : endpointExpression = sequence (.look .startText :: opt (sequence verbParts) ::
      group 2 (lazyPlus (.set .all)) :: endingParts) := rfl
  rw [EndpointLine.parse?, hexpression, WrittenEndpoint.text, String.toList_ofList, hfind]
  simp only [Option.map_some, MatchState.group?, hcaptures, WrittenEndpoint.captures,
    WrittenEndpoint.titleCaptures, WrittenEndpoint.verbCaptures]
  cases w.verb <;> cases w.title <;> simp [List.lookup_cons]

/-- **Reading the line of an endpoint undoes writing it.** From a verb in braces, a URL and a title,
with any blanks between them, exactly these three are read; without a verb no type is read, and
without a title an empty one. -/
theorem read_written_endpoint (w : WrittenEndpoint) (ctx : ReadContext) :
    endpoint.read w.text ctx = .ok (some w.entries, ctx) := by
  show Except.ok ((EndpointLine.parse? w.text).map _, ctx) = _
  rw [parse?_written_endpoint, WrittenEndpoint.entries]
  cases w.verb <;> rfl

/-- A line with braces in all of its parts, and a title of two lines. -/
def bracedLine : WrittenEndpoint where
  verb := some {
    name := "\x7bget"
    gap := ⟨"\t\n", by decide⟩
    name_ne_empty := by decide
    name_unclosed := by decide }
  url := "/a\x7d\x7bb"
  title := some {
    gap := ⟨"  ", by decide⟩
    text := "\x7bA\x7d B\n C"
    text_ne_empty := by decide
    text_start := by decide }
  url_proper := by decide
  url_start := nofun

/-- A line with nothing but a URL. -/
def bareLine : WrittenEndpoint where
  url := "/health"
  url_proper := by decide
  url_start := fun _ => by decide

/-- Braces in a verb, a URL or a title do not move the boundaries between them. -/
theorem read_written_endpoint_braces :
    endpoint.read "\x7b\x7bget\x7d\t\n/a\x7d\x7bb  \x7bA\x7d B\n C" {} =
      .ok (some [("type", .str "\x7bget"), ("url", .str "/a\x7d\x7bb"),
        ("title", .str "\x7bA\x7d B\n C")], {}) ∧
    endpoint.read "/health" {} = .ok (some [("url", .str "/health"), ("title", .str "")], {}) := by
  have hbraced := read_written_endpoint bracedLine {}
  have hbare := read_written_endpoint bareLine {}
  have hbracedText : bracedLine.text =
      "\x7b\x7bget\x7d\t\n/a\x7d\x7bb  \x7bA\x7d B\n C" := by decide
  have hbareText : bareLine.text = "/health" := by decide
  rw [hbracedText] at hbraced
  rw [hbareText] at hbare
  exact ⟨hbraced, hbare⟩

end ApiGloss.Tag

import ApiGloss.Comment.Block
import ApiGloss.Proofs.Preference
import Mathlib.Data.List.Chain
import Mathlib.Data.List.Infix

/-!
# Where Comments Start and End

A comment of a language without patterns of its own starts with `/**` and ends with `*/`. Behind the
opening delimiter there may be a line break, and before the closing one a line break and blanks.
What stands between them is the body. It must not be empty, and it is as short as it can be.

A body is therefore what comes before the first closing delimiter, with one exception. If a comment
is closed right where its body would start, the body cannot end there, because it would be empty: it
runs over the closing delimiter, and on to the next one.

## Main results

* `Block.matchAt_starBlocks_of_isBody`, `Block.exists_isBody_of_matchAt`: what the pattern for
  comments finds.
* `Block.findAll_within_comment_iff`: when the body of a comment lies within the comment.
-/

namespace ApiGloss.Block

open Regex ApiGloss.Language

/-! ### Delimiters -/

/-- The **opening delimiter** of a comment. -/
def opening : List Char := ['/', '*', '*']

/-- The **closing delimiter** of a comment. -/
def closing : List Char := ['*', '/']

/-- No comment ends in the text. -/
def Unclosed (s : List Char) : Prop :=
  ¬ closing <:+: s

/-- In a text without closing delimiter, no star stands before a slash. -/
theorem unclosed_iff_isChain {s : List Char} :
    Unclosed s ↔ s.IsChain fun c d => ¬ (c = '*' ∧ d = '/') := by
  rw [List.isChain_iff_forall_rel_of_append_cons_cons]
  constructor
  · rintro h c d before after hs ⟨rfl, rfl⟩
    exact h ⟨before, after, by rw [hs, List.append_assoc]; rfl⟩
  · rintro h ⟨before, after, hs⟩
    rw [List.append_assoc] at hs
    exact h hs.symm ⟨rfl, rfl⟩

/-- A closing delimiter in two texts stands in one of them or between them. -/
theorem unclosed_append {s t : List Char} :
    Unclosed (s ++ t) ↔
      Unclosed s ∧ Unclosed t ∧ ¬ (s.getLast? = some '*' ∧ t.head? = some '/') := by
  simp only [unclosed_iff_isChain, List.isChain_append]
  refine and_congr_right fun _ => and_congr_right fun _ => ⟨?_, ?_⟩
  · rintro h ⟨hlast, hhead⟩
    exact h '*' hlast '/' hhead ⟨rfl, rfl⟩
  · rintro h c hc d hd ⟨rfl, rfl⟩
    exact h ⟨hc, hd⟩

/-- A text without stars has no closing delimiter. -/
theorem unclosed_of_not_mem {s : List Char} (h : '*' ∉ s) : Unclosed s :=
  fun hclosing => h (hclosing.subset List.mem_cons_self)

/-- No comment ends between an opening and a closing delimiter if none ends in its body. -/
theorem unclosed_around {lead body gap : List Char} (hlead : '*' ∉ lead) (hbody : Unclosed body)
    (hstar : '*' ∉ gap) (hslash : '/' ∉ gap) : Unclosed (lead ++ (body ++ (gap ++ ['*']))) := by
  have hgap : Unclosed (gap ++ ['*']) :=
    unclosed_append.mpr ⟨unclosed_of_not_mem hstar, unclosed_iff_isChain.mpr (by simp),
      fun h => absurd h.2 (by decide)⟩
  have hhead : (gap ++ ['*']).head? ≠ some '/' := by
    cases gap with
    | nil => decide
    | cons c gap =>
        intro h
        obtain rfl := Option.some.inj h
        exact hslash List.mem_cons_self
  refine unclosed_append.mpr ⟨unclosed_of_not_mem hlead,
    unclosed_append.mpr ⟨hbody, hgap, fun h => hhead h.2⟩, fun h => hlead ?_⟩
  exact List.mem_of_getLast? h.1

/-! ### The end of a comment -/

/-- A **gap** before a closing delimiter: blanks, with a line break before them or not. -/
def IsGap (gap : List Char) : Prop :=
  ∃ blanks, (∀ c ∈ blanks, Text.isBlank c = true) ∧ (gap = blanks ∨ gap = sealedBreak :: blanks)

/-- A text **closes** a comment: it starts with a closing delimiter behind a gap. -/
def Closes (s : List Char) : Prop :=
  ∃ gap rest, IsGap gap ∧ s = gap ++ (closing ++ rest)

/-- What is in a gap is a blank or a line break. -/
theorem IsGap.blank_or_break {gap : List Char} (h : IsGap gap) {c : Char} (hc : c ∈ gap) :
    Text.isBlank c = true ∨ c = sealedBreak := by
  obtain ⟨blanks, hblanks, rfl | rfl⟩ := h
  · exact Or.inl (hblanks c hc)
  · rcases List.mem_cons.mp hc with rfl | hc
    · exact Or.inr rfl
    · exact Or.inl (hblanks c hc)

/-- Other characters are not in a gap. -/
theorem IsGap.not_mem {gap : List Char} (h : IsGap gap) {c : Char}
    (hblank : Text.isBlank c = false) (hbreak : c ≠ sealedBreak) : c ∉ gap := by
  intro hc
  rcases h.blank_or_break hc with hc | hc
  · rw [hblank] at hc
    cases hc
  · exact hbreak hc

variable {β : Type} {k : MatchState → Option β} {s : MatchState} {b : β}

/-- Blanks before the closing delimiter. -/
theorem run_blanks_eq_some_iff :
    (sequence (opt (star (cls .blank)) :: chars "*/")).run k s = some b ↔
      ∃ blanks rest, (∀ c ∈ blanks, Text.isBlank c = true) ∧
        s.ahead = blanks ++ (closing ++ rest) ∧
        k (s.after (blanks ++ closing) rest) = some b := by
  rw [run_sequence_cons, run_opt_star, cls, run_star_eq_some_iff]
  simp only [run_chars_eq_some_iff]
  constructor
  · rintro ⟨blanks, ahead, hahead, hblanks, ⟨rest, hrest, hk⟩, -⟩
    rw [MatchState.ahead_after] at hrest
    rw [MatchState.after_after] at hk
    exact ⟨blanks, rest, hblanks, by rw [hahead, hrest]; rfl, hk⟩
  · rintro ⟨blanks, rest, hblanks, hahead, hk⟩
    refine ⟨blanks, closing ++ rest, hahead, hblanks,
      ⟨rest, rfl, by rw [MatchState.after_after]; exact hk⟩,
      fun longer rest' hsplit hlonger hlt => ?_⟩
    -- A longer run of blanks would hold the star of the closing delimiter.
    have hstar : blanks ++ ['*'] <+: longer := by
      refine List.prefix_of_prefix_length_le ⟨'/' :: rest, ?_⟩ ⟨rest', hsplit.symm⟩ ?_
      · rw [hahead, List.append_assoc]
        rfl
      · rw [List.length_append, List.length_singleton]
        exact hlt
    have hmem : '*' ∈ longer := hstar.subset (List.mem_append_right _ List.mem_cons_self)
    exact absurd (hlonger '*' hmem) (by decide)

/-- **The end of a comment**: a gap and the closing delimiter. -/
theorem run_closing_eq_some_iff :
    (sequence (opt (char sealedBreak) :: opt (star (cls .blank)) :: chars "*/")).run k s =
        some b ↔
      ∃ gap rest, IsGap gap ∧ s.ahead = gap ++ (closing ++ rest) ∧
        k (s.after (gap ++ closing) rest) = some b := by
  rw [run_sequence_cons, run_opt_eq_some_iff]
  constructor
  · rintro (h | ⟨-, h⟩)
    · obtain ⟨ahead, hahead, h⟩ := run_char_eq_some_iff.mp h
      obtain ⟨blanks, rest, hblanks, hrest, hk⟩ := run_blanks_eq_some_iff.mp h
      rw [MatchState.ahead_after] at hrest
      rw [MatchState.after_singleton_after] at hk
      exact ⟨sealedBreak :: blanks, rest, ⟨blanks, hblanks, Or.inr rfl⟩,
        by rw [hahead, hrest]; rfl, hk⟩
    · obtain ⟨blanks, rest, hblanks, hrest, hk⟩ := run_blanks_eq_some_iff.mp h
      exact ⟨blanks, rest, ⟨blanks, hblanks, Or.inl rfl⟩, hrest, hk⟩
  · rintro ⟨gap, rest, ⟨blanks, hblanks, rfl | rfl⟩, hahead, hk⟩
    · refine Or.inr ⟨?_, run_blanks_eq_some_iff.mpr ⟨_, rest, hblanks, hahead, hk⟩⟩
      rw [Option.eq_none_iff_forall_ne_some]
      intro b' hrun
      obtain ⟨ahead, hbreak, -⟩ := run_char_eq_some_iff.mp hrun
      -- The text ahead starts with a blank or a star, not with a line break.
      cases gap with
      | nil => exact absurd (List.cons.inj (hahead.symm.trans hbreak)).1 (by decide)
      | cons c gap =>
          obtain rfl := (List.cons.inj (hahead.symm.trans hbreak)).1
          exact absurd (hblanks _ List.mem_cons_self) (by decide)
    · refine Or.inl (run_char_eq_some_iff.mpr ⟨_, hahead, ?_⟩)
      refine run_blanks_eq_some_iff.mpr ⟨blanks, rest, hblanks, rfl, ?_⟩
      rw [MatchState.after_singleton_after]
      exact hk

/-- No end of a comment is found where a text does not close it. -/
theorem run_closing_eq_none_iff :
    (sequence (opt (char sealedBreak) :: opt (star (cls .blank)) :: chars "*/")).run some s =
        none ↔ ¬ Closes s.ahead := by
  rw [Option.eq_none_iff_forall_ne_some]
  constructor
  · rintro h ⟨gap, rest, hgap, hahead⟩
    exact h _ (run_closing_eq_some_iff.mpr ⟨gap, rest, hgap, hahead, rfl⟩)
  · intro h e hrun
    obtain ⟨gap, rest, hgap, hahead, -⟩ := run_closing_eq_some_iff.mp hrun
    exact h ⟨gap, rest, hgap, hahead⟩

/-! ### The body of a comment -/

/-- The **body** of a comment in the text behind its start: not empty, and as short as it can be. -/
structure IsBody (ahead body gap rest : List Char) : Prop where
  split : ahead = body ++ (gap ++ (closing ++ rest))
  ne_nil : body ≠ []
  oneLine : '\n' ∉ body
  isGap : IsGap gap
  shortest : ∀ shorter rest', ahead = shorter ++ rest' → shorter ≠ [] →
    shorter.length < body.length → ¬ Closes rest'

/-- The part of a comment from its body on. -/
def bodyPart : List Regex :=
  group 1 (lazyPlus (.set .dot)) ::
    opt (char sealedBreak) :: opt (star (cls .blank)) :: chars "*/"

/-- **The body of a comment** is captured, and the match ends behind the closing delimiter. -/
theorem run_bodyPart_eq_some_iff {e : MatchState} :
    (sequence bodyPart).run some s = some e ↔
      ∃ body gap rest, IsBody s.ahead body gap rest ∧
        e = { s.after (body ++ gap ++ closing) rest with captures := (1, body) :: s.captures } := by
  have hstate : ∀ body gap ahead rest : List Char,
      { s.after (body ++ gap ++ closing) rest with captures := (1, body) :: s.captures } =
        MatchState.after { s.after body ahead with captures := (1, body) :: s.captures }
          (gap ++ closing) rest := by
    intro body gap ahead rest
    rw [List.append_assoc, ← MatchState.after_after s body (gap ++ closing) ahead rest]
    rfl
  rw [bodyPart, run_sequence_cons, run, run_lazyPlus_eq_some_iff]
  constructor
  · rintro ⟨body, ahead, hsplit, ⟨hne, hdot⟩, hclosing, hshorter⟩
    rw [MatchState.capture_after hsplit] at hclosing
    obtain ⟨gap, rest, hgap, hahead, he⟩ := run_closing_eq_some_iff.mp hclosing
    refine ⟨body, gap, rest, ⟨hsplit.trans (congrArg (body ++ ·) hahead), hne, fun hbreak => ?_,
      hgap, fun shorter rest' hsplit' hne' hlt => ?_⟩, ?_⟩
    · exact absurd (hdot '\n' hbreak) (by decide)
    · exact run_closing_eq_none_iff.mp (hshorter shorter rest' hsplit' hne' hlt)
    · rw [hstate body gap ahead rest]
      exact (Option.some.inj he).symm
  · rintro ⟨body, gap, rest, ⟨hsplit, hne, hbreak, hgap, hshortest⟩, rfl⟩
    refine ⟨body, gap ++ (closing ++ rest), hsplit, ⟨hne, fun c hc => ?_⟩, ?_,
      fun shorter rest' hsplit' hne' hlt => ?_⟩
    · rw [CharSet.mem_dot, bne_iff_ne]
      rintro rfl
      exact hbreak hc
    · rw [MatchState.capture_after hsplit]
      refine run_closing_eq_some_iff.mpr ⟨gap, rest, hgap, rfl, ?_⟩
      rw [hstate body gap (gap ++ (closing ++ rest)) rest]
    · exact run_closing_eq_none_iff.mpr (hshortest shorter rest' hsplit' hne' hlt)

/-- The pattern of comments: the opening delimiter, an optional line break, and the body. -/
theorem starBlocks_eq : starBlocks.regex =
    sequence (chars "/**" ++ opt (char sealedBreak) :: bodyPart) := rfl

/-- **A comment is found** where a line break follows the opening delimiter, and then a body. -/
theorem matchAt_starBlocks_of_isBody {tail body gap rest : List Char}
    (hahead : s.ahead = opening ++ sealedBreak :: tail) (h : IsBody tail body gap rest) :
    starBlocks.regex.matchAt s =
      some { s.after (opening ++ sealedBreak :: (body ++ gap ++ closing)) rest with
        captures := [(1, body)] } := by
  rw [starBlocks_eq, matchAt, run_sequence_append, run_chars_eq_some_iff]
  refine ⟨sealedBreak :: tail, hahead, ?_⟩
  rw [run_sequence_cons, run_opt_eq_some_iff]
  refine Or.inl (run_char_eq_some_iff.mpr ⟨tail, rfl, ?_⟩)
  refine run_bodyPart_eq_some_iff.mpr ⟨body, gap, rest, h, ?_⟩
  rw [MatchState.after_after, MatchState.after_after]
  simp only [List.append_assoc, List.cons_append, List.nil_append]
  rfl

/-- **What is found is a comment**: the opening delimiter, perhaps a line break, and a body. -/
theorem exists_isBody_of_matchAt {e : MatchState} (h : starBlocks.regex.matchAt s = some e) :
    ∃ lead tail body gap rest, (lead = [] ∨ lead = [sealedBreak]) ∧
      s.ahead = opening ++ (lead ++ tail) ∧ IsBody tail body gap rest ∧
      e.captures = [(1, body)] := by
  rw [starBlocks_eq, matchAt, run_sequence_append, run_chars_eq_some_iff] at h
  obtain ⟨ahead, hahead, h⟩ := h
  rw [run_sequence_cons, run_opt_eq_some_iff, run_char_eq_some_iff] at h
  rcases h with ⟨tail, htail, h⟩ | ⟨-, h⟩
  · obtain ⟨body, gap, rest, hbody, rfl⟩ := run_bodyPart_eq_some_iff.mp h
    exact ⟨[sealedBreak], tail, body, gap, rest, Or.inr rfl, hahead.trans (congrArg _ htail),
      hbody, rfl⟩
  · obtain ⟨body, gap, rest, hbody, rfl⟩ := run_bodyPart_eq_some_iff.mp h
    exact ⟨[], ahead, body, gap, rest, Or.inl rfl, hahead, hbody, rfl⟩

/-- A body that is closed at once runs over the closing delimiter, and no other body does. -/
theorem IsBody.closing_infix_iff {ahead body gap rest : List Char}
    (h : IsBody ahead body gap rest) : closing <:+: body ↔ closing <+: ahead := by
  constructor
  · rintro ⟨before, after, heq⟩
    cases before with
    | nil => exact ⟨after ++ (gap ++ (closing ++ rest)), by rw [h.split, ← heq]; simp⟩
    | cons c before =>
        -- The body could have ended before the closing delimiter.
        refine absurd ⟨[], after ++ (gap ++ (closing ++ rest)), ⟨[], nofun, Or.inl rfl⟩, rfl⟩
          (h.shortest (c :: before) _ ?_ (List.cons_ne_nil _ _) ?_)
        · rw [h.split, ← heq]
          simp only [List.append_assoc, List.cons_append, List.nil_append]
        · rw [← heq]
          simp [closing]
  · rintro ⟨after, heq⟩
    rw [h.split] at heq
    match body with
    | [] => exact absurd rfl h.ne_nil
    | [c] =>
        -- Behind the star of the delimiter there is a slash, and neither a gap nor another star.
        have hslash : '/' :: after = gap ++ (closing ++ rest) := (List.cons.inj heq).2
        cases gap with
        | nil => exact absurd (List.cons.inj hslash).1 (by decide)
        | cons d gap =>
            obtain rfl := (List.cons.inj hslash).1
            exact absurd List.mem_cons_self (h.isGap.not_mem (by decide) (by decide))
    | c :: d :: body =>
        obtain ⟨rfl, htail⟩ := List.cons.inj heq
        obtain ⟨rfl, -⟩ := List.cons.inj htail
        exact ⟨[], body, rfl⟩

/-! ### Sealed line breaks -/

/-- A line break is sealed, and every other character stays. -/
def sealChar (c : Char) : Char :=
  if c = '\n' then sealedBreak else c

/-- Sealing unifies line breaks and then goes through the text. -/
theorem sealBreaks_eq_map (s : List Char) : sealBreaks s = (Chars.unifyBreaks s).map sealChar := rfl

/-- What is not a sealed line break has not been sealed. -/
theorem eq_of_sealChar {c d : Char} (h : sealChar c = d) (hd : d ≠ sealedBreak) : c = d := by
  unfold sealChar at h
  split at h
  · exact absurd h.symm hd
  · exact h

/-- A piece of a sealed text without line breaks stands in the text itself. -/
theorem exists_of_map_sealChar {s before piece after : List Char}
    (h : s.map sealChar = before ++ (piece ++ after)) (hpiece : sealedBreak ∉ piece) :
    ∃ before' after', s = before' ++ (piece ++ after') ∧ before'.map sealChar = before ∧
      after'.map sealChar = after := by
  obtain ⟨before', rest, rfl, hbefore, hrest⟩ := List.map_eq_append_iff.mp h
  obtain ⟨piece', after', rfl, hsame, hafter⟩ := List.map_eq_append_iff.mp hrest
  refine ⟨before', after', ?_, hbefore, hafter⟩
  suffices hpiece' : piece' = piece by rw [hpiece']
  clear h hrest
  induction piece' generalizing piece with
  | nil => simpa using hsame
  | cons c piece' ih =>
      obtain ⟨d, piece, rfl⟩ : ∃ d rest, piece = d :: rest := ⟨_, _, hsame.symm⟩
      obtain ⟨hd, hpiece⟩ := not_or.mp (mt List.mem_cons.mpr hpiece)
      obtain ⟨hc, hsame⟩ := List.cons.inj hsame
      rw [eq_of_sealChar hc (Ne.symm hd), ih hpiece hsame]

/-- Sealing neither makes nor breaks closing delimiters. -/
theorem closing_infix_map_sealChar {s : List Char} :
    closing <:+: s.map sealChar ↔ closing <:+: s := by
  constructor
  · rintro ⟨before, after, h⟩
    rw [List.append_assoc] at h
    obtain ⟨before, after, rfl, -, -⟩ := exists_of_map_sealChar h.symm (by decide)
    exact ⟨before, after, List.append_assoc _ _ _⟩
  · exact fun h => h.map sealChar

/-- Sealing neither makes nor breaks a closing delimiter at the start. -/
theorem closing_prefix_map_sealChar {s : List Char} :
    closing <+: s.map sealChar ↔ closing <+: s := by
  constructor
  · rintro ⟨after, h⟩
    have hsplit : s.map sealChar = [] ++ (closing ++ after) := h.symm
    obtain ⟨before, after, rfl, hbefore, -⟩ := exists_of_map_sealChar hsplit (by decide)
    obtain rfl := List.map_eq_nil_iff.mp hbefore
    exact ⟨after, rfl⟩
  · exact fun h => h.map sealChar

/-- Line breaks are restored whether they have been sealed or not. -/
theorem unsealBreaks_map_sealChar (s : List Char) :
    unsealBreaks (s.map sealChar) = unsealBreaks s := by
  unfold unsealBreaks
  rw [List.map_map]
  refine List.map_congr_left fun c _ => ?_
  unfold sealChar
  by_cases hc : c = '\n'
  · subst hc
    decide
  · simp [hc]

/-! ### Comments in a source text -/

/-- The body of a match with one group is what the group has captured. -/
theorem body?_of_captures {f : Found} {body : List Char} (hne : body ≠ [])
    (h : f.captures = [(1, body)]) : f.body? general.blocks.regex.groups = some body := by
  have hgroups : general.blocks.regex.groups = 1 := by decide
  have hgroup : f.group? 1 = some body := by
    rw [Found.group?, h]
    rfl
  rw [hgroups, Found.body?, List.range_one, List.findSome?_singleton, hgroup,
    Option.filter_some, if_pos]
  rw [Bool.not_eq_true', List.isEmpty_eq_false_iff]
  exact hne

/-- A **comment** in a source text: the text before it, a line break behind its opening delimiter or
nothing, its body, and the text behind the body. -/
structure Comment where
  before : List Char
  lead : List Char
  body : List Char
  rest : List Char

namespace Comment

/-- The source text with the comment. -/
def source (c : Comment) : List Char :=
  c.before ++ (opening ++ (c.lead ++ (c.body ++ c.rest)))

/-- The body **lies within** the comment: strictly between the opening delimiter and the first
closing delimiter behind it. -/
def LiesWithin (c : Comment) : Prop :=
  ∃ inner after, c.lead ++ (c.body ++ c.rest) = inner ++ (closing ++ after) ∧
    Unclosed (inner ++ ['*']) ∧ c.lead ++ c.body <+: inner

/-- The comment is **closed at once**: its closing delimiter stands where its body starts. -/
def ClosedAtOnce (c : Comment) : Prop :=
  closing <+: c.body ++ c.rest

end Comment

/-- What is written as a line break, or stands for one. -/
def IsBreak (c : Char) : Prop :=
  c = '\n' ∨ c = sealedBreak

/-- A body that is found in a sealed text is the body of a comment in the text. -/
theorem exists_comment_of_mem_bodies {s body : List Char}
    (h : body ∈ bodies general (s.map sealChar)) :
    ∃ c : Comment, c.body.map sealChar = body ∧ c.source = s ∧
      (c.lead = [] ∨ ∃ b, c.lead = [b] ∧ IsBreak b) ∧
      (closing <:+: c.body ↔ c.ClosedAtOnce) ∧ (c.LiesWithin ↔ ¬ c.ClosedAtOnce) := by
  obtain ⟨f, hf, hbody⟩ := List.mem_filterMap.mp h
  obtain ⟨before, here, st, e, hs, rfl, hmatch, hcaptures⟩ := exists_matchAt_of_mem_scan hf
  obtain ⟨lead, tail, body', gap, rest, hlead, hahead, hisBody, he⟩ :=
    exists_isBody_of_matchAt hmatch
  rw [body?_of_captures hisBody.ne_nil (hcaptures.trans he)] at hbody
  cases hbody
  have hclosing := hisBody.closing_infix_iff
  have hgap := hisBody.isGap
  rw [hisBody.split] at hclosing hahead
  rw [hahead] at hs
  -- The comment in the text itself, piece by piece.
  obtain ⟨before, inside, rfl, -, hinside⟩ := exists_of_map_sealChar hs (by decide)
  obtain ⟨lead, behind, rfl, rfl, hbehind⟩ := List.map_eq_append_iff.mp hinside
  obtain ⟨body, ending, rfl, rfl, hending⟩ := List.map_eq_append_iff.mp hbehind
  obtain ⟨gap, rest, rfl, rfl, rfl⟩ := exists_of_map_sealChar hending (by decide)
  have hlead' : lead = [] ∨ ∃ b, lead = [b] ∧ IsBreak b := by
    refine hlead.imp List.map_eq_nil_iff.mp fun h => ?_
    obtain ⟨b, rfl, hb⟩ := List.map_eq_singleton_iff.mp h
    refine ⟨b, rfl, ?_⟩
    unfold sealChar at hb
    split at hb
    · exact Or.inl ‹_›
    · exact Or.inr hb
  have hclosed : closing <:+: body ↔ closing <+: body ++ (gap ++ (closing ++ rest)) := by
    rwa [← hbehind, closing_infix_map_sealChar, closing_prefix_map_sealChar] at hclosing
  refine ⟨⟨before, lead, body, gap ++ (closing ++ rest)⟩, rfl, rfl, hlead', hclosed, ?_, ?_⟩
  · rintro ⟨inner, after, -, hinner, hpiece⟩ honce
    have hbody : body <:+: inner := (List.suffix_append lead body).isInfix.trans hpiece.isInfix
    exact hinner (((hclosed.mpr honce).trans hbody).trans (List.prefix_append _ _).isInfix)
  · intro honce
    refine ⟨lead ++ (body ++ gap), rest, by simp only [List.append_assoc], ?_,
      ⟨gap, by simp only [List.append_assoc]⟩⟩
    rw [List.append_assoc, List.append_assoc]
    refine unclosed_around ?_ (fun h => honce (hclosed.mp h)) ?_ ?_
    · rcases hlead' with rfl | ⟨b, rfl, rfl | rfl⟩ <;> decide
    · exact fun h => hgap.not_mem (c := '*') (by decide) (by decide) (List.mem_map_of_mem h)
    · exact fun h => hgap.not_mem (c := '/') (by decide) (by decide) (List.mem_map_of_mem h)

/-- A list of things that are all made in one way. -/
theorem exists_map_eq {α β : Type} {f : α → β} {P : α → Prop} {l : List β}
    (h : ∀ b ∈ l, ∃ a, f a = b ∧ P a) : ∃ as : List α, as.map f = l ∧ ∀ a ∈ as, P a := by
  induction l with
  | nil => exact ⟨[], rfl, nofun⟩
  | cons b l ih =>
      obtain ⟨⟨a, ha, hP⟩, hl⟩ := List.forall_mem_cons.mp h
      obtain ⟨as, has, hall⟩ := ih hl
      exact ⟨a :: as, by rw [List.map_cons, ha, has], List.forall_mem_cons.mpr ⟨hP, hall⟩⟩

/-- **When the body of a comment lies within it.** Every block of a source text is what stripping
leaves of the body of a comment in the text, with its line breaks unified. The body starts behind
the opening delimiter and at most one line break. It lies between the opening delimiter and the
first closing delimiter behind it unless the comment is closed at once; if it is, the body holds the
closing delimiter, and runs on behind it. -/
theorem findAll_within_comment_iff (src : String) :
    ∃ comments : List Comment,
      findAll general src = comments.map (fun c => String.ofList (strip general c.body)) ∧
      ∀ c ∈ comments, c.source = Chars.unifyBreaks src.toList ∧
        (c.lead = [] ∨ ∃ b, c.lead = [b] ∧ IsBreak b) ∧
        (closing <:+: c.body ↔ c.ClosedAtOnce) ∧ (c.LiesWithin ↔ ¬ c.ClosedAtOnce) := by
  obtain ⟨comments, hbodies, hall⟩ := exists_map_eq fun body
    (hbody : body ∈ bodies general ((Chars.unifyBreaks src.toList).map sealChar)) =>
      exists_comment_of_mem_bodies hbody
  refine ⟨comments, ?_, hall⟩
  rw [findAll, sealBreaks_eq_map, ← hbodies, List.map_map]
  refine List.map_congr_left fun c _ => ?_
  rw [Function.comp_apply, strip, strip, unsealBreaks_map_sealChar]

/-- A comment that is closed at once takes in the code behind it. -/
example : findAll general "/**\n*/ code(); /* x */" = ["/ code(); /* x"] := by decide +kernel

end ApiGloss.Block

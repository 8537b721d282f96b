import ApiGloss.Proofs.Comments

/-!
# Formatted Comments Are Read Back

Lines are written into a comment with a blank, a star and a blank before each of them. Finding the
comments of a source text undoes this: whatever stands in the lines, as long as it does not end the
comment, the blocks that are found are the lines that were written, unchanged.

Two scans are involved. The first finds the comments. Code without an opening delimiter is skipped
(`scanned_starBlocks`), and the body of a formatted comment is everything up to its last line break,
because no line closes the comment. The second deletes the decoration of lines. It matches once at
the start of every line, takes what was put there and nothing else, and finds nothing within a line
(`scanned_starInlines`), so that blanks and stars that belong to the line stay.

## Main results

* `Block.isBody_formatted`: the body of a formatted comment.
* `Block.strip_formatted`: its decoration is deleted.
* `Block.findAll_sourceText`: the comments of a source text are read back.
-/

namespace ApiGloss

/-! ### Unified line breaks -/

namespace Chars

/-- A text without carriage returns has unified line breaks. -/
theorem unifyBreaks_append_of_not_mem {s : List Char} (h : '\r' ∉ s) (t : List Char) :
    unifyBreaks (s ++ t) = s ++ unifyBreaks t := by
  induction s with
  | nil => rfl
  | cons c s ih =>
      obtain ⟨hc, hs⟩ := not_or.mp (mt List.mem_cons.mpr h)
      rw [List.cons_append, unifyBreaks_cons (Ne.symm hc), ih hs, List.cons_append]

/-- Line breaks are unified on both sides of a place that is not before a line feed. -/
theorem unifyBreaks_append {t : List Char} (h : t.head? ≠ some '\n') (s : List Char) :
    unifyBreaks (s ++ t) = unifyBreaks s ++ unifyBreaks t := by
  fun_induction unifyBreaks s with
  | case1 => rfl
  | case2 s ih => rw [List.cons_append, List.cons_append, unifyBreaks, ih, List.cons_append]
  | case3 c s hother ih =>
      rw [List.cons_append, unifyBreaks, ih, List.cons_append]
      rintro rest hreturn hfeed
      cases s with
      | nil => exact h (by rw [show t = '\n' :: rest from hfeed]; rfl)
      | cons d s =>
          obtain ⟨rfl, -⟩ := List.cons.inj hfeed
          exact hother s hreturn rfl

/-- What a text with unified line breaks starts with, line feeds apart, the text starts with. -/
theorem prefix_of_unifyBreaks {piece s : List Char} (hpiece : '\n' ∉ piece)
    (h : piece <+: unifyBreaks s) : piece <+: s := by
  fun_induction unifyBreaks s generalizing piece with
  | case1 => exact h
  | case2 s ih =>
      cases piece with
      | nil => exact List.nil_prefix
      | cons d piece =>
          obtain ⟨rfl, -⟩ := List.cons_prefix_cons.mp h
          exact absurd List.mem_cons_self hpiece
  | case3 c s hother ih =>
      cases piece with
      | nil => exact List.nil_prefix
      | cons d piece =>
          obtain ⟨rfl, htail⟩ := List.cons_prefix_cons.mp h
          have hpiece' : '\n' ∉ piece := fun hm => hpiece (List.mem_cons_of_mem _ hm)
          exact List.cons_prefix_cons.mpr ⟨rfl, ih hpiece' htail⟩

/-- A piece without line feeds of a text with unified line breaks is a piece of the text. -/
theorem infix_of_unifyBreaks {piece s : List Char} (hpiece : '\n' ∉ piece)
    (h : piece <:+: unifyBreaks s) : piece <:+: s := by
  fun_induction unifyBreaks s with
  | case1 => exact h
  | case2 s ih =>
      rcases List.infix_cons_iff.mp h with hstart | hrest
      · rw [← unifyBreaks] at hstart
        exact (prefix_of_unifyBreaks hpiece hstart).isInfix
      · exact (ih hrest).trans (List.suffix_append ['\r', '\n'] s).isInfix
  | case3 c s hother ih =>
      rcases List.infix_cons_iff.mp h with hstart | hrest
      · rw [← unifyBreaks.eq_3 c s hother] at hstart
        exact (prefix_of_unifyBreaks hpiece hstart).isInfix
      · exact (ih hrest).trans (List.suffix_cons c s).isInfix

/-- Lines with a line break behind each of them. -/
theorem unlines_append_break {lines : List (List Char)} (h : lines ≠ []) :
    unlines lines ++ ['\n'] = lines.flatMap (· ++ ['\n']) := by
  obtain ⟨line, lines, rfl⟩ := List.exists_cons_of_ne_nil h
  rw [unlines, join_cons, List.flatMap_cons, List.append_assoc, List.append_assoc]
  congr 1
  clear h
  induction lines with
  | nil => rfl
  | cons next lines ih =>
      rw [List.flatMap_cons, List.flatMap_cons, List.append_assoc, ih]
      simp only [List.cons_append, List.nil_append, List.append_assoc]

end Chars

namespace Block

open Regex ApiGloss.Language

/-! ### Formatted comments -/

/-- A line with its decoration. -/
def decorated (line : List Char) : List Char :=
  ' ' :: '*' :: ' ' :: line

/-- Lines with their decoration. -/
def decoratedLines (lines : List (List Char)) : List Char :=
  Chars.unlines (lines.map decorated)

/-- The first line, and each of the others behind a line break. -/
theorem decoratedLines_cons (line : List Char) (lines : List (List Char)) :
    decoratedLines (line :: lines) =
      decorated line ++ (lines.map decorated).flatMap ('\n' :: ·) := by
  rw [decoratedLines, Chars.unlines, List.map_cons, Chars.join_cons]

/-- A **formatted comment**. -/
def formatted (lines : List (List Char)) : List Char :=
  opening ++ '\n' :: (decoratedLines lines ++ '\n' :: ' ' :: closing)

/-- A text that can be a **line** of a comment. -/
structure IsLine (line : List Char) : Prop where
  noFeed : '\n' ∉ line
  noReturn : '\r' ∉ line
  noSealed : sealedBreak ∉ line
  unclosed : Unclosed line

instance (line : List Char) : Decidable (IsLine line) :=
  decidable_of_iff ('\n' ∉ line ∧ '\r' ∉ line ∧ sealedBreak ∉ line ∧ ¬ closing <:+: line)
    ⟨fun ⟨hfeed, hreturn, hsealed, hclosing⟩ => ⟨hfeed, hreturn, hsealed, hclosing⟩,
      fun h => ⟨h.noFeed, h.noReturn, h.noSealed, h.unclosed⟩⟩

variable {lines : List (List Char)}

/-- Decoration closes no comment. -/
theorem unclosed_decorated {line : List Char} (h : Unclosed line) : Unclosed (decorated line) := by
  have hmark : Unclosed [' ', '*', ' '] := unclosed_iff_isChain.mpr (by simp)
  exact (unclosed_append (s := [' ', '*', ' '])).mpr
    ⟨hmark, h, fun hend => absurd hend.1 (by decide)⟩

/-- A line break before each line keeps slashes from the start. -/
theorem head?_flatMap_break (lines : List (List Char)) :
    (lines.flatMap ('\n' :: ·)).head? ≠ some '/' := by
  cases lines <;> simp

/-- Further lines close no comment. -/
theorem unclosed_flatMap_break (h : ∀ line ∈ lines, Unclosed line) :
    Unclosed (lines.flatMap ('\n' :: ·)) := by
  induction lines with
  | nil => exact unclosed_of_not_mem List.not_mem_nil
  | cons line lines ih =>
      obtain ⟨hline, hlines⟩ := List.forall_mem_cons.mp h
      have hfeed : Unclosed ['\n'] := unclosed_of_not_mem (by decide)
      have hfirst : Unclosed ('\n' :: line) :=
        (unclosed_append (s := ['\n'])).mpr ⟨hfeed, hline, fun hend => absurd hend.1 (by decide)⟩
      rw [List.flatMap_cons]
      exact unclosed_append.mpr ⟨hfirst, ih hlines, fun hend => head?_flatMap_break lines hend.2⟩

/-- Decoration and line breaks close no comment. -/
theorem unclosed_decoratedLines (h : ∀ line ∈ lines, Unclosed line) :
    Unclosed (decoratedLines lines) := by
  have hdecorated : ∀ line ∈ lines.map decorated, Unclosed line :=
    List.forall_mem_map.mpr fun line hline => unclosed_decorated (h line hline)
  cases lines with
  | nil => exact unclosed_of_not_mem List.not_mem_nil
  | cons line lines =>
      obtain ⟨hline, hlines⟩ := List.forall_mem_cons.mp hdecorated
      rw [decoratedLines_cons]
      exact unclosed_append.mpr
        ⟨hline, unclosed_flatMap_break hlines, fun hend => head?_flatMap_break _ hend.2⟩

/-- Before the line break of a gap, nothing closes a comment that is not closed in it. -/
theorem not_closes_of_break {more rest : List Char} (hne : more ≠ [])
    (h : Unclosed (more ++ [sealedBreak, ' '])) :
    ¬ Closes (more ++ ([sealedBreak, ' '] ++ (closing ++ rest))) := by
  rintro ⟨gap, rest', hgap, hsplit⟩
  -- The gap would have a line break behind something else.
  have hlonger : ∀ extra, gap ≠ more ++ [sealedBreak, ' '] ++ extra := by
    rintro extra rfl
    obtain ⟨c, more, rfl⟩ := List.exists_cons_of_ne_nil hne
    have hblank : ∀ d ∈ more ++ [sealedBreak, ' '] ++ extra, Text.isBlank d = true := by
      obtain ⟨blanks, hblanks, heq | heq⟩ := hgap
      · exact fun d hd => hblanks d (heq ▸ List.mem_cons_of_mem _ hd)
      · obtain ⟨-, rfl⟩ := List.cons.inj heq
        exact hblanks
    exact absurd (hblank sealedBreak (by simp)) (by decide)
  rw [← List.append_assoc more] at hsplit
  rcases List.append_eq_append_iff.mp hsplit with ⟨extra, hgapEq, -⟩ | ⟨extra, hmore, hclosing⟩
  · exact hlonger extra hgapEq
  · match extra with
    | [] => exact hlonger [] (by rw [hmore, List.append_nil, List.append_nil])
    | [c] =>
        obtain ⟨rfl, htail⟩ := List.cons.inj hclosing
        exact absurd (List.cons.inj htail).1 (by decide)
    | c :: d :: extra =>
        obtain ⟨rfl, htail⟩ := List.cons.inj hclosing
        obtain ⟨rfl, -⟩ := List.cons.inj htail
        exact h ⟨gap, extra, by rw [hmore, List.append_assoc]; rfl⟩

/-- **The body of a formatted comment** is everything up to its last line break. -/
theorem isBody_formatted (hne : lines ≠ []) (h : ∀ line ∈ lines, Unclosed line)
    (rest : List Char) :
    IsBody ((decoratedLines lines ++ '\n' :: ' ' :: closing).map sealChar ++ rest)
      ((decoratedLines lines).map sealChar) [sealedBreak, ' '] rest where
  split := by
    rw [List.map_append, List.append_assoc]
    rfl
  ne_nil := by
    obtain ⟨line, lines, rfl⟩ := List.exists_cons_of_ne_nil hne
    rw [decoratedLines_cons]
    exact List.cons_ne_nil _ _
  oneLine := by
    intro hfeed
    obtain ⟨c, -, hc⟩ := List.mem_map.mp hfeed
    unfold sealChar at hc
    split at hc
    · exact absurd hc (by decide)
    · exact absurd hc ‹_›
  isGap := ⟨[' '], List.forall_mem_singleton.mpr (by decide), Or.inr rfl⟩
  shortest := by
    intro shorter rest' hsplit _ hlt
    rw [List.map_append, List.append_assoc] at hsplit
    have hshort : shorter <+: (decoratedLines lines).map sealChar :=
      List.prefix_of_prefix_length_le ⟨rest', hsplit.symm⟩ (List.prefix_append _ _)
        (Nat.le_of_lt hlt)
    obtain ⟨more, hmore⟩ := hshort
    rw [← hmore, List.append_assoc] at hsplit
    have hbody : Unclosed ((decoratedLines lines).map sealChar) := fun hclosing =>
      unclosed_decoratedLines h (closing_infix_map_sealChar.mp hclosing)
    rw [← hmore] at hbody
    obtain ⟨-, hunclosed, -⟩ := unclosed_append.mp hbody
    have hne' : more ≠ [] := by
      rintro rfl
      rw [List.append_nil] at hmore
      exact Nat.lt_irrefl _ (hmore ▸ hlt)
    rw [← List.append_cancel_left hsplit]
    refine not_closes_of_break hne' (unclosed_append.mpr ⟨hunclosed, ?_, ?_⟩)
    · exact unclosed_of_not_mem (by decide)
    · exact fun hend => absurd hend.2 (by decide)

/-! ### Deleting the decoration -/

/-- A match stands **within a line**, and not at its start. -/
def WithinLine (s : MatchState) : Prop :=
  ∃ c, s.before = some c ∧ c ≠ '\n'

/-- Text without line breaks leads to no other line. -/
theorem WithinLine.after {s : MatchState} (h : WithinLine s) {text : List Char}
    (htext : '\n' ∉ text) (rest : List Char) : WithinLine (s.after text rest) := by
  obtain ⟨c, hc, hne⟩ := h
  cases hlast : text.getLast? with
  | none => exact ⟨c, by rw [MatchState.after, hlast, hc]; rfl, hne⟩
  | some d =>
      refine ⟨d, by rw [MatchState.after, hlast]; rfl, ?_⟩
      rintro rfl
      exact htext (List.mem_of_getLast? hlast)

/-- Within a line there is no decoration. -/
theorem matchAt_starInlines_of_withinLine {s : MatchState} (h : WithinLine s) :
    starInlines.regex.matchAt s = none := by
  obtain ⟨c, hc, hne⟩ := h
  have hholds : Assertion.startLine.holds { s with captures := [] } = false := by
    simp [Assertion.holds, hc, hne]
  rw [matchAt, starInlines, marked, run_sequence_cons, run, hholds]
  rfl

/-- **The decoration at the start of a line** is matched, and nothing of the line itself. -/
theorem exists_matchAt_starInlines {s : MatchState} {line : List Char}
    (hstart : Assertion.startLine.holds s = true) (hahead : s.ahead = decorated line) :
    ∃ e, starInlines.regex.matchAt s = some e ∧ e.ahead = line ∧ WithinLine e := by
  have hmark : ∀ st : MatchState, st.ahead = '*' :: ' ' :: line →
      ∃ e, (sequence [group 2 (sequence (chars "*")), opt (char ' ')]).run some st = some e ∧
        e.ahead = line ∧ WithinLine e := by
    intro st hst
    refine ⟨((st.after ['*'] (' ' :: line)).capture 2 st).after [' '] line, ?_, rfl, ' ', rfl,
      by decide⟩
    rw [run_sequence_cons, run, run_chars_eq_some_iff]
    refine ⟨' ' :: line, hst, ?_⟩
    rw [run_sequence_cons, run_opt_eq_some_iff, run_char_eq_some_iff]
    exact Or.inl ⟨line, rfl, rfl⟩
  have hholds : Assertion.startLine.holds { s with captures := [] } = true := hstart
  obtain ⟨e, hrun, he⟩ := hmark (MatchState.capture
    (MatchState.after { s with captures := [] } [' '] ('*' :: ' ' :: line)) 1
      { s with captures := [] }) rfl
  refine ⟨e, ?_, he⟩
  rw [matchAt, starInlines, marked, run_sequence_cons, run, hholds, if_pos rfl,
    run_sequence_cons, run_opt_eq_some_iff, run, cls, run_star_eq_some_iff]
  refine Or.inl ⟨[' '], '*' :: ' ' :: line, hahead, List.forall_mem_singleton.mpr (by decide),
    hrun, fun longer rest' hsplit hlonger hlt => ?_⟩
  -- A longer run of blanks would hold the star.
  obtain _ | ⟨c, _ | ⟨d, longer⟩⟩ := longer
  · exact absurd hlt (Nat.not_lt_zero _)
  · exact absurd hlt (Nat.lt_irrefl _)
  · obtain ⟨-, htail⟩ := List.cons.inj (hahead.symm.trans hsplit)
    obtain ⟨rfl, -⟩ := List.cons.inj htail
    exact absurd (hlonger '*' (by simp)) (by decide)

/-- **Only the decoration is matched**: what stands between the matches, and behind them, are the
lines. -/
theorem scanned_starInlines {s : MatchState} (hs : WithinLine s) {line : List Char}
    (hahead : s.ahead = line ++ (lines.map decorated).flatMap ('\n' :: ·)) (hline : '\n' ∉ line)
    (hlines : ∀ line ∈ lines, '\n' ∉ line) :
    ∃ found rest, Scanned starInlines.regex s found rest ∧
      found.flatMap Found.skipped ++ rest = line ++ lines.flatMap ('\n' :: ·) := by
  induction lines generalizing s line with
  | nil =>
      rw [List.map_nil, List.flatMap_nil, List.append_nil] at hahead
      refine ⟨[], s.ahead, .done (search_eq_none_iff.mpr fun skipped here hsplit => ?_), ?_⟩
      · refine matchAt_starInlines_of_withinLine (hs.after (fun hfeed => hline ?_) here)
        rw [← hahead, hsplit]
        exact List.mem_append_left _ hfeed
      · rw [hahead, List.flatMap_nil, List.flatMap_nil, List.append_nil, List.nil_append]
  | cons next lines ih =>
      obtain ⟨hnext, hlines⟩ := List.forall_mem_cons.mp hlines
      generalize htail : (lines.map decorated).flatMap ('\n' :: ·) = tail at ih
      have hsplit : s.ahead = (line ++ ['\n']) ++ decorated (next ++ tail) := by
        rw [hahead, List.map_cons, List.flatMap_cons, htail, List.append_assoc]
        rfl
      have hstart : Assertion.startLine.holds
          (s.after (line ++ ['\n']) (decorated (next ++ tail))) = true := by
        simp [Assertion.holds, MatchState.after]
      obtain ⟨e, hmatch, he, hwithin⟩ := exists_matchAt_starInlines hstart rfl
      obtain ⟨found, rest, hscanned, htext⟩ := ih hwithin he hnext hlines
      refine ⟨_, rest, .next (search_eq_some_iff.mpr ⟨hsplit, hmatch, ?_⟩) ?_ hscanned, ?_⟩
      · intro earlier rest' hearlier hlt
        rw [List.length_append, List.length_singleton] at hlt
        have hshort : earlier <+: line :=
          List.prefix_of_prefix_length_le ⟨rest', hearlier.symm⟩
            ⟨_, (hsplit.trans (List.append_assoc _ _ _)).symm⟩ (Nat.le_of_lt_succ hlt)
        refine matchAt_starInlines_of_withinLine (hs.after (fun hfeed => hline ?_) rest')
        exact hshort.subset hfeed
      · rw [he, decorated]
        simp only [List.length_cons]
        omega
      · rw [List.flatMap_cons, List.append_assoc, htext]
        simp

/-- Characters that neither a line nor its decoration has are in no decorated line. -/
theorem not_mem_decoratedLines {c : Char} (hfeed : c ≠ '\n') (hmark : c ∉ decorated [])
    (h : ∀ line ∈ lines, c ∉ line) : c ∉ decoratedLines lines := by
  have hdecorated : ∀ line ∈ lines, c ∉ decorated line := by
    intro line hline hmem
    rcases List.mem_append.mp (show c ∈ decorated [] ++ line from hmem) with hmem | hmem
    · exact hmark hmem
    · exact h line hline hmem
  cases lines with
  | nil => exact List.not_mem_nil
  | cons line lines =>
      obtain ⟨hline, hlines⟩ := List.forall_mem_cons.mp hdecorated
      rw [decoratedLines_cons, List.mem_append, List.flatMap_map, List.mem_flatMap]
      rintro (hmem | ⟨next, hnext, hmem⟩)
      · exact hline hmem
      · rcases List.mem_cons.mp hmem with hmem | hmem
        · exact hfeed hmem
        · exact hlines next hnext hmem

/-- There is nothing to restore in a text without sealed line breaks. -/
theorem unsealBreaks_of_not_mem {s : List Char} (h : sealedBreak ∉ s) : unsealBreaks s = s := by
  unfold unsealBreaks
  refine (List.map_congr_left fun c hc => ?_).trans (List.map_id s)
  have hother : c ≠ sealedBreak := fun heq => h (heq ▸ hc)
  exact if_neg hother

/-- **The decoration of a formatted comment is deleted**, and the lines stay as they are. -/
theorem strip_formatted (hne : lines ≠ []) (h : ∀ line ∈ lines, IsLine line) :
    strip general ((decoratedLines lines).map sealChar) = Chars.unlines lines := by
  have hunseal : unsealBreaks (decoratedLines lines) = decoratedLines lines :=
    unsealBreaks_of_not_mem
      (not_mem_decoratedLines (by decide) (by decide) fun line hline => (h line hline).noSealed)
  obtain ⟨line, lines, rfl⟩ := List.exists_cons_of_ne_nil hne
  obtain ⟨hline, hlines⟩ := List.forall_mem_cons.mp h
  generalize htail : (lines.map decorated).flatMap ('\n' :: ·) = tail
  have hdecorated : decoratedLines (line :: lines) = decorated (line ++ tail) := by
    rw [decoratedLines_cons, htail]
    rfl
  obtain ⟨e, hmatch, he, hwithin⟩ :=
    exists_matchAt_starInlines (s := .start (decorated (line ++ tail))) rfl rfl
  obtain ⟨found, rest, hscanned, htext⟩ := scanned_starInlines hwithin (htail ▸ he) hline.noFeed
    fun line hline => (hlines line hline).noFeed
  have hsearch : starInlines.regex.search none 0 (decorated (line ++ tail)) =
      some ([], decorated (line ++ tail), e) :=
    (search_eq_some_iff (s := .start (decorated (line ++ tail)))).mpr
      ⟨rfl, hmatch, fun _ _ _ hlt => absurd hlt (Nat.not_lt_zero _)⟩
  have hlt : e.ahead.length < (decorated (line ++ tail)).length := by
    rw [he, decorated]
    simp only [List.length_cons]
    omega
  have hscan := Scanned.next (s := .start (decorated (line ++ tail))) hsearch hlt hscanned
  rw [strip, unsealBreaks_map_sealChar, hunseal, hdecorated, deleteAll, replaceAll, general,
    scan_of_scanned hscan]
  simp only [List.append_nil]
  rw [List.flatMap_cons, List.nil_append, Chars.unlines, Chars.join_cons]
  exact htext

/-! ### Code -/

/-- Where a text does not start with an opening delimiter, there is no comment. -/
theorem matchAt_starBlocks_eq_none {s : MatchState} (h : ¬ opening <+: s.ahead) :
    starBlocks.regex.matchAt s = none := by
  rw [Option.eq_none_iff_forall_ne_some]
  intro e hmatch
  obtain ⟨lead, tail, -, -, -, -, hahead, -⟩ := exists_isBody_of_matchAt hmatch
  exact h ⟨lead ++ tail, hahead.symm⟩

/-- No comment starts in code without an opening delimiter, also if a comment follows it. -/
theorem not_opening_prefix_append {code next : List Char} (hne : code ≠ [])
    (hcode : ¬ opening <:+: code) : ¬ opening <+: code ++ (opening ++ next) := by
  rintro ⟨rest, hrest⟩
  match code with
  | [] => exact hne rfl
  | [c] =>
      obtain ⟨-, htail⟩ := List.cons.inj hrest
      exact absurd (List.cons.inj htail).1 (by decide)
  | [c, d] =>
      obtain ⟨-, htail⟩ := List.cons.inj hrest
      obtain ⟨-, htail⟩ := List.cons.inj htail
      exact absurd (List.cons.inj htail).1 (by decide)
  | c :: d :: f :: code =>
      obtain ⟨hc, htail⟩ := List.cons.inj hrest
      obtain ⟨hd, htail⟩ := List.cons.inj htail
      obtain ⟨hf, -⟩ := List.cons.inj htail
      exact hcode ⟨[], code, by rw [← hc, ← hd, ← hf]; rfl⟩

/-- Sealing puts no opening delimiter into code. -/
theorem not_opening_infix_sealBreaks {code : List Char} (h : ¬ opening <:+: code) :
    ¬ opening <:+: sealBreaks code := by
  rintro ⟨before, after, hsplit⟩
  rw [List.append_assoc, sealBreaks_eq_map] at hsplit
  obtain ⟨before, after, hsplit, -, -⟩ := exists_of_map_sealChar hsplit.symm (by decide)
  refine h (Chars.infix_of_unifyBreaks (by decide) ⟨before, after, ?_⟩)
  rw [hsplit, List.append_assoc]

/-- Code before something else than a line feed is sealed by itself. -/
theorem sealBreaks_append {t : List Char} (h : t.head? ≠ some '\n') (s : List Char) :
    sealBreaks (s ++ t) = sealBreaks s ++ sealBreaks t := by
  rw [sealBreaks_eq_map, Chars.unifyBreaks_append h, List.map_append]
  rfl

/-- A formatted comment is sealed by itself. -/
theorem sealBreaks_formatted_append (h : ∀ line ∈ lines, IsLine line) (t : List Char) :
    sealBreaks (formatted lines ++ t) = (formatted lines).map sealChar ++ sealBreaks t := by
  have hreturn : '\r' ∉ formatted lines := by
    have hlines : '\r' ∉ decoratedLines lines :=
      not_mem_decoratedLines (by decide) (by decide) fun line hline => (h line hline).noReturn
    simp [formatted, opening, closing, hlines]
  rw [sealBreaks_eq_map, Chars.unifyBreaks_append_of_not_mem hreturn, List.map_append]
  rfl

/-! ### Source texts -/

/-- A **passage** of a source text: the lines of a comment, and the code behind it. -/
structure Passage where
  lines : List String
  code : String

namespace Passage

/-- The comment with the lines. -/
def comment (p : Passage) : String :=
  "/**\n" ++ String.join (p.lines.map fun line => " * " ++ line ++ "\n") ++ " */"

/-- A passage is **proper** if its comment ends where it should, and no other starts in its code. -/
structure IsProper (p : Passage) : Prop where
  ne_nil : p.lines ≠ []
  isLine : ∀ line ∈ p.lines, IsLine line.toList
  noOpening : ¬ opening <:+: p.code.toList

instance (p : Passage) : Decidable p.IsProper :=
  decidable_of_iff (p.lines ≠ [] ∧ (∀ line ∈ p.lines, IsLine line.toList) ∧
      ¬ opening <:+: p.code.toList)
    ⟨fun ⟨hne, hline, hopening⟩ => ⟨hne, hline, hopening⟩,
      fun h => ⟨h.ne_nil, h.isLine, h.noOpening⟩⟩

/-- The characters of the lines. -/
def texts (p : Passage) : List (List Char) :=
  p.lines.map String.toList

/-- The comment and the code with their line breaks sealed. -/
def sealedText (p : Passage) : List Char :=
  (formatted p.texts).map sealChar ++ sealBreaks p.code.toList

/-- The lines of a proper passage are lines. -/
theorem IsProper.isLine_of_mem_texts {p : Passage} (h : p.IsProper) :
    ∀ line ∈ p.texts, IsLine line := by
  intro line hline
  obtain ⟨l, hl, rfl⟩ := List.mem_map.mp hline
  exact h.isLine l hl

/-- A proper passage has a line. -/
theorem IsProper.texts_ne_nil {p : Passage} (h : p.IsProper) : p.texts ≠ [] :=
  fun hnil => h.ne_nil (List.map_eq_nil_iff.mp hnil)

/-- A comment with lines is a formatted one. -/
theorem toList_comment {p : Passage} (h : p.lines ≠ []) : p.comment.toList = formatted p.texts := by
  have hne : p.texts.map decorated ≠ [] := by
    rwa [texts, List.map_map, ne_eq, List.map_eq_nil_iff]
  have hlines : (String.join (p.lines.map fun line => " * " ++ line ++ "\n")).toList =
      decoratedLines p.texts ++ ['\n'] := by
    rw [decoratedLines, Chars.unlines_append_break hne, String.toList_join, texts, List.map_map,
      List.flatMap_map, List.flatMap_map]
    refine List.flatMap_congr fun line _ => ?_
    rw [String.toList_append, String.toList_append]
    rfl
  rw [comment, String.toList_append, String.toList_append, hlines, formatted]
  simp [opening, closing]

end Passage

/-- A **source text**: code, and passages. -/
def sourceText (code : String) (passages : List Passage) : String :=
  code ++ String.join (passages.map fun p => p.comment ++ p.code)

/-- **Code and comments are sealed** one after the other. -/
theorem sealBreaks_sourceText (code : String) {passages : List Passage}
    (h : ∀ p ∈ passages, p.IsProper) :
    sealBreaks (sourceText code passages).toList =
      sealBreaks code.toList ++ passages.flatMap Passage.sealedText := by
  have hsource : (sourceText code passages).toList =
      code.toList ++ passages.flatMap fun p => formatted p.texts ++ p.code.toList := by
    rw [sourceText, String.toList_append, String.toList_join, List.flatMap_map]
    refine congrArg (code.toList ++ ·) (List.flatMap_congr fun p hp => ?_)
    rw [String.toList_append, Passage.toList_comment (h p hp).ne_nil]
  rw [hsource]
  clear hsource
  generalize code.toList = text
  induction passages generalizing text with
  | nil => rw [List.flatMap_nil, List.flatMap_nil, List.append_nil, List.append_nil]
  | cons p passages ih =>
      obtain ⟨hp, hpassages⟩ := List.forall_mem_cons.mp h
      have hhead : ∀ t, (formatted p.texts ++ t).head? ≠ some '\n' := by
        intro t
        simp [formatted, opening]
      rw [List.flatMap_cons, List.append_assoc, sealBreaks_append (hhead _),
        sealBreaks_formatted_append hp.isLine_of_mem_texts, ih hpassages, List.flatMap_cons,
        Passage.sealedText, List.append_assoc]

/-- **Only the comments are found**: code is passed over, and the bodies are the decorated lines. -/
theorem scanned_starBlocks {s : MatchState} {code : List Char} {passages : List Passage}
    (hahead : s.ahead = code ++ passages.flatMap Passage.sealedText)
    (hcode : ¬ opening <:+: code) (h : ∀ p ∈ passages, p.IsProper) :
    ∃ found rest, Scanned starBlocks.regex s found rest ∧
      found.filterMap (·.body? general.blocks.regex.groups) =
        passages.map fun p => (decoratedLines p.texts).map sealChar := by
  induction passages generalizing s code with
  | nil =>
      rw [List.flatMap_nil, List.append_nil] at hahead
      refine ⟨[], s.ahead, .done (search_eq_none_iff.mpr fun skipped here hsplit => ?_), rfl⟩
      refine matchAt_starBlocks_eq_none fun hopening => hcode ?_
      rw [← hahead, hsplit]
      exact hopening.isInfix.trans (List.suffix_append _ _).isInfix
  | cons p passages ih =>
      obtain ⟨hp, hpassages⟩ := List.forall_mem_cons.mp h
      have hbody := isBody_formatted hp.texts_ne_nil
        (fun line hline => (hp.isLine_of_mem_texts line hline).unclosed)
        (sealBreaks p.code.toList ++ passages.flatMap Passage.sealedText)
      have hhere : (p :: passages).flatMap Passage.sealedText = opening ++ sealedBreak ::
          ((decoratedLines p.texts ++ '\n' :: ' ' :: closing).map sealChar ++
            (sealBreaks p.code.toList ++ passages.flatMap Passage.sealedText)) := by
        rw [List.flatMap_cons, Passage.sealedText, formatted, List.map_append, List.append_assoc,
          List.append_assoc]
        rfl
      obtain ⟨e, hmatch, he, hcaptures⟩ : ∃ e, starBlocks.regex.matchAt
          (s.after code ((p :: passages).flatMap Passage.sealedText)) = some e ∧
          e.ahead = sealBreaks p.code.toList ++ passages.flatMap Passage.sealedText ∧
          e.captures = [(1, (decoratedLines p.texts).map sealChar)] :=
        ⟨_, matchAt_starBlocks_of_isBody hhere hbody, rfl, rfl⟩
      obtain ⟨found, rest, hscanned, hbodies⟩ :=
        ih he (not_opening_infix_sealBreaks hp.noOpening) hpassages
      refine ⟨_, rest, .next (search_eq_some_iff.mpr ⟨hahead, hmatch, ?_⟩) ?_ hscanned, ?_⟩
      · intro earlier rest' hsplit hlt
        obtain ⟨later, rfl⟩ : earlier <+: code :=
          List.prefix_of_prefix_length_le ⟨rest', hsplit.symm⟩ ⟨_, hahead.symm⟩ (Nat.le_of_lt hlt)
        have hlater : later ≠ [] := by
          rintro rfl
          rw [List.append_nil] at hlt
          exact Nat.lt_irrefl _ hlt
        rw [hahead, List.append_assoc] at hsplit
        refine matchAt_starBlocks_eq_none ?_
        rw [MatchState.ahead_after, ← List.append_cancel_left hsplit, hhere]
        exact not_opening_prefix_append hlater fun hopening =>
          hcode (hopening.trans (List.suffix_append _ _).isInfix)
      · rw [he, hhere]
        simp only [List.length_append, List.length_cons]
        omega
      · rw [List.map_cons, ← hbodies]
        exact List.filterMap_cons_some (body?_of_captures hbody.ne_nil hcaptures)

/-- **Formatted comments are read back.** In code with comments in it, where no code has an opening
delimiter and no line ends its comment, one block is found for each comment, in order, and it has
the lines that were written into the comment: with their indentation, the stars and the blanks that
belong to them, and the empty lines between them. -/
theorem findAll_sourceText {code : String} {passages : List Passage}
    (hcode : ¬ opening <:+: code.toList) (h : ∀ p ∈ passages, p.IsProper) :
    findAll general (sourceText code passages) =
      passages.map fun p => Text.join "\n" p.lines := by
  obtain ⟨found, rest, hscanned, hbodies⟩ := scanned_starBlocks
    (s := .start (sealBreaks (sourceText code passages).toList)) (sealBreaks_sourceText code h)
    (not_opening_infix_sealBreaks hcode) h
  have hfound : bodies general (sealBreaks (sourceText code passages).toList) =
      passages.map fun p => (decoratedLines p.texts).map sealChar := by
    have hscan : general.blocks.regex.scan (sealBreaks (sourceText code passages).toList) =
        (found, rest) := scan_of_scanned hscanned
    rw [bodies, hscan, hbodies]
  rw [findAll, hfound, List.map_map]
  refine List.map_congr_left fun p hp => ?_
  rw [Function.comp_apply, strip_formatted (h p hp).texts_ne_nil (h p hp).isLine_of_mem_texts]
  rfl

/-- Items of a list, a line with an opening delimiter, empty lines and lines with blanks at their
ends are read back, and code that starts with stars is not a comment. -/
theorem findAll_sourceText_lists :
    findAll general (sourceText "int a; /*/ \r"
      [⟨["", "* item", "  ** item ", "", "/** @api", " "], "** b; /* \n"⟩, ⟨["*", " /"], ""⟩]) =
        ["\n* item\n  ** item \n\n/** @api\n ", "*\n /"] :=
  findAll_sourceText (by decide) (by decide)

end Block

end ApiGloss

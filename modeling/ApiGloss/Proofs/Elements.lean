import ApiGloss.Comment.Element
import Mathlib.Data.List.TakeWhile

/-!
# A Block Is Split Exactly at Its Tags

Collecting the elements of a block loses nothing and cuts nowhere else than at tags. A block is
laid out as a row of pieces, each an element after a gap: the first gap is what stands before
the first `@`, and every other gap is a line break with blanks and stars behind it. A piece
starts its element at the first `@` of the block, or at an `@` that **opens its line**, and
every such `@` starts one.

The heart of it is `startsAfter_step`, one step of an induction on the elements: with the text
of the first element split off, an `@` behind it opens its line in the rest exactly if it does
so in the whole text.

## Main results

* `Element.findAll_splits_at_tags`: layout, starts and shape of the elements of a block.
-/

namespace ApiGloss.Element

/-! ### Opening a line -/

/-- The text **ends a line break ago**: a line break and only blanks and stars behind it. -/
def AfterBreak (before : List Char) : Prop :=
  ∃ line margin, before = line ++ '\n' :: margin ∧ ∀ c ∈ margin, isMargin c = true

/-- What follows the text **opens its line**: since the last line break, or since the start of
the text, there are only blanks and stars. -/
def OpensLine (before : List Char) : Prop :=
  (∀ c ∈ before, isMargin c = true) ∨ AfterBreak before

/-- A text after which a line is opened, split: the line break is in the second part, or in the
first part with only blanks and stars in the second one. -/
theorem afterBreak_append {a b : List Char} :
    AfterBreak (a ++ b) ↔ AfterBreak b ∨ AfterBreak a ∧ ∀ c ∈ b, isMargin c = true := by
  constructor
  · rintro ⟨line, margin, heq, hmargin⟩
    rcases List.append_eq_append_iff.mp heq with ⟨c, hline, hb⟩ | ⟨c, ha, hbreak⟩
    · exact Or.inl ⟨c, margin, hb, hmargin⟩
    · cases c with
      | nil => exact Or.inl ⟨[], margin, hbreak.symm, hmargin⟩
      | cons d c =>
          obtain ⟨rfl, rfl⟩ := List.cons.inj hbreak
          refine Or.inr ⟨⟨line, c, ha, fun x hx => hmargin x (List.mem_append_left _ hx)⟩, ?_⟩
          exact fun x hx => hmargin x (List.mem_append_right _ hx)
  · rintro (⟨line, margin, rfl, hmargin⟩ | ⟨⟨line, margin, rfl, hmargin⟩, hb⟩)
    · exact ⟨a ++ line, margin, (List.append_assoc _ _ _).symm, hmargin⟩
    · refine ⟨line, margin ++ b, by rw [List.append_assoc, List.cons_append], fun c hc => ?_⟩
      rcases List.mem_append.mp hc with hc | hc
      · exact hmargin c hc
      · exact hb c hc

/-- Without a line break, no line is opened after a text. -/
theorem not_afterBreak_of_not_mem {a : List Char} (h : '\n' ∉ a) : ¬ AfterBreak a := by
  rintro ⟨line, margin, rfl, -⟩
  exact h (List.mem_append_right _ List.mem_cons_self)

/-- Behind an `@`, only the text behind it says whether a line is opened. -/
theorem afterBreak_append_at {a b : List Char} :
    AfterBreak (a ++ '@' :: b) ↔ AfterBreak b := by
  have hat : ¬ AfterBreak (a ++ ['@']) := by
    rw [afterBreak_append]
    rintro (h | ⟨-, h⟩)
    · exact not_afterBreak_of_not_mem (by decide) h
    · exact absurd (h '@' List.mem_cons_self) (by decide)
  rw [List.append_cons, afterBreak_append]
  exact or_iff_left fun h => hat h.1

/-- Only blanks and stars from the start on leave no room for an `@`. -/
theorem not_mem_of_margin {m : List Char} (h : ∀ c ∈ m, isMargin c = true) : '@' ∉ m :=
  fun hat => absurd (h '@' hat) (by decide)

/-- The text before the first `@` is determined. -/
theorem eq_of_append_at {a b r t : List Char} (h : a ++ '@' :: r = b ++ '@' :: t)
    (ha : '@' ∉ a) (hb : '@' ∉ b) : a = b := by
  have htake : ∀ {l s : List Char}, '@' ∉ l → (l ++ '@' :: s).takeWhile (· != '@') = l := by
    intro l s hl
    have hpos : ∀ c ∈ l, (c != '@') = true :=
      fun c hc => bne_iff_ne.mpr fun heq => hl (heq ▸ hc)
    rw [List.takeWhile_append_of_pos hpos, List.takeWhile_cons_of_neg (by decide),
      List.append_nil]
  rw [← htake ha, h, htake hb]

/-- A text with an `@`, followed by another one, goes on behind the first `@`. -/
theorem exists_of_append_at {a b r t : List Char} (h : a ++ '@' :: r = b ++ '@' :: t)
    (ha : '@' ∉ a) (hb : '@' ∈ b) : ∃ c, b = a ++ '@' :: c ∧ r = c ++ '@' :: t := by
  rcases List.append_eq_append_iff.mp h with ⟨c, rfl, hc⟩ | ⟨c, rfl, -⟩
  · cases c with
    | nil =>
        rw [List.append_nil] at hb
        exact absurd hb ha
    | cons d c =>
        obtain ⟨rfl, hr⟩ := List.cons.inj hc
        exact ⟨c, rfl, hr⟩
  · exact absurd (List.mem_append_left _ hb) ha

/-! ### Cutting at a tag -/

/-- The text **holds a tag line**: an `@` in it opens a line other than the first. -/
def HoldsTagLine (s : List Char) : Prop :=
  ∃ before after, s = before ++ '@' :: after ∧ AfterBreak before

/-- A line starts with a tag if only blanks and stars stand before its first `@`. -/
theorem startsTag_iff {line : List Char} :
    startsTag line = true ↔
      ∃ margin after, line = margin ++ '@' :: after ∧ ∀ c ∈ margin, isMargin c = true := by
  unfold startsTag
  rw [beq_iff_eq]
  constructor
  · intro h
    obtain ⟨after, hafter⟩ := List.head?_eq_some_iff.mp h
    refine ⟨line.takeWhile isMargin, after, ?_, fun c hc => List.mem_takeWhile_imp hc⟩
    rw [← hafter, List.takeWhile_append_dropWhile]
  · rintro ⟨margin, after, rfl, hmargin⟩
    rw [List.dropWhile_append_of_pos hmargin, List.dropWhile_cons_of_neg (by decide),
      List.head?_cons]

/-- What is cut off is nothing, or a line break, blanks and stars, and a tag. -/
theorem splitAtTag_snd (s : List Char) :
    (splitAtTag s).2 = [] ∨ ∃ margin after,
      (splitAtTag s).2 = '\n' :: margin ++ '@' :: after ∧ ∀ c ∈ margin, isMargin c = true := by
  induction s with
  | nil => exact Or.inl rfl
  | cons c cs ih =>
      unfold splitAtTag
      split
      · rename_i h
        obtain ⟨rfl, htag⟩ := h
        obtain ⟨margin, after, rfl, hmargin⟩ := startsTag_iff.mp htag
        exact Or.inr ⟨margin, after, rfl, hmargin⟩
      · exact ih

/-- What comes before the cut holds no tag line. -/
theorem not_holdsTagLine_splitAtTag (s : List Char) : ¬ HoldsTagLine (splitAtTag s).1 := by
  induction s with
  | nil =>
      rintro ⟨before, after, heq, -⟩
      exact absurd heq.symm (by simp [splitAtTag])
  | cons c cs ih =>
      have hcut := splitAtTag_append cs
      unfold splitAtTag
      split
      · rintro ⟨before, after, heq, -⟩
        exact absurd heq.symm (by simp)
      · rename_i hnot
        rintro ⟨before, after, heq, line, margin, rfl, hmargin⟩
        cases line with
        | nil =>
            -- The first line break opens a line that starts with a tag.
            obtain ⟨rfl, hcontent⟩ := List.cons.inj heq
            refine hnot ⟨rfl, startsTag_iff.mpr ⟨margin, after ++ (splitAtTag cs).2, ?_, hmargin⟩⟩
            calc cs = (splitAtTag cs).1 ++ (splitAtTag cs).2 := hcut.symm
              _ = (margin ++ '@' :: after) ++ (splitAtTag cs).2 := congrArg (· ++ _) hcontent
              _ = margin ++ '@' :: (after ++ (splitAtTag cs).2) := by
                  rw [List.append_assoc, List.cons_append]
        | cons d line =>
            obtain ⟨rfl, hcontent⟩ := List.cons.inj heq
            exact ih ⟨line ++ '\n' :: margin, after, hcontent, line, margin, rfl, hmargin⟩

/-! ### One element -/

/-- The **shape of an element**: an `@`, the tag up to the first character that is no plain word
character, one blank at most, and a content without tag lines. -/
structure Shaped (e : Element) : Prop where
  /-- The source consists of the `@`, the tag, the separator and the content. -/
  source_eq : ∃ separator : List Char,
    e.source.toList = '@' :: (e.sourceName.toList ++ separator ++ e.content.toList) ∧
      separator.length ≤ 1 ∧ ∀ c ∈ separator, Text.isInlineBlank c = true
  /-- The tag is as long as possible. -/
  sourceName_eq : e.sourceName.toList = (e.source.toList.drop 1).takeWhile Text.isPlainWord
  /-- No line break is followed by blanks and stars, across any number of lines, and an `@`. -/
  content_plain : ∀ before margin after,
    e.content.toList = before ++ '\n' :: margin ++ '@' :: after →
      ¬ ∀ c ∈ margin, Text.isBlank c = true ∨ c = '*'

/-- What stands between two elements: a line break with blanks and stars behind it. -/
def IsGap (gap : List Char) : Prop :=
  ∃ margin, gap = '\n' :: margin ∧ ∀ c ∈ margin, isMargin c = true

/-- A gap has no `@`. -/
theorem IsGap.not_mem {gap : List Char} (h : IsGap gap) : '@' ∉ gap := by
  obtain ⟨margin, rfl, hmargin⟩ := h
  rintro (_ | ⟨_, hat⟩)
  exact not_mem_of_margin hmargin hat

/-- A gap opens a line. -/
theorem IsGap.afterBreak {gap : List Char} (h : IsGap gap) : AfterBreak gap := by
  obtain ⟨margin, rfl, hmargin⟩ := h
  exact ⟨[], margin, rfl, hmargin⟩

/-- A text without tag lines has none across several lines either: behind the last line break
there are only blanks and stars. -/
theorem not_forall_blank_of_not_holdsTagLine {s before margin after : List Char}
    (h : ¬ HoldsTagLine s) (heq : s = before ++ '\n' :: margin ++ '@' :: after) :
    ¬ ∀ c ∈ margin, Text.isBlank c = true ∨ c = '*' := by
  intro hmargin
  obtain ⟨last, line, hsplit, hlast⟩ : ∃ last line,
      '\n' :: margin = line ++ '\n' :: last ∧ '\n' ∉ last := by
    have hmem : '\n' ∈ ('\n' :: margin).reverse := List.mem_reverse.mpr List.mem_cons_self
    obtain ⟨as, bs, hrev, hnot⟩ := List.eq_append_cons_of_mem hmem
    refine ⟨as.reverse, bs.reverse, ?_, fun hm => hnot (List.mem_reverse.mp hm)⟩
    rw [← List.reverse_reverse ('\n' :: margin), hrev, List.reverse_append, List.reverse_cons,
      List.append_assoc, List.singleton_append]
  refine h ⟨before ++ (line ++ '\n' :: last), after, by rw [heq, hsplit], before ++ line, last,
    by rw [List.append_assoc], fun c hc => ?_⟩
  have hne : c ≠ '\n' := fun heq => hlast (heq ▸ hc)
  have hc' : c ∈ '\n' :: margin := hsplit ▸ List.mem_append_right _ (List.mem_cons_of_mem _ hc)
  rcases List.mem_cons.mp hc' with hbreak | hc'
  · exact absurd hbreak hne
  · unfold isMargin Text.isInlineBlank
    rcases hmargin c hc' with hblank | rfl
    · rw [hblank, bne_iff_ne.mpr hne]
      rfl
    · rfl

/-- The separator is one blank at most. -/
theorem separator_spec (s : List Char) :
    (separator s).length ≤ 1 ∧ ∀ c ∈ separator s, Text.isInlineBlank c = true := by
  cases s with
  | nil => exact ⟨Nat.zero_le _, fun c hc => absurd hc List.not_mem_nil⟩
  | cons c cs =>
      by_cases h : Text.isInlineBlank c = true
      · rw [separator, if_pos h]
        exact ⟨le_refl _, fun d hd => List.mem_singleton.mp hd ▸ h⟩
      · rw [separator, if_neg h]
        exact ⟨Nat.zero_le _, fun d hd => absurd hd List.not_mem_nil⟩

/-- The content of the element that is read first. -/
def contentOf (s : List Char) : List Char × List Char :=
  splitAtTag ((s.dropWhile Text.isPlainWord).drop
    (separator (s.dropWhile Text.isPlainWord)).length)

/-- The source of the element that is read first. -/
theorem source_readOne (s : List Char) :
    (readOne s).1.source.toList = '@' :: (s.takeWhile Text.isPlainWord ++
      separator (s.dropWhile Text.isPlainWord) ++ (contentOf s).1) := by
  simp only [readOne, contentOf, String.toList_ofList, List.cons_append]

/-- The separator, the content and the rest make up what follows the tag. -/
theorem separator_append_content (s : List Char) :
    separator (s.dropWhile Text.isPlainWord) ++ (contentOf s).1 ++ (readOne s).2 =
      s.dropWhile Text.isPlainWord := by
  have hcut : (contentOf s).1 ++ (readOne s).2 = _ := splitAtTag_append _
  rw [List.append_assoc, hcut, separator_append_drop]

/-- **Reading an element loses nothing.** -/
theorem source_append_rest (s : List Char) :
    '@' :: s = (readOne s).1.source.toList ++ (readOne s).2 := by
  rw [source_readOne, List.cons_append, List.append_assoc (s.takeWhile _), List.append_assoc,
    separator_append_content, List.takeWhile_append_dropWhile]

/-- What follows an element is nothing, or a gap and an `@`. -/
theorem rest_readOne (s : List Char) :
    (readOne s).2 = [] ∨ ∃ gap after, (readOne s).2 = gap ++ '@' :: after ∧ IsGap gap := by
  rcases splitAtTag_snd ((s.dropWhile Text.isPlainWord).drop
    (separator (s.dropWhile Text.isPlainWord)).length) with h | ⟨margin, after, h, hmargin⟩
  · exact Or.inl h
  · exact Or.inr ⟨'\n' :: margin, after, h, margin, rfl, hmargin⟩

/-- The element that is read holds no tag line beside its own. -/
theorem not_holdsTagLine_source (s : List Char) :
    ¬ HoldsTagLine (readOne s).1.source.toList := by
  have hcontent : ¬ HoldsTagLine (contentOf s).1 := not_holdsTagLine_splitAtTag _
  have hbreak : '\n' ∉ '@' :: (s.takeWhile Text.isPlainWord ++
      separator (s.dropWhile Text.isPlainWord)) := by
    simp only [List.mem_cons, List.mem_append, not_or]
    refine ⟨by decide, fun h => ?_, fun h => ?_⟩
    · exact absurd (List.mem_takeWhile_imp h) (by decide)
    · exact absurd ((separator_spec _).2 _ h) (by decide)
  rintro ⟨before, after, heq, hafter⟩
  rw [source_readOne, ← List.cons_append] at heq
  rcases List.append_eq_append_iff.mp heq with ⟨rest, rfl, hrest⟩ | ⟨rest, hhead, -⟩
  · rw [afterBreak_append] at hafter
    rcases hafter with hafter | ⟨hafter, -⟩
    · exact hcontent ⟨rest, after, hrest, hafter⟩
    · exact not_afterBreak_of_not_mem hbreak hafter
  · refine not_afterBreak_of_not_mem (fun h => hbreak ?_) hafter
    exact hhead ▸ List.mem_append_left _ h

/-- **The element that is read is well shaped.** -/
theorem shaped_readOne (s : List Char) : Shaped (readOne s).1 where
  source_eq := by
    refine ⟨separator (s.dropWhile Text.isPlainWord), ?_, separator_spec _⟩
    rw [source_readOne]
    simp only [readOne, contentOf, String.toList_ofList]
  sourceName_eq := by
    have hnone : (separator (s.dropWhile Text.isPlainWord) ++ (contentOf s).1).takeWhile
        Text.isPlainWord = [] := by
      have hhead := List.head?_dropWhile_not Text.isPlainWord s
      rw [← separator_append_content s] at hhead
      cases h : separator (s.dropWhile Text.isPlainWord) ++ (contentOf s).1 with
      | nil => rfl
      | cons c cs =>
          rw [h, List.cons_append, List.head?_cons] at hhead
          rw [List.takeWhile_cons_of_neg (Bool.eq_false_iff.mp hhead)]
    rw [source_readOne, List.drop_one, List.tail_cons, List.append_assoc,
      List.takeWhile_append_of_pos fun c hc => List.mem_takeWhile_imp hc, hnone, List.append_nil]
    simp only [readOne, String.toList_ofList]
  content_plain := by
    intro before margin after heq
    refine not_forall_blank_of_not_holdsTagLine ?_ heq
    simp only [readOne, String.toList_ofList]
    exact not_holdsTagLine_splitAtTag _

/-! ### The layout of a block -/

/-- An element after the text between it and the element before. -/
structure Piece where
  gap : List Char
  element : Element

/-- The text of a piece. -/
def Piece.text (p : Piece) : List Char :=
  p.gap ++ p.element.source.toList

/-- A block is **laid out** as pieces: they cover the block, the first gap has no `@`, and every
other gap is a line break with blanks and stars behind it. A block without pieces has no `@`. -/
structure Layout (block : List Char) (pieces : List Piece) : Prop where
  covers : pieces ≠ [] → block = pieces.flatMap Piece.text
  empty : pieces = [] → '@' ∉ block
  first_gap : ∀ p ∈ pieces.head?, '@' ∉ p.gap
  gaps : ∀ p ∈ pieces.tail, IsGap p.gap

/-- If a text is nothing, or a gap and an `@`, then all pieces of its layout come after gaps. -/
theorem Layout.isGap_of_append {s : List Char} {pieces : List Piece} (h : Layout s pieces)
    (hs : s = [] ∨ ∃ gap after, s = gap ++ '@' :: after ∧ IsGap gap)
    (hshaped : ∀ p ∈ pieces, Shaped p.element) : ∀ p ∈ pieces, IsGap p.gap := by
  cases pieces with
  | nil => exact nofun
  | cons p pieces =>
      refine List.forall_mem_cons.mpr ⟨?_, h.gaps⟩
      obtain ⟨sep, hsource, -⟩ := (hshaped p List.mem_cons_self).source_eq
      have hcovers := h.covers (List.cons_ne_nil _ _)
      rw [List.flatMap_cons, Piece.text, hsource, List.append_assoc, List.cons_append] at hcovers
      rcases hs with rfl | ⟨gap, after, rfl, hgap⟩
      · exact absurd hcovers (by simp)
      · rw [← eq_of_append_at hcovers hgap.not_mem (h.first_gap p rfl)]
        exact hgap

/-- The element of some piece **starts after** a text. -/
def StartsAfter (pieces : List Piece) (before : List Char) : Prop :=
  ∃ earlier p later, pieces = earlier ++ p :: later ∧
    before = earlier.flatMap Piece.text ++ p.gap

/-- An element starts after the first gap, or after the first piece and what an element of the
other pieces starts after. -/
theorem startsAfter_cons {p : Piece} {pieces : List Piece} {before : List Char} :
    StartsAfter (p :: pieces) before ↔
      before = p.gap ∨ ∃ b, StartsAfter pieces b ∧ before = p.text ++ b := by
  constructor
  · rintro ⟨earlier, q, later, heq, rfl⟩
    cases earlier with
    | nil =>
        obtain ⟨rfl, -⟩ := List.cons.inj heq
        exact Or.inl rfl
    | cons q' earlier =>
        obtain ⟨rfl, rfl⟩ := List.cons.inj heq
        refine Or.inr ⟨_, ⟨earlier, q, later, rfl, rfl⟩, ?_⟩
        rw [List.flatMap_cons, List.append_assoc]
  · rintro (rfl | ⟨b, ⟨earlier, q, later, rfl, rfl⟩, rfl⟩)
    · exact ⟨[], p, pieces, rfl, rfl⟩
    · refine ⟨p :: earlier, q, later, rfl, ?_⟩
      rw [List.flatMap_cons, List.append_assoc]

/-- **One element is split off**: if the elements of the rest start where they should, so do the
elements of the whole text. -/
theorem startsAfter_step {gap after before : List Char} {pieces : List Piece}
    (hgap : '@' ∉ gap)
    (hrest : ∀ b, StartsAfter pieces b ↔
      (∃ t, (readOne after).2 = b ++ '@' :: t) ∧ ('@' ∉ b ∨ AfterBreak b)) :
    StartsAfter (⟨gap, (readOne after).1⟩ :: pieces) before ↔
      (∃ t, gap ++ '@' :: after = before ++ '@' :: t) ∧ ('@' ∉ before ∨ AfterBreak before) := by
  obtain ⟨body, hbody⟩ : ∃ body, (readOne after).1.source.toList = '@' :: body :=
    ⟨_, source_readOne after⟩
  have hafter : after = body ++ (readOne after).2 := by
    have h := source_append_rest after
    rw [hbody, List.cons_append] at h
    exact (List.cons.inj h).2
  have hnoTag : ¬ HoldsTagLine body := by
    rintro ⟨b, t, rfl, hb⟩
    refine not_holdsTagLine_source after ⟨'@' :: b, t, hbody, ?_⟩
    exact (afterBreak_append_at (a := [])).mpr hb
  rw [startsAfter_cons]
  constructor
  · rintro (rfl | ⟨b, hb, rfl⟩)
    · exact ⟨⟨after, rfl⟩, Or.inl hgap⟩
    · obtain ⟨⟨t, ht⟩, hb⟩ := (hrest b).mp hb
      refine ⟨⟨t, ?_⟩, Or.inr ?_⟩
      · rw [Piece.text, hbody, hafter, ht]
        simp only [List.append_assoc, List.cons_append]
      · rw [afterBreak_append]
        refine Or.inl (hb.elim (fun hnot => ?_) id)
        -- Before the first `@` of the rest there is exactly one gap.
        rcases rest_readOne after with hnil | ⟨g, r, hg, hisGap⟩
        · rw [hnil] at ht
          exact absurd ht.symm (by simp)
        · rw [eq_of_append_at (ht.symm.trans hg) hnot hisGap.not_mem]
          exact hisGap.afterBreak
  · rintro ⟨⟨t, ht⟩, hopen⟩
    by_cases hat : '@' ∈ before
    · obtain ⟨b, rfl, hb⟩ := exists_of_append_at ht hgap hat
      have hbreak : AfterBreak b :=
        afterBreak_append_at.mp (hopen.resolve_left (not_not_intro hat))
      obtain ⟨c, rfl, hc⟩ : ∃ c, b = body ++ c ∧ (readOne after).2 = c ++ '@' :: t := by
        rcases List.append_eq_append_iff.mp (hafter.symm.trans hb) with
          ⟨c, hbc, hc⟩ | ⟨c, hbc, hc⟩
        · exact ⟨c, hbc, hc⟩
        · cases c with
          | nil => exact ⟨[], by rw [hbc, List.append_nil, List.append_nil], hc.symm⟩
          | cons d c =>
              obtain ⟨rfl, -⟩ := List.cons.inj hc
              exact absurd ⟨b, c, hbc, hbreak⟩ hnoTag
      refine Or.inr ⟨c, (hrest c).mpr ⟨⟨t, hc⟩, ?_⟩, ?_⟩
      · exact (afterBreak_append.mp hbreak).elim Or.inr fun h => Or.inl (not_mem_of_margin h.2)
      · rw [Piece.text, hbody]
        simp only [List.append_assoc, List.cons_append]
    · exact Or.inl (eq_of_append_at ht hgap hat).symm

/-- A text at its first `@`. -/
theorem split_at_first {s after : List Char} {c : Char}
    (h : s.dropWhile (· != '@') = c :: after) :
    s = s.takeWhile (· != '@') ++ '@' :: after ∧ '@' ∉ s.takeWhile (· != '@') := by
  have hhead := List.head?_dropWhile_not (· != '@') s
  rw [h, List.head?_cons] at hhead
  obtain rfl : c = '@' := by simpa using hhead
  refine ⟨?_, fun hat => absurd (List.mem_takeWhile_imp hat) (by decide)⟩
  rw [← h, List.takeWhile_append_dropWhile]

/-- **The elements of a text are laid out** in it, and start where they should. -/
theorem tokens_layout (s : List Char) :
    ∃ pieces : List Piece, tokens s = pieces.map Piece.element ∧ Layout s pieces ∧
      (∀ before, StartsAfter pieces before ↔
        (∃ after, s = before ++ '@' :: after) ∧ ('@' ∉ before ∨ AfterBreak before)) ∧
      ∀ p ∈ pieces, Shaped p.element := by
  fun_induction tokens s with
  | case1 s h =>
      have hat : '@' ∉ s := by
        intro hat
        exact absurd (List.dropWhile_eq_nil_iff.mp h '@' hat) (by decide)
      refine ⟨[], rfl, ⟨fun h => absurd rfl h, fun _ => hat, nofun, nofun⟩, fun before => ?_,
        nofun⟩
      refine ⟨?_, ?_⟩
      · rintro ⟨earlier, p, later, heq, -⟩
        exact absurd heq.symm (by simp)
      · rintro ⟨⟨after, rfl⟩, -⟩
        exact absurd (List.mem_append_right _ List.mem_cons_self) hat
  | case2 s c after h ih =>
      obtain ⟨pieces, hmap, hlayout, hstarts, hshaped⟩ := ih
      obtain ⟨hs, hgap⟩ := split_at_first h
      have hrest : (readOne after).2 = pieces.flatMap Piece.text := by
        cases pieces with
        | nil =>
            rcases rest_readOne after with hnil | ⟨gap, r, hr, -⟩
            · exact hnil
            · refine absurd ?_ (hlayout.empty rfl)
              exact hr ▸ List.mem_append_right _ List.mem_cons_self
        | cons p pieces => exact hlayout.covers (List.cons_ne_nil _ _)
      have hstep : ∀ before, StartsAfter _ before ↔ _ :=
        fun before => startsAfter_step hgap hstarts
      rw [← hs] at hstep
      refine ⟨⟨s.takeWhile (· != '@'), (readOne after).1⟩ :: pieces, by rw [hmap, List.map_cons],
        ⟨fun _ => ?_, fun h => (nomatch h), ?_, ?_⟩, hstep, ?_⟩
      · rw [List.flatMap_cons, ← hrest, Piece.text, List.append_assoc, ← source_append_rest]
        exact hs
      · rintro p ⟨⟩
        exact hgap
      · exact hlayout.isGap_of_append (rest_readOne after) hshaped
      · exact List.forall_mem_cons.mpr ⟨shaped_readOne after, hshaped⟩

/-- Without hooks, the elements are collected as they are read. -/
theorem findAll_nil (block : String) : findAll [] block = tokens block.toList := by
  have hfold : ∀ (es acc : List Element), es.foldl (collect []) acc = acc ++ es := by
    intro es
    induction es with
    | nil => exact fun acc => (List.append_nil acc).symm
    | cons e es ih =>
        intro acc
        rw [List.foldl_cons, ih, List.append_cons]
        rfl
  exact hfold _ []

/-- **A block is split exactly at its tags.** The elements of a block are laid out in it without
loss. They start exactly after the texts that are followed by the first `@` of the block, or by
an `@` that opens its line. Every element has its shape, and its content holds no tag. -/
theorem findAll_splits_at_tags (block : String) :
    ∃ pieces : List Piece, findAll [] block = pieces.map Piece.element ∧
      Layout block.toList pieces ∧
      (∀ before, StartsAfter pieces before ↔
        (∃ after, block.toList = before ++ '@' :: after) ∧ ('@' ∉ before ∨ OpensLine before)) ∧
      ∀ e ∈ findAll [] block, Shaped e := by
  obtain ⟨pieces, hmap, hlayout, hstarts, hshaped⟩ := tokens_layout block.toList
  have hfind : findAll [] block = pieces.map Piece.element := (findAll_nil block).trans hmap
  refine ⟨pieces, hfind, hlayout, fun before => ?_, ?_⟩
  · rw [hstarts before]
    refine and_congr_right fun _ => ⟨fun h => h.imp_right Or.inr, ?_⟩
    rintro (h | h | h)
    · exact Or.inl h
    · exact Or.inl (not_mem_of_margin h)
    · exact Or.inr h
  · rw [hfind]
    exact List.forall_mem_map.mpr hshaped

end ApiGloss.Element

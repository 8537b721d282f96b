import ApiGloss.Pattern.Basic
import ApiGloss.Proofs.FirstChoice
import ApiGloss.Text.Markup
import Mathlib.Data.List.Infix
import Mathlib.Data.List.TakeWhile

/-!
# Removing Tags Leaves None

Tags are removed in one pass from left to right. The pass deletes what a search for the pattern of a
tag finds, and keeps what the search skips (`Chars.scanned_tagPattern`).

Deleting a tag puts together what stood before and behind it, but no new tag comes of that. A `<`
that is kept has been tried: there is no `>` behind it at all, and then none behind it in what is
left either, or the `>` follows at once. In that case it is kept as well, since what is deleted
starts with a `<`, and the two stand side by side in what is left (`Chars.afterTag?_removeTags`). So
no `<` that is left starts a tag.

## Main results

* `Chars.scanned_tagPattern`: what is removed is what a search for the pattern finds.
* `Chars.not_holdsTag_removeTags`: no tag is left.
* `Text.removeTags_leaves_none`: what removing tags does to a text.
-/

namespace ApiGloss

namespace Chars

/-! ### Tags -/

/-- A **tag**: a `<`, at least one character other than `>`, and a `>`. -/
def IsTag (tag : List Char) : Prop :=
  ∃ inner, inner ≠ [] ∧ '>' ∉ inner ∧ tag = '<' :: (inner ++ ['>'])

/-- A text **holds a tag** somewhere. -/
def HoldsTag (s : List Char) : Prop :=
  ∃ tag, IsTag tag ∧ tag <:+: s

/-- **A tag is recognised** by what follows its `<`. -/
theorem afterTag?_eq_some_iff {cs after : List Char} :
    afterTag? cs = some after ↔
      ∃ inner, inner ≠ [] ∧ '>' ∉ inner ∧ cs = inner ++ '>' :: after := by
  constructor
  · intro h
    cases cs with
    | nil => cases h
    | cons c cs =>
        rw [afterTag?] at h
        split at h
        · cases h
        · rename_i hc
          split at h
          · cases h
          · rename_i d after' hdrop
            obtain rfl := Option.some.inj h
            obtain rfl : d = '>' := by
              have hd := List.head?_dropWhile_not (· != '>') cs
              rw [hdrop] at hd
              simpa using hd
            refine ⟨c :: cs.takeWhile (· != '>'), List.cons_ne_nil _ _, fun hmem => ?_, ?_⟩
            · rcases List.mem_cons.mp hmem with heq | hmem
              · exact hc heq.symm
              · exact absurd (List.mem_takeWhile_imp hmem) (by decide)
            · rw [List.cons_append, ← hdrop, List.takeWhile_append_dropWhile]
  · rintro ⟨inner, hne, hnot, rfl⟩
    obtain ⟨c, inner, rfl⟩ := List.exists_cons_of_ne_nil hne
    obtain ⟨hc, hinner⟩ := not_or.mp (mt List.mem_cons.mpr hnot)
    have hpos : ∀ d ∈ inner, (d != '>') = true := fun d hd =>
      bne_iff_ne.mpr fun heq => hinner (heq ▸ hd)
    have hdrop : (inner ++ '>' :: after).dropWhile (· != '>') = '>' :: after := by
      rw [List.dropWhile_append_of_pos hpos, List.dropWhile_cons_of_neg (by simp)]
    rw [List.cons_append, afterTag?, if_neg (Ne.symm hc), hdrop]

/-- No tag starts where a `>` follows at once. -/
theorem afterTag?_close (cs : List Char) : afterTag? ('>' :: cs) = none := by
  rw [afterTag?, if_pos rfl]

/-- No tag starts where no `>` follows. -/
theorem afterTag?_of_not_mem {cs : List Char} (h : '>' ∉ cs) : afterTag? cs = none := by
  refine Option.eq_none_iff_forall_ne_some.mpr fun after heq => ?_
  obtain ⟨inner, -, -, rfl⟩ := afterTag?_eq_some_iff.mp heq
  exact h (List.mem_append_right _ List.mem_cons_self)

/-- In all other cases a tag starts. -/
theorem close_or_not_mem_of_afterTag? {cs : List Char} (h : afterTag? cs = none) :
    (∃ rest, cs = '>' :: rest) ∨ '>' ∉ cs := by
  by_cases hmem : '>' ∈ cs
  · obtain ⟨inner, after, rfl, hinner⟩ := List.eq_append_cons_of_mem hmem
    by_cases hne : inner = []
    · subst hne
      exact Or.inl ⟨after, rfl⟩
    · cases h.symm.trans (afterTag?_eq_some_iff.mpr ⟨inner, hne, hinner, rfl⟩)
  · exact Or.inr hmem

/-! ### One step -/

/-- A tag is deleted. -/
theorem removeTags_tag {inner : List Char} (hne : inner ≠ []) (h : '>' ∉ inner)
    (after : List Char) : removeTags ('<' :: (inner ++ '>' :: after)) = removeTags after := by
  have hafter : afterTag? (inner ++ '>' :: after) = some after :=
    afterTag?_eq_some_iff.mpr ⟨inner, hne, h, rfl⟩
  rw [removeTags, if_pos rfl]
  split
  · rename_i after' hsome
    rw [Option.some.inj (hafter.symm.trans hsome)]
  · rename_i hnone
    cases hafter.symm.trans hnone

/-- A character that starts no tag is kept. -/
theorem removeTags_plain {c : Char} {cs : List Char} (h : c = '<' → afterTag? cs = none) :
    removeTags (c :: cs) = c :: removeTags cs := by
  rw [removeTags]
  split
  · rename_i hc
    split
    · rename_i after hsome
      cases (h hc).symm.trans hsome
    · rfl
  · rfl

/-- **Induction along a text**: a tag is passed over at once. -/
@[elab_as_elim]
theorem removal_induction {motive : List Char → Prop} (s : List Char) (nil : motive [])
    (tag : ∀ inner after : List Char, inner ≠ [] → '>' ∉ inner → motive after →
      motive ('<' :: (inner ++ '>' :: after)))
    (plain : ∀ (c : Char) (cs : List Char), (c = '<' → afterTag? cs = none) → motive cs →
      motive (c :: cs)) : motive s := by
  refine removeTags.induct motive nil ?_ ?_ ?_ s
  · intro cs after hafter ih
    obtain ⟨inner, hne, hnot, rfl⟩ := afterTag?_eq_some_iff.mp hafter
    exact tag inner after hne hnot ih
  · intro cs hnone ih
    exact plain '<' cs (fun _ => hnone) ih
  · intro c cs hc ih
    exact plain c cs (fun heq => absurd heq hc) ih

/-! ### The matches of a pattern -/

section Searches

open Regex

/-- The pattern of a tag. -/
def tagPattern : Regex :=
  sequence [char '<', plus (.set (.compl (.char '>'))), char '>']

example : Pattern.read? "<[^>]+>" = some tagPattern := by decide +kernel

/-- The characters inside of a tag are those of its set. -/
theorem mem_compl_close_iff (c : Char) : (CharSet.compl (.char '>')).mem c = true ↔ c ≠ '>' := by
  rw [CharSet.mem, CharSet.mem_char, Bool.not_eq_true', beq_eq_false_iff_ne]
  exact ne_comm

/-- At a tag the pattern matches, and takes the tag. -/
theorem exists_matchAt_tagPattern {s : MatchState} {inner after : List Char}
    (hahead : s.ahead = '<' :: (inner ++ '>' :: after)) (hne : inner ≠ []) (hnot : '>' ∉ inner) :
    ∃ e, tagPattern.matchAt s = some e ∧ e.ahead = after := by
  have hrun : IsRun (.compl (.char '>')) inner :=
    ⟨hne, fun c hc => (mem_compl_close_iff c).mpr fun heq => hnot (heq ▸ hc)⟩
  have hclose : StartsOutside (CharSet.compl (.char '>')).mem ('>' :: after) :=
    startsOutside_cons.mpr (by simp [CharSet.mem])
  have hpasses : Passes tagPattern (s.ahead, []) (after, []) := by
    rw [hahead]
    exact passes_char.cons ((passes_plus hrun hclose).cons (passes_char.cons (passes_nil _)))
  obtain ⟨e, hmatch, he, -⟩ := hpasses.matchAt
  exact ⟨e, hmatch, he⟩

/-- The pattern fails where no tag starts. -/
theorem fails_tagPattern {cs : List Char}
    (h : ∀ rest, cs = '<' :: rest → afterTag? rest = none) : Fails tagPattern cs := by
  refine fails_cons_of_leads fun s s' hahead hleads => ?_
  obtain ⟨c, rest, hsplit, hmem, rfl⟩ := hleads
  obtain rfl : '<' = c := by simpa using hmem
  have hnone := h rest (hahead.symm.trans hsplit)
  refine fails_cons_of_leads fun s s' hahead hleads => ?_
  obtain ⟨n, hn, hrounds⟩ := hleads
  obtain ⟨text, hlength, htext, hsplit, -⟩ := text_of_rounds hrounds
  refine fails_char fun d hd => beq_eq_false_iff_ne.mpr ?_
  rintro rfl
  -- the run and what is behind it would make a tag
  obtain ⟨after, hafter⟩ := List.head?_eq_some_iff.mp hd
  refine absurd hnone (Option.ne_none_iff_exists'.mpr ⟨after, afterTag?_eq_some_iff.mpr
    ⟨text, ?_, fun hmem => ?_, ?_⟩⟩)
  · rintro rfl
    rw [List.length_nil] at hlength
    omega
  · exact (mem_compl_close_iff _).mp (htext _ hmem) rfl
  · rw [← hafter, ← hsplit, hahead]

/-- **The matches of the pattern** are tags. They are deleted, and what the search skips is kept. -/
theorem scanned_tagPattern (cs : List Char) {s : MatchState} (hahead : s.ahead = cs) :
    ∃ found rest, Scanned tagPattern s found rest ∧ (∀ m ∈ found, IsTag m.text) ∧
      cs = found.flatMap (fun m => m.skipped ++ m.text) ++ rest ∧
      removeTags cs = found.flatMap (·.skipped) ++ rest := by
  induction cs using removal_induction generalizing s with
  | nil =>
      have hnone : tagPattern.matchAt s = none :=
        Fails.matchAt_eq_none (hahead ▸ fails_tagPattern nofun)
      exact ⟨[], [], .at_end hahead hnone, nofun, rfl, by rw [removeTags]; rfl⟩
  | tag inner after hne hnot ih =>
      obtain ⟨e, hmatch, he⟩ := exists_matchAt_tagPattern hahead hne hnot
      obtain ⟨found, rest, hscanned, htags, htext, hremoved⟩ := ih he
      have hlt : e.ahead.length < s.ahead.length := by
        rw [he, hahead, List.length_cons, List.length_append, List.length_cons]
        omega
      have hsplit : s.ahead = ('<' :: (inner ++ ['>'])) ++ after := by
        rw [hahead, List.cons_append, List.append_assoc, List.singleton_append]
      have htake : s.ahead.take (s.ahead.length - e.ahead.length) = '<' :: (inner ++ ['>']) := by
        rw [he, hsplit, List.length_append, Nat.add_sub_cancel, List.take_left]
      refine ⟨_, rest, hscanned.here hmatch hlt, List.forall_mem_cons.mpr ⟨?_, htags⟩, ?_, ?_⟩
      · exact ⟨inner, hne, hnot, htake⟩
      · rw [List.flatMap_cons, htake, List.append_assoc, ← htext]
        simp
      · rw [removeTags_tag hne hnot, hremoved]
        rfl
  | plain c cs hplain ih =>
      have hnone : tagPattern.matchAt s = none :=
        Fails.matchAt_eq_none (hahead ▸ fails_tagPattern fun rest heq => by
          obtain ⟨hc, rfl⟩ := List.cons.inj heq
          exact hplain hc)
      -- the search goes on one character further, where the induction hypothesis speaks
      obtain ⟨found, rest, hscanned, htags, htext, hremoved⟩ := ih (s := s.after [c] cs) rfl
      rw [removeTags_plain hplain, hremoved]
      obtain ⟨rfl, hnext⟩ | ⟨f, more, rfl, hnext⟩ := hscanned.skip hahead hnone
      · exact ⟨[], c :: rest, hnext, nofun, congrArg (c :: ·) htext, rfl⟩
      · refine ⟨_, rest, hnext, ?_, congrArg (c :: ·) htext, rfl⟩
        obtain ⟨hf, hmore⟩ := List.forall_mem_cons.mp htags
        exact List.forall_mem_cons.mpr ⟨hf, hmore⟩

end Searches

/-! ### No tag is left -/

/-- Nothing is added. -/
theorem removeTags_sublist (s : List Char) : (removeTags s).Sublist s := by
  induction s using removal_induction with
  | nil => rw [removeTags]
  | tag inner after hne hnot ih =>
      rw [removeTags_tag hne hnot]
      exact ih.trans (((List.sublist_cons_self _ _).trans (List.sublist_append_right _ _)).cons _)
  | plain c cs hplain ih =>
      rw [removeTags_plain hplain]
      exact ih.cons_cons c

/-- **Where no tag starts**, none starts in what is left. -/
theorem afterTag?_removeTags {cs : List Char} (h : afterTag? cs = none) :
    afterTag? (removeTags cs) = none := by
  rcases close_or_not_mem_of_afterTag? h with ⟨rest, rfl⟩ | hnot
  · rw [removeTags_plain fun heq => absurd heq (by decide), afterTag?_close]
  · exact afterTag?_of_not_mem fun hmem => hnot ((removeTags_sublist cs).subset hmem)

/-- A tag that is held starts at the first character or is held by the rest. -/
theorem holdsTag_cons_iff {c : Char} {cs : List Char} :
    HoldsTag (c :: cs) ↔ (c = '<' ∧ afterTag? cs ≠ none) ∨ HoldsTag cs := by
  simp only [HoldsTag, List.infix_cons_iff, and_or_left, exists_or]
  refine or_congr ?_ Iff.rfl
  constructor
  · rintro ⟨tag, ⟨inner, hne, hnot, rfl⟩, after, heq⟩
    obtain ⟨rfl, hcs⟩ := List.cons.inj heq
    refine ⟨rfl, Option.ne_none_iff_exists'.mpr ⟨after, afterTag?_eq_some_iff.mpr
      ⟨inner, hne, hnot, ?_⟩⟩⟩
    exact hcs.symm.trans (List.append_assoc inner ['>'] after)
  · rintro ⟨rfl, hsome⟩
    obtain ⟨after, hafter⟩ := Option.ne_none_iff_exists'.mp hsome
    obtain ⟨inner, hne, hnot, rfl⟩ := afterTag?_eq_some_iff.mp hafter
    exact ⟨_, ⟨inner, hne, hnot, rfl⟩, after, by simp⟩

/-- **No tag is left.** -/
theorem not_holdsTag_removeTags (s : List Char) : ¬ HoldsTag (removeTags s) := by
  induction s using removal_induction with
  | nil =>
      rw [removeTags]
      rintro ⟨tag, ⟨inner, -, -, rfl⟩, hinfix⟩
      cases List.infix_nil.mp hinfix
  | tag inner after hne hnot ih => rwa [removeTags_tag hne hnot]
  | plain c cs hplain ih =>
      rw [removeTags_plain hplain, holdsTag_cons_iff]
      rintro (⟨hc, hsome⟩ | hholds)
      · exact hsome (afterTag?_removeTags (hplain hc))
      · exact ih hholds

/-- A text without tags stays. -/
theorem removeTags_eq_self {s : List Char} (h : ¬ HoldsTag s) : removeTags s = s := by
  induction s using removal_induction with
  | nil => rw [removeTags]
  | tag inner after hne hnot ih =>
      refine absurd (holdsTag_cons_iff.mpr (Or.inl ⟨rfl, ?_⟩)) h
      rw [afterTag?_eq_some_iff.mpr ⟨inner, hne, hnot, rfl⟩]
      exact Option.some_ne_none _
  | plain c cs hplain ih =>
      rw [removeTags_plain hplain, ih fun hholds => h (holdsTag_cons_iff.mpr (Or.inr hholds))]

end Chars

namespace Text

/-- **Removing tags leaves none.** No tag is held by what is left, so that removing tags again
changes nothing. What is removed is what a search for the pattern of a tag finds, one after the other,
and every match is a tag; what is left is the text that the search skips. A text without tags
stays. -/
theorem removeTags_leaves_none (s : String) :
    ¬ Chars.HoldsTag (removeTags s).toList ∧
    removeTags (removeTags s) = removeTags s ∧
    (∃ found rest, Chars.tagPattern.scan s.toList = (found, rest) ∧
      (∀ m ∈ found, Chars.IsTag m.text) ∧
      s.toList = found.flatMap (fun m => m.skipped ++ m.text) ++ rest ∧
      (removeTags s).toList = found.flatMap (·.skipped) ++ rest) ∧
    (¬ Chars.HoldsTag s.toList → removeTags s = s) := by
  have hchars : (removeTags s).toList = Chars.removeTags s.toList := String.toList_ofList
  have hself : ∀ t : String, ¬ Chars.HoldsTag t.toList → removeTags t = t := fun t h => by
    rw [removeTags, Chars.removeTags_eq_self h, String.ofList_toList]
  have hnone : ¬ Chars.HoldsTag (removeTags s).toList := by
    rw [hchars]
    exact Chars.not_holdsTag_removeTags _
  refine ⟨hnone, hself _ hnone, ?_, hself s⟩
  obtain ⟨found, rest, hscanned, htags, htext, hremoved⟩ :=
    Chars.scanned_tagPattern s.toList (s := .start s.toList) rfl
  exact ⟨found, rest, Regex.scan_of_scanned hscanned, htags, htext, hchars.trans hremoved⟩

/-- What is left of an opening angle bracket does not meet a closing one. -/
example : removeTags "<<p>b><>i</>>" = "b><>i>" := by decide +kernel

end Text

end ApiGloss

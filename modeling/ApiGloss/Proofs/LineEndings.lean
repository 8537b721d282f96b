import ApiGloss.Proofs.HiddenBlocks

/-!
# Line Endings Do Not Show

A line break is written as a line feed, or as a carriage return and a line feed. Before comments are
searched, the second form is replaced by the first one throughout the source text. So a text in
which any choice of line breaks has been lengthened to the second form comes out of this step as the
text itself does (`Chars.unifyBreaks_lengthenBreaks`), and whatever the patterns of a language do
with it afterwards, they do with the same text.

The text must be free of carriage returns of its own. One that stands before a line feed is already
half of a line break; if the line feed behind it is lengthened, it is left over.

## Main results

* `Chars.unifyBreaks_lengthenBreaks`: unifying line breaks takes lengthened ones back.
* `Pipeline.line_endings_do_not_show`: two runs over source files that differ in line endings.
-/

namespace ApiGloss

namespace Chars

/-- A text with some of its line breaks **lengthened**: `chosen n` says whether the line break with
number `n`, counted from zero, is written with a carriage return. -/
def lengthenBreaks (chosen : Nat → Bool) : List Char → List Char
  | [] => []
  | c :: cs =>
    if c = '\n' then
      (if chosen 0 then ['\r', '\n'] else ['\n']) ++ lengthenBreaks (fun n => chosen (n + 1)) cs
    else c :: lengthenBreaks chosen cs

/-- **Unifying line breaks takes lengthened ones back**, whichever have been chosen. -/
theorem unifyBreaks_lengthenBreaks {s : List Char} (h : '\r' ∉ s) (chosen : Nat → Bool) :
    unifyBreaks (lengthenBreaks chosen s) = unifyBreaks s := by
  induction s generalizing chosen with
  | nil => rfl
  | cons c cs ih =>
      obtain ⟨hc, hcs⟩ := not_or.mp (mt List.mem_cons.mpr h)
      rw [lengthenBreaks, unifyBreaks_cons (Ne.symm hc)]
      by_cases hbreak : c = '\n'
      · subst hbreak
        rw [if_pos rfl]
        by_cases hchosen : chosen 0 = true
        · rw [if_pos hchosen, List.cons_append, List.cons_append, List.nil_append, unifyBreaks,
            ih hcs]
        · rw [if_neg hchosen, List.singleton_append, unifyBreaks_cons (Ne.symm hc), ih hcs]
      · rw [if_neg hbreak, unifyBreaks_cons (Ne.symm hc), ih hcs]

end Chars

/-- The second source file is the first one with **some line breaks lengthened**. The text of the
first one has no carriage returns. -/
structure SourceUnit.Lengthened (u u' : SourceUnit) : Prop where
  path_eq : u'.path = u.path
  language_eq : u'.language = u.language
  not_mem : '\r' ∉ u.text.toList
  text_eq : ∃ chosen, u'.text = String.ofList (Chars.lengthenBreaks chosen u.text.toList)

namespace SourceUnit.Lengthened

variable {u u' : SourceUnit}

/-- **The blocks are the same** in every language. -/
theorem findAll_eq (h : u.Lengthened u') (language : Language) :
    Block.findAll language u'.text = Block.findAll language u.text := by
  obtain ⟨chosen, htext⟩ := h.text_eq
  have hsealed : Block.sealBreaks u'.text.toList = Block.sealBreaks u.text.toList := by
    rw [htext, String.toList_ofList, Block.sealBreaks, Block.sealBreaks,
      Chars.unifyBreaks_lengthenBreaks h.not_mem]
  rw [Block.findAll, Block.findAll, hsealed]

/-- Both files show the same, whatever the languages and hooks of a registry. -/
theorem showsSame (h : u.Lengthened u') (r : Registry) : r.ShowsSame u u' where
  path_eq := h.path_eq.symm
  blocks := by
    rw [Registry.blocksOf, Registry.blocksOf, h.language_eq, h.findAll_eq]
    exact List.forall₂_same.mpr fun _ _ => Or.inl rfl

end SourceUnit.Lengthened

namespace Pipeline

/-- **Line endings do not show.** If source files without carriage returns are compared with the same
files after any choice of their line breaks has been lengthened, then each two have the same blocks
in every language; and the two runs have the same endpoint records or the same failure, the same
document or the same failure, and write the same warnings. -/
theorem line_endings_do_not_show (p : Pipeline) {units units' : List SourceUnit}
    (h : List.Forall₂ SourceUnit.Lengthened units units') (package : Package) (j : Journal) :
    List.Forall₂ (fun u u' => ∀ language, Block.findAll language u.text =
      Block.findAll language u'.text) units units' ∧
    (p.endpoints units).outcome j = (p.endpoints units').outcome j ∧
    (p.generate units package).outcome j = (p.generate units' package).outcome j := by
  have hsame : p.registry.parseSources units = p.registry.parseSources units' :=
    Registry.parseSources_eq_of_showsSame (h.imp fun _ _ hunit => hunit.showsSame p.registry)
  have hendpoints : p.endpoints units = p.endpoints units' := by
    rw [endpoints, endpoints, hsame]
  refine ⟨h.imp fun _ _ hunit language => (hunit.findAll_eq language).symm, ?_, ?_⟩
  · rw [hendpoints]
  · rw [generate, generate, hendpoints]

/-- A file with one comment of four lines. -/
def fourLineUnit : SourceUnit :=
  ⟨"a.js", "/**\n * @api \x7bget\x7d /a A\n * @apiDescription one\n * two\n */\n", ".js"⟩

/-- The file with the first line break and the one inside the description lengthened. -/
def mixedBreaksUnit : SourceUnit :=
  ⟨"a.js", "/**\r\n * @api \x7bget\x7d /a A\n * @apiDescription one\r\n * two\n */\n", ".js"⟩

/-- A mixture of line endings, also inside the text of a tag, makes no difference. -/
theorem line_endings_do_not_show_mixed :
    List.Forall₂ SourceUnit.Lengthened [fourLineUnit] [mixedBreaksUnit] ∧
      Block.findAll Language.general fourLineUnit.text =
        Block.findAll Language.general mixedBreaksUnit.text ∧
      ((withBuiltins {} "/" "0.0.0").generate [fourLineUnit] {}).outcome {} =
        ((withBuiltins {} "/" "0.0.0").generate [mixedBreaksUnit] {}).outcome {} := by
  have hlengthened : List.Forall₂ SourceUnit.Lengthened [fourLineUnit] [mixedBreaksUnit] :=
    .cons ⟨rfl, rfl, by decide, fun n => n == 0 || n == 2, by decide +kernel⟩ .nil
  obtain ⟨hblocks, -, hdocument⟩ :=
    line_endings_do_not_show (withBuiltins {} "/" "0.0.0") hlengthened {} {}
  exact ⟨hlengthened, (List.forall₂_cons.mp hblocks).1 Language.general, hdocument⟩

end Pipeline

end ApiGloss

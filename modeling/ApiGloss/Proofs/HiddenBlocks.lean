import ApiGloss.Proofs.FileOrder

/-!
# Hidden Blocks Leave No Trace

A block with a tag that starts with `apiignore` is hidden, and so is one with a tag that starts with
`apiprivate` unless private blocks are kept. The tag may stand anywhere in the block. Whatever else
is in a hidden block, be it definitions, references, or tags that are deprecated, unknown or cannot
be read, decides neither the document nor the failure nor the warnings.

Two source files **show the same** if they have the same path and their blocks agree, position by
position, except where both have a hidden one. The one place where the argument is made is the
choice of the documentation blocks, with their positions (`documentation_eq_of_showsSame`). From
there on, two runs over such files are one and the same computation, from every journal.

## Main results

* `Registry.documentation_eq_of_showsSame`: files that show the same have the same documentation.
* `Pipeline.hidden_blocks_leave_no_trace`: the outcome of two runs over files that show the same.
-/

namespace ApiGloss

namespace Registry

variable (r : Registry)

/-- A block is **hidden** by one of its tags. -/
def Hides (block : String) : Prop :=
  ∃ e ∈ Element.findAll r.hooks block,
    "apiignore".toList <+: e.name.toList ∨
      r.showPrivate = false ∧ "apiprivate".toList <+: e.name.toList

instance (block : String) : Decidable (r.Hides block) :=
  inferInstanceAs (Decidable (∃ e ∈ Element.findAll r.hooks block, _))

/-- The blocks of a source file, whether they are documentation or not. -/
def blocksOf (u : SourceUnit) : List String :=
  Block.findAll (r.languages.get u.language) u.text

/-- Two source files **show the same**: they have the same path, and their blocks agree except where
both have a hidden one. -/
structure ShowsSame (u u' : SourceUnit) : Prop where
  path_eq : u.path = u'.path
  blocks : List.Forall₂ (fun b b' => b = b' ∨ r.Hides b ∧ r.Hides b') (r.blocksOf u) (r.blocksOf u')

variable {r}

/-- A hidden block is no documentation. -/
theorem isDocumentation_of_hides {block : String} (h : r.Hides block) :
    r.isDocumentation (Element.findAll r.hooks block) = false := by
  obtain ⟨e, he, hname⟩ := h
  have hany : ∀ start : String, start.toList <+: e.name.toList →
      (Element.findAll r.hooks block).any (fun e => startsWith start e.name) = true :=
    fun start hstart => List.any_eq_true.mpr ⟨e, he, List.isPrefixOf_iff_prefix.mpr hstart⟩
  unfold isDocumentation
  rcases hname with hignore | ⟨hprivate, hstart⟩
  · rw [hany _ hignore, Bool.not_true, Bool.and_false, Bool.false_and]
  · rw [hany _ hstart, hprivate, Bool.not_true, Bool.or_false, Bool.and_false]

/-- **The documentation blocks** of files that show the same are the same, at the same positions. -/
theorem documentation_eq_of_showsSame {u u' : SourceUnit} (h : r.ShowsSame u u') :
    r.documentation u = r.documentation u' := by
  have hfrom : ∀ (n : Nat) (bs bs' : List String),
      List.Forall₂ (fun b b' => b = b' ∨ r.Hides b ∧ r.Hides b') bs bs' →
      ((bs.map (Element.findAll r.hooks)).zipIdx n).filter (fun e => r.isDocumentation e.1) =
        ((bs'.map (Element.findAll r.hooks)).zipIdx n).filter (fun e => r.isDocumentation e.1) := by
    intro n bs bs' hblocks
    induction hblocks generalizing n with
    | nil => rfl
    | cons hblock _ ih =>
        rw [List.map_cons, List.map_cons, List.zipIdx_cons, List.zipIdx_cons, List.filter_cons,
          List.filter_cons, ih]
        rcases hblock with rfl | ⟨hhides, hhides'⟩
        · rfl
        · -- Both are dropped, and the positions of the blocks behind them stay.
          rw [isDocumentation_of_hides hhides, isDocumentation_of_hides hhides']
          rfl
  exact hfrom 0 _ _ h.blocks

/-- Files that show the same are read in the same way. -/
theorem parseSource_eq_of_showsSame {u u' : SourceUnit} (h : r.ShowsSame u u') :
    r.parseSource u = r.parseSource u' := by
  rw [parseSource, parseSource, documentation_eq_of_showsSame h, h.path_eq]

/-- Lists of files that show the same, one by one, are read in the same way. -/
theorem parseSources_eq_of_showsSame {units units' : List SourceUnit}
    (h : List.Forall₂ r.ShowsSame units units') : r.parseSources units = r.parseSources units' := by
  have hmapM : units.mapM r.parseSource = units'.mapM r.parseSource := by
    induction h with
    | nil => rfl
    | cons hunit _ ih =>
        rw [List.mapM_cons, List.mapM_cons, parseSource_eq_of_showsSame hunit, ih]
  rw [parseSources, parseSources, hmapM]

end Registry

namespace Pipeline

/-- **Hidden blocks leave no trace.** If source files show the same, one by one, then a run over the
first ones has the same document or the same failure as a run over the second ones, and writes the
same warnings. -/
theorem hidden_blocks_leave_no_trace (p : Pipeline) {units units' : List SourceUnit}
    (h : List.Forall₂ p.registry.ShowsSame units units') (package : Package) (j : Journal) :
    (p.generate units package).outcome j = (p.generate units' package).outcome j := by
  rw [generate, generate, endpoints, endpoints, Registry.parseSources_eq_of_showsSame h]

/-- A file with two hidden blocks: one that cannot be read, and one with a definition. -/
def secretUnit : SourceUnit :=
  ⟨"a.js", "/** @api broken \x7bget\n @apiPrivate */" ++
    "/** @api \x7bget\x7d /a\n @apiUse D\n @apiX */ /** @apiIgnoreThis\n @apiDefine D */", "js"⟩

/-- The file with other hidden blocks: an endpoint with a deprecated tag, and one without a tag that
is known. -/
def otherSecretUnit : SourceUnit :=
  ⟨"a.js", "/** @api \x7bget\x7d /b\n @apiErrorStructure E\n @apiIgnore */" ++
    "/** @api \x7bget\x7d /a\n @apiUse D\n @apiX */ /** @apiPrivate\n @apiY */", "js"⟩

/-- Neither run finds the definition that the one endpoint uses, and neither reports the tags of a
hidden block: both fail in the same way, with the same warnings. -/
theorem hidden_blocks_leave_no_trace_undefined :
    List.Forall₂ ({} : Registry).ShowsSame [secretUnit] [otherSecretUnit] ∧
      ((withBuiltins {} "/" "0.0.0").generate [secretUnit] {}).outcome {} =
        ((withBuiltins {} "/" "0.0.0").generate [otherSecretUnit] {}).outcome {} := by
  have hblocks : ({} : Registry).blocksOf secretUnit =
      [" @api broken \x7bget\n @apiPrivate", " @api \x7bget\x7d /a\n @apiUse D\n @apiX",
        " @apiIgnoreThis\n @apiDefine D"] := by decide +kernel
  have hblocks' : ({} : Registry).blocksOf otherSecretUnit =
      [" @api \x7bget\x7d /b\n @apiErrorStructure E\n @apiIgnore",
        " @api \x7bget\x7d /a\n @apiUse D\n @apiX", " @apiPrivate\n @apiY"] := by decide +kernel
  have hsame : List.Forall₂ ({} : Registry).ShowsSame [secretUnit] [otherSecretUnit] := by
    refine .cons ⟨rfl, ?_⟩ .nil
    rw [hblocks, hblocks']
    exact .cons (Or.inr (by decide +kernel)) (.cons (Or.inl rfl)
      (.cons (Or.inr (by decide +kernel)) .nil))
  exact ⟨hsame, hidden_blocks_leave_no_trace (withBuiltins {} "/" "0.0.0") hsame {} {}⟩

end Pipeline

end ApiGloss

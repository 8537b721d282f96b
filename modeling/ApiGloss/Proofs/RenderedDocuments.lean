import ApiGloss.Proofs.DocumentProse
import ApiGloss.Proofs.FileOrder

/-!
# Rendering Does Not Change the Structure of a Document

A run with a renderer and a run without one read the same blocks, select the same endpoints, resolve
the same references and build the same document, as long as the renderer leaves types alone: both
fail for the same reason, or the documents differ in prose only.

The two runs are followed stage by stage. Blocks are read with the same bare records, resolving
leaves them with endpoint records that look the same, and the documents of such records are the same
but for prose.

## Main results

* `Pipeline.endpointsOutcome_unrendered`: the endpoint records of both runs look the same.
* `Record.leavesTypes_paragraph`: a renderer that leaves types alone.
* `Pipeline.rendering_keeps_structure`: runs with and without a renderer.
-/

namespace ApiGloss

open Json

/-! ### Endpoint records -/

namespace Filter

open Resolve

/-- What stands at a position of two related lists. -/
theorem rel_getElem? {α β : Type} {R : α → β → Prop} {l : List α} {l' : List β}
    (h : List.Forall₂ R l l') (i : Nat) : Option.Rel R l[i]? l'[i]? := by
  induction h generalizing i with
  | nil => exact Option.Rel.none
  | cons hab _ ih =>
      cases i with
      | zero => exact Option.Rel.some hab
      | succ i => exact ih i

/-- The selection depends on which blocks are endpoint blocks only. -/
theorem selection_eq (files : List ParsedFile) :
    selection files = (files.map fun file => file.blocks.map isEndpoint).zipIdx.flatMap
      fun (marks, i) => (marks.zipIdx.filter (·.1)).map fun (_, j) => (i, j) := by
  unfold selection
  rw [List.zipIdx_map, List.flatMap_map]
  refine List.flatMap_congr fun e _ => ?_
  dsimp only [Prod.map]
  rw [List.zipIdx_map, List.filter_map, List.map_map]
  rfl

/-- **The same blocks are selected** in files that differ in texts for readers only. -/
theorem selection_agree {files files' : List ParsedFile}
    (h : List.Forall₂ (FilesAgree SameBare) files files') : selection files = selection files' := by
  have hblocks : ∀ blocks blocks', List.Forall₂ SameBare blocks blocks' →
      blocks.map isEndpoint = blocks'.map isEndpoint := by
    intro blocks blocks' hblocks
    induction hblocks with
    | nil => rfl
    | cons hb _ ih =>
        rw [List.map_cons, List.map_cons, ih, ← isEndpoint_bare, hb, isEndpoint_bare]
  have hmarks : (files.map fun file => file.blocks.map isEndpoint) =
      files'.map fun file => file.blocks.map isEndpoint := by
    induction h with
    | nil => rfl
    | cons hfile _ ih => rw [List.map_cons, List.map_cons, ih, hblocks _ _ hfile.blocks]
  rw [selection_eq, selection_eq, hmarks]

/-- **The records at the same positions** of files that look the same. -/
theorem records_agree {files files' : List ParsedFile}
    (h : List.Forall₂ (FilesAgree SameView) files files') (positions : List (Nat × Nat)) :
    List.Forall₂ RecordsAlike (records files positions) (records files' positions) := by
  have hsame : List.Forall₂ (· = ·) positions positions := List.forall₂_same.mpr fun _ _ => rfl
  refine List.rel_filterMap (fun place place' hplace => ?_) hsame
  subst hplace
  obtain ⟨i, k⟩ := place
  have hblock : Option.Rel SameView (files[i]?.bind fun file => file.blocks[k]?)
      (files'[i]?.bind fun file => file.blocks[k]?) :=
    rel_bind (rel_getElem? h i) fun file file' hfile => rel_getElem? hfile.blocks k
  dsimp only
  generalize (files[i]?.bind fun file => file.blocks[k]?) = b? at hblock ⊢
  generalize (files'[i]?.bind fun file => file.blocks[k]?) = b?' at hblock ⊢
  cases hblock with
  | none => exact Option.Rel.none
  | some hb => exact Option.Rel.some ⟨_, _, rfl, rfl, hb.get?_eq⟩

end Filter

namespace Pipeline

open Resolve

/-- **The endpoint records** of a run with a renderer and of one without it look the same. -/
theorem endpointsOutcome_unrendered (registry : Registry)
    (hr : ∀ renderer, registry.renderer = some renderer → Record.LeavesTypes renderer)
    (hreaders : registry.readers = Tag.builtin) (workDir defaultVersion : String)
    (units : List SourceUnit) :
    Run.Agree (List.Forall₂ RecordsAlike)
      ((withBuiltins registry workDir defaultVersion).endpointsOutcome units)
      ((withBuiltins registry.unrendered workDir defaultVersion).endpointsOutcome units) := by
  refine (Registry.sourcesOutcome_unrendered hr hreaders units).bind fun files files' hfiles => ?_
  have hcleaned := forall₂_mapFile (f := fun _ => Filter.cleanAll) (fun _ b b' hb => by
    rw [SameBare, Filter.bare_cleanAll, hb, ← Filter.bare_cleanAll]) hfiles
  dsimp only [withBuiltins]
  rw [Filter.process_builtin, Filter.process_builtin, Filter.selection_agree hcleaned]
  exact (process_agree workDir defaultVersion hcleaned).bind fun resolved resolved' hresolved =>
    Filter.records_agree hresolved _

end Pipeline

/-! ### A renderer that leaves types alone -/

namespace Record

/-- Texts without line breaks are flat. -/
theorem flatten_append {s : List Char} (hfeed : '\n' ∉ s) (hreturn : '\r' ∉ s) (rest : List Char) :
    flatten (s ++ rest) = s ++ flatten rest := by
  induction s with
  | nil => rfl
  | cons c cs ih =>
      obtain ⟨hc, hcs⟩ := not_or.mp (mt List.mem_cons.mpr hfeed)
      obtain ⟨hc', hcs'⟩ := not_or.mp (mt List.mem_cons.mpr hreturn)
      have hbreak : ¬(c = '\n' ∨ c = '\r') := fun h => h.elim (hc ∘ Eq.symm) (hc' ∘ Eq.symm)
      rw [List.cons_append, flatten, ih hcs hcs', if_neg hbreak]
      · rfl
      · exact fun _ h _ => hc' h.symm

/-- What does not start as the text to be replaced stays. -/
theorem replace_go_append {first : Char} {old new s : List Char} (h : first ∉ s)
    (rest : List Char) :
    Chars.replace.go (first :: old) new (s ++ rest) 0 =
      s ++ Chars.replace.go (first :: old) new rest 0 := by
  induction s with
  | nil => rfl
  | cons c cs ih =>
      obtain ⟨hc, hcs⟩ := not_or.mp (mt List.mem_cons.mpr h)
      have hpre : (first :: old).isPrefixOf (c :: (cs ++ rest)) = false := by
        rw [List.isPrefixOf, beq_false_of_ne hc, Bool.false_and]
      rw [List.cons_append, Chars.replace.go, hpre, ih hcs]
      rfl

/-- Trimming a text that ends with a single blank. -/
theorem trim_append_blank {first last : Char} (hfirst : Text.isBlank first = false)
    (hlast : Text.isBlank last = false) (s : List Char) :
    Chars.trim (first :: (s ++ [last]) ++ [' ']) = first :: (s ++ [last]) := by
  have hblank : Text.isBlank ' ' = true := by decide
  have hreverse : (first :: (s ++ [last]) ++ [' ']).reverse =
      ' ' :: last :: (first :: s).reverse := by
    simp only [List.reverse_append, List.reverse_cons, List.reverse_nil, List.nil_append,
      List.cons_append]
  unfold Chars.trim Chars.trimEnd Chars.trimStart
  rw [List.cons_append, List.dropWhile_cons_of_neg (by rw [hfirst]; decide), ← List.cons_append,
    hreverse, List.dropWhile_cons_of_pos hblank,
    List.dropWhile_cons_of_neg (by rw [hlast]; decide), List.reverse_cons, List.reverse_reverse,
    List.cons_append]

/-- A renderer that makes a paragraph of every text. -/
def paragraph : Renderer :=
  fun text => "<p>" ++ text ++ "</p>\n"

/-- The paragraph of a text on one line. -/
theorem trim_flatten_paragraph {text : String} (hfeed : '\n' ∉ text.toList)
    (hreturn : '\r' ∉ text.toList) :
    Chars.trim (flatten (paragraph text).toList) =
      "<p>".toList ++ (text.toList ++ "</p>".toList) := by
  have htext : (paragraph text).toList =
      ("<p>".toList ++ (text.toList ++ "</p>".toList)) ++ ['\n'] := by
    simp only [paragraph, String.toList_append, List.append_assoc]
    rfl
  have hmarks : ∀ c, c ∉ "<p>".toList → c ∉ text.toList → c ∉ "</p>".toList →
      c ∉ "<p>".toList ++ (text.toList ++ "</p>".toList) := by
    intro c hopen hc hclose
    simp only [List.mem_append, not_or]
    exact ⟨hopen, hc, hclose⟩
  have hends : "<p>".toList ++ (text.toList ++ "</p>".toList) =
      '<' :: (('p' :: '>' :: text.toList ++ ['<', '/', 'p']) ++ ['>']) := by
    simp only [List.cons_append, List.append_assoc]
    rfl
  rw [htext, flatten_append (hmarks '\n' (by decide) hfeed (by decide))
    (hmarks '\r' (by decide) hreturn (by decide)), hends]
  exact trim_append_blank (by decide) (by decide) _

/-- **Paragraphs leave types alone**: the characters of types are neither line breaks nor part of
paragraph marks. -/
theorem leavesTypes_paragraph : LeavesTypes paragraph := by
  intro type _ hchars
  have hother : ∀ c, FieldDecl.typeChars.mem c = false → c ∉ type.toList := by
    intro c hc hmem
    rw [hchars c hmem] at hc
    cases hc
  have hopen : '<' ∉ type.toList := hother '<' (by decide)
  have hline := trim_flatten_paragraph (hother '\n' (by decide)) (hother '\r' (by decide))
  have hfront : Chars.replace "<p>".toList "".toList
      ("<p>".toList ++ (type.toList ++ "</p>".toList)) = type.toList ++ "</p>".toList :=
    replace_go_append hopen "</p>".toList
  have hback : Chars.replace "</p>".toList "".toList (type.toList ++ "</p>".toList) =
      type.toList := by
    refine (replace_go_append hopen "</p>".toList).trans ?_
    exact List.append_nil _
  have hreplace : ∀ (old : String) (s : List Char), Text.replace old "" (String.ofList s) =
      String.ofList (Chars.replace old.toList "".toList s) := by
    intro old s
    rw [Text.replace, show (String.ofList s).toList = s from String.toList_ofList]
  unfold renderText
  rw [if_pos rfl, hline, hreplace, hfront, hreplace, hback, String.ofList_toList]

end Record

/-! ### Documents -/

namespace Pipeline

/-- **Rendering does not change the structure of a document.** If a renderer leaves types alone,
then a run with it and a run without it fail for the same reason, or their documents are the same up
to the summaries of operations and the descriptions of parameters and properties. -/
theorem rendering_keeps_structure {registry : Registry}
    (hreaders : registry.readers = Tag.builtin) {renderer : Record.Renderer}
    (hrenderer : Record.LeavesTypes renderer) (workDir defaultVersion : String)
    (units : List SourceUnit) (package : Package) (j j' : Journal) :
    (((withBuiltins { registry with renderer := some renderer } workDir defaultVersion).generate
        units package).outcome j).1.map Document.withoutProse =
      (((withBuiltins { registry with renderer := none } workDir defaultVersion).generate
        units package).outcome j').1.map Document.withoutProse := by
  rw [generate_yields, generate_yields]
  have hr : ∀ other, some renderer = some other → Record.LeavesTypes other := by
    rintro _ ⟨⟩
    exact hrenderer
  have hrecords := endpointsOutcome_unrendered { registry with renderer := some renderer } hr
    hreaders workDir defaultVersion units
  exact (hrecords.bind fun records records' h =>
    Document.buildOutcome_agree package.toInfo h).map_eq

/-- An endpoint with a description and with fields. -/
def describedUnits : List SourceUnit :=
  [⟨"a.js", "/** @api {put} /a\n @apiDescription A *b*\n @apiParam {N} x An *x* */", "js"⟩]

/-- Paragraphs do not change the structure of the document. -/
theorem rendering_keeps_structure_paragraph :
    Record.LeavesTypes Record.paragraph ∧ ∃ d d',
      (((withBuiltins { renderer := some Record.paragraph } "/" "0.0.0").generate describedUnits
        {}).outcome {}).1 = .ok d ∧
      (((withBuiltins {} "/" "0.0.0").generate describedUnits {}).outcome {}).1 = .ok d' ∧
      d.withoutProse = d'.withoutProse := by
  have hreaders : ({} : Registry).readers = Tag.builtin := rfl
  have hsame := rendering_keeps_structure hreaders Record.leavesTypes_paragraph "/" "0.0.0"
    describedUnits {} {} {}
  have hsome : ((withBuiltins {} "/" "0.0.0").generateOutcome describedUnits {}).toOption.isSome
      = true := by decide +kernel
  rw [generate_yields, generate_yields] at hsame ⊢
  refine ⟨Record.leavesTypes_paragraph, ?_⟩
  generalize (withBuiltins { renderer := some Record.paragraph } "/" "0.0.0").generateOutcome
    describedUnits {} = rendered at hsame ⊢
  generalize (withBuiltins {} "/" "0.0.0").generateOutcome describedUnits {} = plain
    at hsame hsome ⊢
  cases plain with
  | error e => cases hsome
  | ok d' =>
      cases rendered with
      | error e => cases hsame
      | ok d => exact ⟨d, d', rfl, rfl, Except.ok.inj hsame⟩

end Pipeline

end ApiGloss

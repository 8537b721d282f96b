import ApiGloss.Proofs.Matching
import ApiGloss.Proofs.Prose
import ApiGloss.Proofs.Reading
import ApiGloss.Proofs.Selection

/-!
# Reading Blocks with and without a Renderer

A renderer changes the texts for readers and the types of fields. If it leaves types alone, then
blocks are read in the same way with it and without it: the same elements are refused for the same
reasons, and the records differ in texts for readers only, that is, they have the same bare
records.

## Main results

* `Registry.bareFields_rendered`: rendered values have the same bare values.
* `Registry.placeValues_bare`: what putting values into their place does to the bare record.
* `Registry.sourcesOutcome_unrendered`: source files are read in the same way with and without a
  renderer, up to bare records.
-/

namespace ApiGloss

open Json Record

/-! ### Outcomes that agree -/

namespace Run

variable {ε α β γ δ σ τ : Type}

/-- Two **outcomes agree** up to a relation: both fail for the same reason, or both succeed with
related results. -/
def Agree (R : α → β → Prop) : Except ε α → Except ε β → Prop
  | .ok a, .ok b => R a b
  | .error e, .error e' => e = e'
  | _, _ => False

/-- One outcome after the other. -/
theorem Agree.bind {R : α → β → Prop} {S : γ → δ → Prop} {x : Except ε α} {y : Except ε β}
    {f : α → Except ε γ} {g : β → Except ε δ} (h : Agree R x y)
    (hfg : ∀ a b, R a b → Agree S (f a) (g b)) : Agree S (x >>= f) (y >>= g) := by
  cases x with
  | error e =>
      cases y with
      | error e' => exact h
      | ok b => cases h
  | ok a =>
      cases y with
      | error e' => cases h
      | ok b => exact hfg a b h

/-- A weaker relation. -/
theorem Agree.imp {R S : α → β → Prop} {x : Except ε α} {y : Except ε β} (h : Agree R x y)
    (hRS : ∀ a b, R a b → S a b) : Agree S x y := by
  cases x <;> cases y
  · exact h
  · cases h
  · cases h
  · exact hRS _ _ h

/-- Going through a list. -/
theorem agree_mapM {R : α → β → Prop} {f : σ → Except ε α} {g : σ → Except ε β}
    (hfg : ∀ s, Agree R (f s) (g s)) (l : List σ) :
    Agree (List.Forall₂ R) (l.mapM f) (l.mapM g) := by
  induction l with
  | nil =>
      rw [List.mapM_nil, List.mapM_nil]
      exact List.Forall₂.nil
  | cons s rest ih =>
      rw [List.mapM_cons, List.mapM_cons]
      exact (hfg s).bind fun a b hab => ih.bind fun _ _ hrest => List.Forall₂.cons hab hrest

/-- Folding over two lists of related items. -/
theorem agree_foldlM {Q : σ → τ → Prop} {R : α → β → Prop} {f : α → σ → Except ε α}
    {g : β → τ → Except ε β}
    (hfg : ∀ a b s t, R a b → Q s t → Agree R (f a s) (g b t)) {l : List σ} {l' : List τ}
    (h : List.Forall₂ Q l l') {a : α} {b : β} (hab : R a b) :
    Agree R (l.foldlM f a) (l'.foldlM g b) := by
  induction h generalizing a b with
  | nil => exact hab
  | cons hst _ ih =>
      rw [List.foldlM_cons, List.foldlM_cons]
      exact (hfg a b _ _ hab hst).bind fun a' b' hab' => ih hab'

/-- Outcomes that look the same agree up to their looks. -/
theorem agree_of_map_eq {g : α → γ} {h : β → γ} {x : Except ε α} {y : Except ε β}
    (hxy : x.map g = y.map h) : Agree (fun a b => g a = h b) x y := by
  cases x <;> cases y
  · exact Except.error.inj hxy
  · cases hxy
  · cases hxy
  · exact Except.ok.inj hxy

/-- Outcomes that agree up to their looks look the same. -/
theorem Agree.map_eq {g : α → γ} {x y : Except ε α} (h : Agree (fun a b => g a = g b) x y) :
    x.map g = y.map g := by
  cases x <;> cases y
  · exact congrArg Except.error h
  · cases h
  · cases h
  · exact congrArg Except.ok h

end Run

/-! ### Bare records of blocks -/

/-- The **bare record of a block**. -/
def BlockRecord.bare (b : BlockRecord) : BlockRecord where
  globals := bareFields b.globals
  locals := bareFields b.locals
  root := bareFields b.root
  index := b.index

/-- Two blocks with the **same bare records**. -/
def SameBare (b b' : BlockRecord) : Prop :=
  b.bare = b'.bare

namespace SameBare

variable {b b' : BlockRecord}

theorem globals_eq (h : SameBare b b') : bareFields b.globals = bareFields b'.globals :=
  congrArg BlockRecord.globals h

theorem locals_eq (h : SameBare b b') : bareFields b.locals = bareFields b'.locals :=
  congrArg BlockRecord.locals h

theorem root_eq (h : SameBare b b') : bareFields b.root = bareFields b'.root :=
  congrArg BlockRecord.root h

theorem index_eq (h : SameBare b b') : b.index = b'.index := by
  have hbare : b.bare.index = b'.bare.index := congrArg BlockRecord.index h
  exact hbare

end SameBare

/-- Two files **agree** up to a relation of their blocks. -/
structure FilesAgree (R : BlockRecord → BlockRecord → Prop) (file file' : ParsedFile) : Prop where
  path_eq : file.path = file'.path
  blocks : List.Forall₂ R file.blocks file'.blocks

namespace Registry

/-- What is known of a block while it is read, without the texts for readers. -/
def BlockState.bare (st : BlockState) : BlockState :=
  { st with record := st.record.bare }

/-- Values at the root of a bare record. -/
theorem bare_atRoot (reader : TagReader) (values : Table Json) (b : BlockRecord) :
    (atRoot reader values b).bare = atRoot reader (bareFields values) b.bare := by
  unfold atRoot
  split
  · unfold BlockRecord.bare
    rw [bareFields_extend]
  · rfl

/-- Attaching to the bare record of a block. -/
theorem attachAt_bare (method : AttachMethod) (values : Table Json) (path : String)
    (b : BlockRecord) :
    (attachAt method values path b).map BlockRecord.bare =
      attachAt method (bareFields values) path b.bare := by
  unfold attachAt
  split
  · show _ = Option.map _ (attach method (bareFields values) _ (bareFields b.globals))
    rw [← attach_bareFields, Option.map_map, Option.map_map]
    rfl
  · show _ = Option.map _ (attach method (bareFields values) _ (bareFields b.locals))
    rw [← attach_bareFields, Option.map_map, Option.map_map]
    rfl
  · show _ = Option.map _ (attach method (bareFields values) _ (bareFields b.root))
    rw [← attach_bareFields, Option.map_map, Option.map_map]
    rfl

/-- A place is checked by what is bare. -/
theorem checkPlace_bare (reader : TagReader) (path : String) (st : BlockState) :
    (checkPlace reader path st).map BlockState.bare = checkPlace reader path st.bare := by
  have hglobals : st.bare.record.globals = bareFields st.record.globals := rfl
  unfold checkPlace
  rw [hglobals, length_bareFields, isEmpty_bareFields]
  have hextra : st.bare.extraDefinitions = st.extraDefinitions := rfl
  rw [hextra]
  split
  · rfl
  · split
    · split
      · rfl
      · split
        · rfl
        · split <;> rfl
    · rfl

/-- **Putting values into their place** in the bare record. -/
theorem placeValues_bare (reader : TagReader) (index : Nat) (path : String) (values : Table Json)
    (st : BlockState) :
    (placeValues reader index path values st).map BlockState.bare =
      placeValues reader index path (bareFields values) st.bare := by
  unfold placeValues
  rw [← checkPlace_bare]
  cases checkPlace reader path st with
  | error cause => rfl
  | ok st₁ =>
      have hattach : attachAt reader.method (bareFields values) path
          (atRoot reader (bareFields values) st₁.bare.record) =
            (attachAt reader.method values path (atRoot reader values st₁.record)).map
              BlockRecord.bare := by
        rw [attachAt_bare, bare_atRoot]
        rfl
      dsimp only [Except.map]
      rw [hattach]
      cases attachAt reader.method values path (atRoot reader values st₁.record) with
      | none => rfl
      | some b => rfl

end Registry

/-! ### Rendered values -/

namespace Record

/-- A renderer **leaves types alone**: what it makes of a text of type characters is that text, once
it stands on one line without paragraph marks. -/
def LeavesTypes (renderer : Renderer) : Prop :=
  ∀ type : String, type ≠ "" → (∀ c ∈ type.toList, FieldDecl.typeChars.mem c = true) →
    renderText renderer true type = type

/-- Rendering a text for readers does not show in the bare value. -/
theorem bareAt_renderValue {name : String} (hname : name ∈ proseNames) (renderer : Renderer)
    (strip : Bool) (v : Json) : bareAt name (renderValue renderer strip v) = bareAt name v := by
  cases v with
  | str text =>
      unfold bareAt blankAt
      rw [if_pos hname, if_pos hname]
      rfl
  | _ => rfl

/-- Rendering texts for readers does not show in the bare values. -/
theorem bareFields_renderFields (renderer : Renderer) {reader : TagReader}
    (hmarkdown : ∀ field ∈ reader.markdown,
      ∃ last ∈ proseNames, (Text.split '.' field).getLast? = some last) (values : Table Json) :
    bareFields (renderFields renderer reader values) = bareFields values := by
  unfold renderFields
  generalize reader.markdown = fields at hmarkdown
  induction fields generalizing values with
  | nil => rfl
  | cons field rest ih =>
      obtain ⟨⟨last, hlast, hpath⟩, hrest⟩ := List.forall_mem_cons.mp hmarkdown
      rw [List.foldl_cons, ih _ hrest,
        bareFields_modifyAt _ hpath (bareAt_renderValue hlast renderer _)]

/-- The type of a declaration, as it is written down. -/
theorem get?_type_toFields (d : FieldDecl) :
    Table.get? "type" d.toFields = d.type.map .str := by
  obtain ⟨group, type, size, allowed, isOptional, name, defaultValue, description⟩ := d
  cases type <;> cases size <;> cases allowed <;> cases defaultValue <;> rfl

/-- **Rendering a declaration** does not show in the bare declaration, if types are left alone. -/
theorem bareFields_renderFields_field {renderer : Renderer} (hrenderer : LeavesTypes renderer)
    (kind : FieldKind) {d : FieldDecl}
    (htype : ∀ type, d.type = some type →
      type ≠ "" ∧ ∀ c ∈ type.toList, FieldDecl.typeChars.mem c = true) :
    bareFields (renderFields renderer (Tag.field kind) d.toFields) = bareFields d.toFields := by
  have hdescription : Text.split '.' "description" = ["description"] := by decide
  have hsplit : Text.split '.' "type" = ["type"] := by decide
  by_cases hheader : kind = .header
  · refine bareFields_renderFields renderer (fun field hfield => ?_) d.toFields
    have hmarkdown : (Tag.field kind).markdown = ["description"] := if_pos hheader
    rw [hmarkdown, List.mem_singleton] at hfield
    rw [hfield, hdescription]
    exact ⟨"description", by decide, rfl⟩
  · have hmarkdown : (Tag.field kind).markdown = ["description", "type"] := if_neg hheader
    have hstrip : (Tag.field kind).stripParagraphs = ["type"] := if_neg hheader
    have hsame : ∀ v, Table.get? "type" d.toFields = some v → renderValue renderer true v = v := by
      intro v hv
      rw [get?_type_toFields] at hv
      obtain ⟨type, hd, rfl⟩ := Option.map_eq_some_iff.mp hv
      obtain ⟨hne, hchars⟩ := htype type hd
      rw [renderValue, if_neg hne, hrenderer type hne hchars]
    unfold renderFields
    rw [hmarkdown, hstrip]
    simp only [List.foldl_cons, List.foldl_nil, hdescription, hsplit, modifyAt]
    rw [Table.modify_eq_self]
    · exact bareFields_modifyAt ["description"] rfl (bareAt_renderValue (by decide) renderer _) _
    · intro v hv
      rw [Table.get?_modify, if_neg (by decide)] at hv
      exact hsame v hv

end Record

namespace Registry

variable {r : Registry}

/-- **Rendered values** have the same bare values. -/
theorem bareFields_rendered (hr : ∀ renderer, r.renderer = some renderer → LeavesTypes renderer)
    {reader : TagReader} (hplace : Tag.Place reader) {content : String}
    {context context' : ReadContext} {values : Table Json}
    (hread : reader.read content context = .ok (some values, context')) :
    bareFields (r.rendered reader values) = bareFields values := by
  unfold rendered
  split
  · rename_i renderer hrenderer
    cases hplace with
    | field kind =>
        unfold Tag.field at hread
        dsimp only at hread
        split at hread
        · rename_i d hd
          cases hread
          exact bareFields_renderFields_field (hr renderer hrenderer) kind
            fun type htype => FieldDecl.type_of_parse? hd htype
        · cases hread
    | item _ _ _ _ hmarkdown _ =>
        unfold renderFields
        rw [hmarkdown, List.foldl_nil]
    | entries _ hmarkdown _ _ _ =>
        refine bareFields_renderFields renderer (fun field hfield => ?_) values
        have hall : ∀ field ∈ ["description", "deprecated.content"],
            ∃ last ∈ proseNames, (Text.split '.' field).getLast? = some last := by decide
        exact hall field (hmarkdown field hfield)
    | definition kind =>
        refine bareFields_renderFields renderer (fun field hfield => ?_) values
        have hall : ∀ field ∈ ["description"],
            ∃ last ∈ proseNames, (Text.split '.' field).getLast? = some last := by decide
        exact hall field hfield
  · rfl

/-! ### Reading with and without a renderer -/

/-- The registry without its renderer. -/
def unrendered (r : Registry) : Registry :=
  { r with renderer := none }

/-- **One element** is read in the same way with and without a renderer. -/
theorem readElement_unrendered
    (hr : ∀ renderer, r.renderer = some renderer → LeavesTypes renderer) {reader : TagReader}
    (hplace : Tag.Place reader) (index : Nat) (e : Element) {st st' : BlockState}
    (hst : st.bare = st'.bare) :
    Run.Agree (fun a b => BlockState.bare a = BlockState.bare b)
      (r.readElement reader index e st) (r.unrendered.readElement reader index e st') := by
  have hcontext : st.bare.context = st'.bare.context := congrArg BlockState.context hst
  change st.context = st'.context at hcontext
  rw [readElement_eq, readElement_eq, hcontext]
  cases hread : reader.read (Text.trim e.content) st'.context with
  | error cause => rfl
  | ok result =>
      obtain ⟨values?, context⟩ := result
      cases values? with
      | none => rfl
      | some values =>
          dsimp only
          split
          · rfl
          · refine Run.agree_of_map_eq ?_
            have hstates : BlockState.bare { st with context := context } =
                BlockState.bare { st' with context := context } := by
              unfold BlockState.bare at hst ⊢
              rw [BlockState.mk.injEq] at hst ⊢
              exact ⟨hst.1, rfl, hst.2.2⟩
            rw [placeValues_bare, placeValues_bare, hstates, bareFields_rendered hr hplace hread]
            rfl

/-- An element with a known tag, or with an unknown one. -/
theorem elementOutcome_unrendered
    (hr : ∀ renderer, r.renderer = some renderer → LeavesTypes renderer)
    (hreaders : r.readers = Tag.builtin) (file : String) (index : Nat) {st st' : BlockState}
    (hst : st.bare = st'.bare) (e : Element) :
    Run.Agree (fun a b => BlockState.bare a = BlockState.bare b)
      (r.elementOutcome file index st e) (r.unrendered.elementOutcome file index st' e) := by
  unfold elementOutcome
  have hsame : r.unrendered.readers = r.readers := rfl
  rw [hsame]
  cases hreader : Table.get? e.name r.readers with
  | none => exact hst
  | some reader =>
      have hplace : Tag.Place reader := Tag.place_builtin (hreaders ▸ hreader)
      have hread := readElement_unrendered hr hplace index e hst
      dsimp only
      cases hone : r.readElement reader index e st <;>
        cases hother : r.unrendered.readElement reader index e st' <;>
          rw [hone, hother] at hread
      · cases hread
        rfl
      · cases hread
      · cases hread
      · exact hread

/-- **A block** is read in the same way with and without a renderer. -/
theorem blockOutcome_unrendered
    (hr : ∀ renderer, r.renderer = some renderer → LeavesTypes renderer)
    (hreaders : r.readers = Tag.builtin) (file : String) (index : Nat) (elements : List Element) :
    Run.Agree SameBare (r.blockOutcome file index elements)
      (r.unrendered.blockOutcome file index elements) := by
  have hsame : List.Forall₂ (· = ·) elements elements := List.forall₂_same.mpr fun _ _ => rfl
  have hrun : Run.Agree (fun a b => BlockState.bare a = BlockState.bare b)
      (elements.foldlM (r.elementOutcome file index) {})
      (elements.foldlM (r.unrendered.elementOutcome file index) {}) := by
    refine Run.agree_foldlM (fun st st' e e' hst he => ?_) hsame rfl
    subst he
    exact elementOutcome_unrendered hr hreaders file index hst e
  exact hrun.bind fun st st' hst => congrArg BlockState.record hst

/-- The files that are made of records with the same bare records. -/
theorem fileOf?_bare (path : String) {records records' : List BlockRecord}
    (h : List.Forall₂ SameBare records records') :
    Option.Rel (FilesAgree SameBare) (fileOf? path records) (fileOf? path records') := by
  have hindex : ∀ b b', SameBare b b' → ((b.index != 0) = true ↔ (b'.index != 0) = true) := by
    intro b b' hb
    rw [hb.index_eq]
  have hblocks := List.rel_filter (fun b b' hb => hindex b b' hb) h
  unfold fileOf?
  dsimp only
  have hempty : (records.filter (·.index != 0)).isEmpty =
      (records'.filter (·.index != 0)).isEmpty := by
    rw [Bool.eq_iff_iff, List.isEmpty_iff_length_eq_zero, List.isEmpty_iff_length_eq_zero,
      hblocks.length_eq]
  rw [hempty]
  split
  · exact Option.Rel.none
  · exact Option.Rel.some ⟨rfl, hblocks⟩

/-- **A source file** is read in the same way with and without a renderer. -/
theorem sourceOutcome_unrendered
    (hr : ∀ renderer, r.renderer = some renderer → LeavesTypes renderer)
    (hreaders : r.readers = Tag.builtin) (u : SourceUnit) :
    Run.Agree (Option.Rel (FilesAgree SameBare)) (r.sourceOutcome u)
      (r.unrendered.sourceOutcome u) := by
  have hdocumentation : r.unrendered.documentation u = r.documentation u := rfl
  have hrun := Run.agree_mapM (fun block : List Element × Nat =>
    blockOutcome_unrendered hr hreaders u.path block.2 block.1) (r.documentation u)
  unfold sourceOutcome
  rw [hdocumentation]
  exact hrun.bind fun records records' hrecords => fileOf?_bare u.path hrecords

/-- **Source files** are read in the same way with and without a renderer, up to texts for
readers. -/
theorem sourcesOutcome_unrendered
    (hr : ∀ renderer, r.renderer = some renderer → LeavesTypes renderer)
    (hreaders : r.readers = Tag.builtin) (units : List SourceUnit) :
    Run.Agree (List.Forall₂ (FilesAgree SameBare)) (r.sourcesOutcome units)
      (r.unrendered.sourcesOutcome units) := by
  have hrun := Run.agree_mapM (sourceOutcome_unrendered hr hreaders) units
  refine hrun.bind fun files files' hfiles => ?_
  exact List.rel_filterMap (fun file file' hfile => hfile) hfiles

end Registry

/-! ### Clean-ups -/

namespace Filter

/-- Repeated declarations are recognised in bare arrays. -/
theorem firstOfEach_bareItemAt (name : String) (seen : List String) (items : List Json) :
    firstOfEach seen (items.map (bareItemAt name)) =
      (firstOfEach seen items).map (bareItemAt name) := by
  have hkey : ∀ item, fieldKey (bareItemAt name item) = fieldKey item := by
    intro item
    rw [fieldKey, fieldKey, getStr?_bareItemAt (by decide)]
  induction items generalizing seen with
  | nil => rfl
  | cons item rest ih =>
      rw [List.map_cons, firstOfEach, firstOfEach, hkey]
      split
      · exact ih seen
      · rw [ih, List.map_cons]

/-- Dropping repeated declarations from a bare group. -/
theorem bareAt_dropRepeated (name : String) (j : Json) :
    bareAt name (dropRepeated j) = dropRepeated (bareAt name j) := by
  cases j with
  | arr items =>
      rw [bareAt_arr, dropRepeated, dropRepeated, bareAt_arr, firstOfEach_bareItemAt]
  | obj t =>
      rw [bareAt_obj]
      exact bareAt_obj name t
  | _ =>
      unfold bareAt blankAt
      split <;> rfl

/-- Dropping repeated declarations from all groups of a bare section. -/
theorem bare_cleanSection (j : Json) : bare (cleanSection j) = cleanSection (bare j) := by
  cases j with
  | obj part =>
      rw [bare_obj, cleanSection, cleanSection, bare_obj]
      refine congrArg Json.obj (bareFields_modify (fun groups => ?_) part)
      cases groups with
      | obj groups =>
          rw [bareAt_obj, bareAt_obj]
          refine congrArg Json.obj ?_
          rw [bareFields_eq, bareFields_eq, Table.mapValues, Table.mapValues, List.map_map,
            List.map_map]
          refine List.map_congr_left fun e _ => ?_
          exact Prod.ext rfl (bareAt_dropRepeated e.1 e.2)
      | arr items =>
          rw [bareAt_arr]
      | _ =>
          unfold bareAt blankAt
          split <;> rfl
  | arr items =>
      show bare (.arr items) = cleanSection (bare (.arr items))
      rw [bare_arr]
      rfl
  | _ => rfl

/-- **Clean-ups of bare blocks.** -/
theorem bare_cleanAll (b : BlockRecord) : (cleanAll b).bare = cleanAll b.bare := by
  unfold cleanAll
  induction FieldKind.all generalizing b with
  | nil => rfl
  | cons kind rest ih =>
      rw [List.foldl_cons, List.foldl_cons, ih]
      have hkind : kind.sectionName ∉ proseNames := by cases kind <;> decide
      have hone : (cleanBlock kind b).bare = cleanBlock kind b.bare := by
        have hlocals : bareFields (Table.modify kind.sectionName cleanSection b.locals) =
            Table.modify kind.sectionName cleanSection (bareFields b.locals) := by
          refine bareFields_modify (fun v => ?_) b.locals
          rw [bareAt_of_not_mem hkind, bareAt_of_not_mem hkind, bare_cleanSection]
        unfold cleanBlock BlockRecord.bare
        rw [hlocals]
      rw [hone]

/-- Endpoint blocks are recognised by what is bare. -/
theorem isEndpoint_bare (b : BlockRecord) : isEndpoint b.bare = isEndpoint b := by
  show ((bareFields b.globals).isEmpty && !(bareFields b.locals).isEmpty) = isEndpoint b
  rw [isEmpty_bareFields, isEmpty_bareFields]
  rfl

end Filter

end ApiGloss

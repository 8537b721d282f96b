import ApiGloss.Proofs.EndpointBlocks
import ApiGloss.Proofs.Shapes

/-!
# Every Endpoint Record Can Be Read

The tags write endpoint records, the clean-ups and the resolvers rewrite them, and the document is
made of them at the end. All of them agree on the shape of a record (`Endpoint.partShape`), as
long as no group of fields has a dot in its name: such a group would be a level of its own. Under
this condition there is always room for the values of a tag, so that no element is refused for
want of a place, and every resolved record can be read, so that a document is made whenever the
endpoint records are.

## Main results

* `Registry.holds_readElement`: one element finds its place and keeps the shape of the record.
* `Resolve.resolvingKeeps_entriesFit`: resolving keeps the shape of records.
* `Pipeline.records_are_readable`: nothing is misplaced, and all resolved records can be read.
-/

namespace ApiGloss

open Json Record Shape

/-! ### Rendered values -/

namespace Record

/-- Rendering a value keeps every shape. -/
theorem fits_renderValue (renderer : Renderer) (strip : Bool) (s : Shape) (v : Json)
    (h : s.Fits v) : s.Fits (renderValue renderer strip v) := by
  cases v with
  | str text =>
      cases s with
      | any => trivial
      | text => exact ⟨_, rfl⟩
      | truth =>
          obtain ⟨_, h⟩ := h
          cases h
      | list item =>
          obtain ⟨_, h, -⟩ := h
          cases h
      | table entry =>
          obtain ⟨_, h, -⟩ := h
          cases h
  | _ => exact h

/-- Rendering the values of a tag keeps their shapes. -/
theorem entriesFit_renderFields {entry : String → Shape} (renderer : Renderer)
    (reader : TagReader) {values : Table Json} (h : EntriesFit entry values) :
    EntriesFit entry (renderFields renderer reader values) := by
  unfold renderFields
  induction reader.markdown generalizing values with
  | nil => exact h
  | cons field rest ih => exact ih (h.modifyAt (fits_renderValue _ _) _)

end Record

namespace Registry

variable {r : Registry}

/-- Values keep their shapes when they are rendered. -/
theorem entriesFit_rendered {entry : String → Shape} (reader : TagReader) {values : Table Json}
    (h : EntriesFit entry values) : EntriesFit entry (r.rendered reader values) := by
  unfold rendered
  split
  · exact entriesFit_renderFields _ reader h
  · exact h

/-! ### Places in endpoint records -/

/-- Single values have the shapes for their names. -/
theorem fits_of_singleValue {key : String} {value : Json} (h : Tag.SingleValue key value) :
    (Endpoint.partShape key).Fits value := by
  rcases h with ⟨hkey, s, rfl⟩ | hkey
  · rw [Endpoint.partShape, if_pos hkey]
    exact ⟨s, rfl⟩
  · have hshape : ∀ key ∈ Tag.endpointMarks, Endpoint.partShape key = .any :=
      List.forall_mem_cons.mpr ⟨rfl, List.forall_mem_singleton.mpr rfl⟩
    rw [hshape key hkey]
    trivial

/-- Where items are attached, there is an array. -/
theorem at?_itemPlace {place : List String} (h : place ∈ Tag.itemPlaces) :
    (Shape.table Endpoint.partShape).at? place = some (.list .any) := by
  revert place
  simp only [Tag.itemPlaces, FieldKind.all, List.map_cons, List.map_nil, List.cons_append,
    List.nil_append, List.forall_mem_cons]
  exact ⟨rfl, rfl, rfl, rfl, rfl, rfl, rfl, rfl, rfl, fun _ h => absurd h List.not_mem_nil⟩

/-- Groups of fields are arrays of declarations. -/
theorem at?_group (kind : FieldKind) (group : String) :
    (Shape.table Endpoint.partShape).at? [kind.sectionName, "fields", group] =
      some (.list (.table FieldDecl.partShape)) := by
  cases kind <;> rfl

/-! ### Reading elements -/

/-- A cause **other than a misplaced value**: there is a path, and there is room at its end. -/
def Placed (cause : ElementCause) : Prop :=
  cause ≠ .noPath ∧ ∀ path, cause ≠ .misplaced path

/-- What comes of an element **holds the shape** of endpoint records: the record has it if the
element is read, and the element is not refused for want of a place. -/
structure HoldsShape (outcome : Except ElementCause BlockState) : Prop where
  of_ok : ∀ st, outcome = .ok st → EntriesFit Endpoint.partShape st.record.locals
  of_error : ∀ cause, outcome = .error cause → Placed cause

/-- A record of the shape holds it. -/
theorem holds_ok {st : BlockState} (h : EntriesFit Endpoint.partShape st.record.locals) :
    HoldsShape (.ok st) := by
  refine ⟨?_, nofun⟩
  rintro _ ⟨⟩
  exact h

/-- A cause other than a misplaced value holds the shape. -/
theorem holds_error {cause : ElementCause} (h : Placed cause) : HoldsShape (.error cause) := by
  refine ⟨nofun, ?_⟩
  rintro _ ⟨⟩
  exact h

/-- A check of the place complains of definitions and references only. -/
theorem placed_of_checkPlace {reader : TagReader} {path : String} {st : BlockState}
    {cause : ElementCause} (h : checkPlace reader path st = .error cause) : Placed cause := by
  have hcases : cause = .definitionOrUsage ∨ cause = .secondDefinition := by
    unfold checkPlace at h
    split at h
    · cases h
      exact Or.inl rfl
    · split at h
      · split at h
        · cases h
        · split at h
          · cases h
            exact Or.inr rfl
          · split at h
            · cases h
              exact Or.inl rfl
            · cases h
      · cases h
  rcases hcases with rfl | rfl
  · exact ⟨nofun, nofun⟩
  · exact ⟨nofun, nofun⟩

/-- A path that is cut into its names is not empty. -/
theorem path_ne_empty {path name : String} {rest : List String}
    (h : Text.split '.' path = name :: rest) (hname : name ≠ "") : path ≠ "" := by
  rintro rfl
  have hempty : Text.split '.' "" = [""] := by decide
  rw [hempty] at h
  exact hname (List.cons.inj h).1.symm

/-- An element holds the shape if there is a path for its values, they can be attached at its end,
and the shape is kept. -/
theorem holds_of_attachAt {reader : TagReader} {index : Nat} {e : Element} {st : BlockState}
    (hattach : ∀ values context,
      reader.read (Text.trim e.content) st.context = .ok (some values, context) →
      reader.path context ≠ "" ∧
        ∀ st₁, checkPlace reader (reader.path context) { st with context := context } = .ok st₁ →
          ∃ b, attachAt reader.method (r.rendered reader values) (reader.path context)
              (atRoot reader (r.rendered reader values) st.record) = some b ∧
            EntriesFit Endpoint.partShape b.locals) :
    HoldsShape (r.readElement reader index e st) := by
  rw [readElement_eq]
  split
  · exact holds_error ⟨nofun, nofun⟩
  · exact holds_error ⟨nofun, nofun⟩
  · rename_i values context hread
    obtain ⟨hpath, hattach⟩ := hattach values context hread
    rw [if_neg hpath]
    unfold placeValues
    cases hcheck : checkPlace reader (reader.path context) { st with context := context } with
    | error cause => exact holds_error (placed_of_checkPlace hcheck)
    | ok st₁ =>
        obtain ⟨b, hb, hfits⟩ := hattach st₁ hcheck
        dsimp only
        rw [checkPlace_record hcheck, hb]
        exact holds_ok hfits

/-- An item holds the shape if there is an array for it. -/
theorem holds_of_item {reader : TagReader} {index : Nat} {e : Element} {st : BlockState}
    (hst : EntriesFit Endpoint.partShape st.record.locals) (hmethod : reader.method = .push)
    (hitem : ∀ values context,
      reader.read (Text.trim e.content) st.context = .ok (some values, context) →
        ∃ place item, Text.split '.' (reader.path context) = "local" :: place ∧
          (Shape.table Endpoint.partShape).at? place = some (.list item) ∧
          item.Fits (.obj (r.rendered reader values))) :
    HoldsShape (r.readElement reader index e st) := by
  refine holds_of_attachAt fun values context hread => ?_
  obtain ⟨place, item, hpath, hplace, hvalues⟩ := hitem values context hread
  refine ⟨path_ne_empty hpath (by decide), fun st₁ _ => ?_⟩
  obtain ⟨t, ht, hfits⟩ := EntriesFit.exists_attach hplace hst hvalues
  rw [attachAt_local hpath, hmethod, locals_atRoot, ht]
  exact ⟨_, rfl, hfits⟩

/-- The path of a definition leads into the definitions of the block. -/
theorem isGlobalPath_definition (kind : Tag.DefineKind) (context : ReadContext) :
    isGlobalPath ((Tag.definition kind).path context) = true := by
  show isGlobalPath ("global." ++ kind.target) = true
  cases kind <;> decide

/-- A definition is attached only where there is none, so that there is room for it. -/
theorem globals_of_checkPlace_definition {kind : Tag.DefineKind} {context : ReadContext}
    {st st₁ : BlockState}
    (h : checkPlace (Tag.definition kind) ((Tag.definition kind).path context) st = .ok st₁) :
    st.record.globals = [] := by
  have hnever : ¬ ((Tag.definition kind).preventGlobal = true ∧
      st.extraDefinitions < st.record.globals.length) := fun hprevent => nomatch hprevent.1
  have hsingle : ¬ (Tag.definition kind).allowMultiple = true := nofun
  unfold checkPlace at h
  rw [if_neg hnever, if_pos (isGlobalPath_definition kind context), if_neg hsingle] at h
  split at h
  · cases h
  · rename_i hempty
    simpa using hempty

/-- **One element** finds its place and keeps the shape of the record, unless it declares a field
in a group with a dot. -/
theorem holds_readElement {reader : TagReader} (hplace : Tag.Place reader) {index : Nat}
    {e : Element} {st : BlockState} (hst : EntriesFit Endpoint.partShape st.record.locals)
    (hgroup : ∀ kind d, reader = Tag.field kind →
      FieldDecl.parse? (Text.trim e.content) kind.defaultGroup = some d → '.' ∉ d.group.toList) :
    HoldsShape (r.readElement reader index e st) := by
  cases hplace with
  | field kind =>
      refine holds_of_item hst rfl fun values context hread => ?_
      unfold Tag.field at hread
      dsimp only at hread
      split at hread
      · rename_i d hd
        cases hread
        refine ⟨[kind.sectionName, "fields", d.group], _, ?_, at?_group kind d.group, ?_⟩
        · rw [Tag.split_path_field, Text.split_of_not_mem (hgroup kind d rfl hd)]
        · exact fits_obj.mpr (entriesFit_rendered _ d.entriesFit_toFields)
      · cases hread
  | item place hmem hmethod _ _ hpath =>
      refine holds_of_item hst hmethod fun values context _ => ?_
      exact ⟨place, .any, hpath context, at?_itemPlace hmem, trivial⟩
  | entries hmethod _ _ hpath hvalues =>
      refine holds_of_attachAt fun values context hread => ?_
      refine ⟨path_ne_empty (hpath context) (by decide), fun st₁ _ => ?_⟩
      rw [attachAt_local (hpath context), hmethod, locals_atRoot]
      have hfits : EntriesFit Endpoint.partShape values :=
        fun e he => fits_of_singleValue ((hvalues _ _ _ _ hread).2 e he)
      exact ⟨_, rfl, hst.extend (entriesFit_rendered reader hfits)⟩
  | definition kind =>
      refine @holds_of_attachAt r (Tag.definition kind) index e st ?_
      intro values context _
      have hpath := Tag.split_path_definition kind context
      refine ⟨path_ne_empty hpath (by decide), fun st₁ hcheck => ?_⟩
      have hempty := globals_of_checkPlace_definition hcheck
      rw [attachAt_global hpath, globals_atRoot, show st.record.globals = [] from hempty]
      exact ⟨_, rfl, by rwa [locals_atRoot]⟩

/-! ### Reading blocks -/

/-- The fields that elements declare are in **groups without dots**. -/
def PlainGroups (elements : List Element) : Prop :=
  ∀ e ∈ elements, ∀ kind : FieldKind, e.name = Text.lower kind.tag → ∀ d,
    FieldDecl.parse? (Text.trim e.content) kind.defaultGroup = some d → '.' ∉ d.group.toList

instance (elements : List Element) : Decidable (PlainGroups elements) :=
  decidable_of_iff
    (∀ e ∈ elements, ∀ kind ∈ FieldKind.all, e.name = Text.lower kind.tag →
      (FieldDecl.parse? (Text.trim e.content) kind.defaultGroup).all
        (fun d => !d.group.toList.contains '.') = true) <| by
    have hkinds : ∀ kind : FieldKind, kind ∈ FieldKind.all := fun kind => by cases kind <;> decide
    simp only [PlainGroups, hkinds, true_implies, Option.all_eq_true, Bool.not_eq_true',
      List.contains_eq_mem, decide_eq_false_iff_not]

/-- The tag of the elements that declare the fields of a section. -/
theorem name_of_get?_field {name : String} {kind : FieldKind}
    (h : Table.get? name Tag.builtin = some (Tag.field kind)) : name = Text.lower kind.tag := by
  have hall : ∀ kind, kind ∈ FieldKind.all → ∀ e ∈ Tag.builtin,
      e.2.path { currentGroup := some "" } =
        (Tag.field kind).path { currentGroup := some "" } → e.1 = Text.lower kind.tag := by
    decide +kernel
  have hkind : kind ∈ FieldKind.all := by
    cases kind <;> decide
  exact hall kind hkind _ (Table.mem_of_get? h) rfl

/-- A known tag with a group without dots, or of another kind, holds the shape. -/
theorem holds_readElement_builtin {reader : TagReader} {e : Element}
    (hreader : Table.get? e.name Tag.builtin = some reader) (hplain : PlainGroups [e])
    {st : BlockState} (hst : EntriesFit Endpoint.partShape st.record.locals) (index : Nat) :
    HoldsShape (r.readElement reader index e st) := by
  refine holds_readElement (Tag.place_builtin hreader) hst fun kind d hfield hd => ?_
  subst hfield
  exact hplain e List.mem_cons_self kind (name_of_get?_field hreader) d hd

/-- One element in a group without dots, or of another tag, keeps the shape of the record, or is
refused but not misplaced. -/
theorem holds_elementOutcome (hreaders : r.readers = Tag.builtin) (file : String) (index : Nat)
    {e : Element} (hplain : PlainGroups [e]) {st : BlockState}
    (hst : EntriesFit Endpoint.partShape st.record.locals) :
    (∃ st₁, r.elementOutcome file index st e = .ok st₁ ∧
        EntriesFit Endpoint.partShape st₁.record.locals) ∨
      ∃ cause, r.elementOutcome file index st e =
        .error (.element cause file (index + 1) e.sourceName e.source) ∧ Placed cause := by
  unfold elementOutcome
  cases hreader : Table.get? e.name r.readers with
  | none => exact Or.inl ⟨st, rfl, hst⟩
  | some reader =>
      rw [hreaders] at hreader
      have hshape := holds_readElement_builtin (r := r) hreader hplain hst index
      cases hread : r.readElement reader index e st with
      | ok st₁ => exact Or.inl ⟨st₁, by simp only [hread], hshape.of_ok st₁ hread⟩
      | error cause => exact Or.inr ⟨cause, by simp only [hread], hshape.of_error cause hread⟩

/-- **A run over elements** with groups without dots keeps the shape of the record, or stops at an
element that is refused but not misplaced. -/
theorem holds_foldlM (hreaders : r.readers = Tag.builtin) (file : String) (index : Nat)
    {elements : List Element} (hplain : PlainGroups elements) {st : BlockState}
    (hst : EntriesFit Endpoint.partShape st.record.locals) :
    (∃ st', elements.foldlM (r.elementOutcome file index) st = .ok st' ∧
        EntriesFit Endpoint.partShape st'.record.locals) ∨
      ∃ cause, ∃ e ∈ elements, elements.foldlM (r.elementOutcome file index) st =
        .error (.element cause file (index + 1) e.sourceName e.source) ∧ Placed cause := by
  induction elements generalizing st with
  | nil => exact Or.inl ⟨st, rfl, hst⟩
  | cons e rest ih =>
      have hhead : PlainGroups [e] :=
        List.forall_mem_singleton.mpr (hplain e List.mem_cons_self)
      have hrest : PlainGroups rest := fun e' he' => hplain e' (List.mem_cons_of_mem _ he')
      rw [List.foldlM_cons]
      rcases holds_elementOutcome hreaders file index hhead hst with
        ⟨st₁, hst₁, hfits⟩ | ⟨cause, hcause, hplaced⟩
      · rw [hst₁]
        rcases ih hrest hfits with hok | ⟨cause, e', he', herror⟩
        · exact Or.inl hok
        · exact Or.inr ⟨cause, e', List.mem_cons_of_mem _ he', herror⟩
      · rw [hcause]
        exact Or.inr ⟨cause, e, List.mem_cons_self, rfl, hplaced⟩

/-- **A block with groups without dots** is read into a record of the shape, or one of its
elements is refused but not misplaced. -/
theorem holds_blockOutcome (hreaders : r.readers = Tag.builtin) (file : String) (index : Nat)
    {elements : List Element} (hplain : PlainGroups elements) :
    (∃ b, r.blockOutcome file index elements = .ok b ∧
        EntriesFit Endpoint.partShape b.locals) ∨
      ∃ cause, ∃ e ∈ elements, r.blockOutcome file index elements =
        .error (.element cause file (index + 1) e.sourceName e.source) ∧ Placed cause := by
  have hempty : EntriesFit Endpoint.partShape ({} : BlockState).record.locals := EntriesFit.nil
  unfold blockOutcome
  rcases holds_foldlM hreaders file index hplain hempty with
    ⟨st, hst, hfits⟩ | ⟨cause, e, he, herror, hplaced⟩
  · rw [hst]
    exact Or.inl ⟨st.record, rfl, hfits⟩
  · rw [herror]
    exact Or.inr ⟨cause, e, he, rfl, hplaced⟩

end Registry

/-! ### Clean-ups -/

/-- Sections have the shape of sections. -/
theorem Endpoint.partShape_sectionName (kind : FieldKind) :
    partShape kind.sectionName = .table FieldSection.partShape := by
  cases kind <;> rfl

namespace Filter

/-- Dropping repeated declarations keeps the shape of an array. -/
theorem fits_dropRepeated {item : Shape} {j : Json} (h : (Shape.list item).Fits j) :
    (Shape.list item).Fits (dropRepeated j) := by
  obtain ⟨items, rfl, hitems⟩ := h
  exact fits_arr.mpr fun i hi => hitems i (mem_of_mem_firstOfEach hi)

/-- Cleaning a section keeps its shape. -/
theorem fits_cleanSection {j : Json} (h : (Shape.table FieldSection.partShape).Fits j) :
    (Shape.table FieldSection.partShape).Fits (cleanSection j) := by
  obtain ⟨part, rfl, hpart⟩ := h
  refine fits_obj.mpr (EntriesFit.modify hpart fun v hv => ?_)
  obtain ⟨groups, rfl, hgroups⟩ := hv
  refine fits_obj.mpr fun e he => ?_
  obtain ⟨e', he', rfl⟩ := List.mem_map.mp he
  exact fits_dropRepeated (hgroups e' he')

/-- **Clean-ups keep the shape** of records. -/
theorem entriesFit_cleanAll {b : BlockRecord} (h : EntriesFit Endpoint.partShape b.locals) :
    EntriesFit Endpoint.partShape (cleanAll b).locals := by
  unfold cleanAll
  induction FieldKind.all generalizing b with
  | nil => exact h
  | cons kind rest ih =>
      refine ih (EntriesFit.modify h fun v hv => ?_)
      rw [Endpoint.partShape_sectionName] at hv ⊢
      exact fits_cleanSection hv

end Filter

/-! ### Resolvers -/

namespace Resolve

/-- The declarations of all groups have the shape of declarations. -/
theorem fits_of_mem_groupedItems {item : Shape} {fields : Table Json}
    (h : EntriesFit (fun _ => .list item) fields) {e : String × Json}
    (he : e ∈ groupedItems fields) : item.Fits e.2 := by
  obtain ⟨⟨key, j⟩, hmem, he⟩ := List.mem_flatMap.mp he
  obtain ⟨i, hi, rfl⟩ := List.mem_map.mp he
  obtain ⟨items, hj, hitems⟩ := h _ hmem
  cases hj
  exact hitems i hi

/-- Regrouping keeps the shape of groups. -/
theorem entriesFit_regroup {item : Shape} {fields groups titles : Table Json} {t : DefinitionTable}
    {version defaultVersion : String} (h : EntriesFit (fun _ => .list item) fields)
    (hregroup : regroup t version defaultVersion (groupedItems fields) ([], []) =
      .ok (groups, titles)) : EntriesFit (fun _ => .list item) groups := by
  rw [groups_of_regroup hregroup]
  refine entries_foldl_addToGroup (R := fun _ v => (Shape.list item).Fits v)
    (fun e he others hothers => ?_) nofun nofun
  refine fits_arr.mpr (List.forall_mem_append.mpr
    ⟨?_, List.forall_mem_singleton.mpr (fits_of_mem_groupedItems h he)⟩)
  rcases hothers with rfl | hothers
  · exact nofun
  · exact fits_arr.mp hothers

/-- What resolvers store has the shape for its name. -/
theorem fits_stored {key : String} {value : Json} (hkey : key ∈ storedNames)
    (hvalue : key ∈ storedTexts → ∃ s, value = .str s) :
    (Endpoint.partShape key).Fits value := by
  have hother : ∀ key ∈ ["groupTitle", "groupDescription"], Endpoint.partShape key = .any :=
    List.forall_mem_cons.mpr ⟨rfl, List.forall_mem_singleton.mpr rfl⟩
  have hsplit : ∀ key ∈ storedNames, key ∈ storedTexts ∨ key ∈ ["groupTitle", "groupDescription"] :=
    by decide
  have htexts : ∀ key ∈ storedTexts, key ∈ Tag.endpointTexts := by decide
  rcases hsplit key hkey with htext | hany
  · rw [Endpoint.partShape, if_pos (htexts key htext)]
    exact hvalue htext
  · rw [hother key hany]
    trivial

/-- **Resolving keeps the shape** of records. -/
theorem resolvingKeeps_entriesFit :
    ResolvingKeeps (EntriesFit Endpoint.partShape) (EntriesFit Endpoint.partShape) where
  merge _ _ ht hs := ht.mergeInto hs
  erase kind _ _ ht := ht.swapErase kind.target
  store _ hkey _ hvalue _ ht := ht.insert (fits_stored hkey hvalue)
  regroup kind t part fields groups titles table version dv ht hpart hfields hregroup := by
    have hsection : EntriesFit FieldSection.partShape part := by
      have hfits := ht.get? hpart
      rw [Endpoint.partShape_sectionName] at hfits
      exact fits_obj.mp hfits
    have hgroups := entriesFit_regroup (fits_obj.mp (hsection.get? hfields)) hregroup
    have hfields' : (FieldSection.partShape "fields").Fits (.obj groups) := fits_obj.mpr hgroups
    have htitles : (FieldSection.partShape "groupTitles").Fits (.obj titles) := trivial
    refine ht.insert ?_
    rw [Endpoint.partShape_sectionName]
    exact fits_obj.mpr ((hsection.insert hfields').insert htitles)

end Resolve

/-! ### Documents -/

namespace Document

/-- Records that can be read are built into a document. -/
theorem exists_buildOutcome {info : Info} {records : List Json}
    (h : ∀ record ∈ records, ∃ e, Endpoint.ofJson? record = some e) :
    ∃ d, buildOutcome info records = .ok d := by
  unfold buildOutcome
  generalize ({ info } : Document) = d
  induction records generalizing d with
  | nil => exact ⟨d, rfl⟩
  | cons record rest ih =>
      obtain ⟨⟨e, he⟩, hrest⟩ := List.forall_mem_cons.mp h
      obtain ⟨final, hfinal⟩ := ih hrest (d.addEndpoint e).1
      refine ⟨final, ?_⟩
      have hone : d.recordOutcome record = .ok (d.addEndpoint e).1 := by
        rw [recordOutcome, he]
      rw [List.foldlM_cons, hone]
      exact hfinal

end Document

namespace Pipeline

open Registry Resolve

variable {registry : Registry} {units : List SourceUnit}

/-- All blocks that are read have the shape of records after the clean-ups. -/
theorem entriesFit_cleaned (hreaders : registry.readers = Tag.builtin)
    (hplain : ∀ u ∈ units, ∀ block ∈ registry.documentation u, PlainGroups block.1) :
    ∀ b ∈ allBlocks ((units.filterMap registry.file?).map (mapFile fun _ => Filter.cleanAll)),
      EntriesFit Endpoint.partShape b.locals := by
  rw [allBlocks_mapFile]
  intro b hb
  obtain ⟨file, hfile, hb⟩ := List.mem_flatMap.mp hb
  obtain ⟨c, hc, rfl⟩ := List.mem_map.mp hb
  obtain ⟨u, hu, hufile⟩ := List.mem_filterMap.mp hfile
  obtain ⟨block, hblock, hread⟩ := exists_blockOutcome_of_mem hufile hc
  refine Filter.entriesFit_cleanAll ?_
  rcases holds_blockOutcome hreaders u.path block.2 (hplain u hu block hblock) with
    ⟨c', hc', hfits⟩ | ⟨cause, e, -, herror, -⟩
  · obtain rfl : c' = c := Except.ok.inj (hc'.symm.trans hread)
    exact hfits
  · rw [herror] at hread
    cases hread

/-- **All resolved records can be read** if no group of fields has a dot in its name. -/
theorem exists_ofJson?_of_endpointsOutcome (hreaders : registry.readers = Tag.builtin)
    {workDir defaultVersion : String}
    (hplain : ∀ u ∈ units, ∀ block ∈ registry.documentation u, PlainGroups block.1)
    {records : List Json}
    (h : (withBuiltins registry workDir defaultVersion).endpointsOutcome units = .ok records) :
    ∀ record ∈ records, ∃ e, Endpoint.ofJson? record = some e := by
  obtain ⟨-, resolved, hprocess, rfl⟩ := endpointsOutcome_eq_ok_iff.mp h
  obtain ⟨change, hchange⟩ := exists_change_of_process hprocess
  have hresolved := hchange.forall_allBlocks resolvingKeeps_entriesFit
    (entriesFit_cleaned hreaders hplain)
  intro record hrecord
  obtain ⟨⟨i, k⟩, -, hrecord⟩ := List.mem_filterMap.mp hrecord
  obtain ⟨b, hb, rfl⟩ := Option.map_eq_some_iff.mp hrecord
  obtain ⟨file, hfile, hblock⟩ := Option.bind_eq_some_iff.mp hb
  refine Endpoint.exists_ofJson? (hresolved b (List.mem_flatMap.mpr ⟨file, ?_, ?_⟩))
  · exact List.mem_of_getElem? hfile
  · exact List.mem_of_getElem? hblock

/-- **What is written can be read.** If no field is declared in a group with a dot, then no element
of a documentation block is refused for want of a path or of room at its end, every resolved
endpoint record can be read, and a document is made exactly if there are endpoint records. -/
theorem records_are_readable (hreaders : registry.readers = Tag.builtin)
    (workDir defaultVersion : String) (package : Package)
    (hplain : ∀ u ∈ units, ∀ block ∈ registry.documentation u, PlainGroups block.1)
    (j : Journal) :
    (∀ u ∈ units, ∀ block ∈ registry.documentation u, ∀ failure,
      ((registry.parseBlock u.path block.2 block.1).outcome j).1 = .error failure →
        ∃ cause tag source, failure = .element cause u.path (block.2 + 1) tag source ∧
          cause ≠ .noPath ∧ ∀ path, cause ≠ .misplaced path) ∧
    (∀ records,
      (((withBuiltins registry workDir defaultVersion).endpoints units).outcome j).1 =
        .ok records → ∀ record ∈ records, ∃ e, Endpoint.ofJson? record = some e) ∧
    ((∃ d, (((withBuiltins registry workDir defaultVersion).generate units package).outcome j).1 =
        .ok d) ↔
      ∃ records, (((withBuiltins registry workDir defaultVersion).endpoints units).outcome j).1 =
        .ok records) := by
  refine ⟨fun u hu block hblock failure hfailure => ?_, fun records hrecords => ?_, ?_⟩
  · rw [registry.parseBlock_yields] at hfailure
    rcases holds_blockOutcome hreaders u.path block.2 (hplain u hu block hblock) with
      ⟨b, hb, -⟩ | ⟨cause, e, -, herror, hplaced⟩
    · rw [hb] at hfailure
      cases hfailure
    · rw [herror] at hfailure
      cases hfailure
      exact ⟨cause, e.sourceName, e.source, rfl, hplaced⟩
  · rw [endpoints_yields] at hrecords
    exact exists_ofJson?_of_endpointsOutcome hreaders hplain hrecords
  · rw [generate_yields, endpoints_yields]
    constructor
    · rintro ⟨d, hd⟩
      obtain ⟨records, hrecords, -⟩ := Run.bind_eq_ok_iff.mp hd
      exact ⟨records, hrecords⟩
    · rintro ⟨records, hrecords⟩
      obtain ⟨d, hd⟩ := Document.exists_buildOutcome
        (exists_ofJson?_of_endpointsOutcome hreaders hplain hrecords)
      exact ⟨d, Run.bind_eq_ok_iff.mpr ⟨records, hrecords, hd⟩⟩

/-- An endpoint with fields in two groups. -/
def groupedUnits : List SourceUnit :=
  [⟨"a.js", "/** @api {put} /a\n @apiParam (g) {N{1-9}} x\n @apiHeader y */", "js"⟩]

/-- The endpoint with fields in two groups has a document. -/
theorem records_are_readable_grouped :
    (∀ u ∈ groupedUnits, ∀ block ∈ Registry.documentation {} u, PlainGroups block.1) ∧
      ∃ d, (((withBuiltins {} "/" "0.0.0").generate groupedUnits {}).outcome {}).1 = .ok d := by
  have hplain : ∀ u ∈ groupedUnits, ∀ block ∈ Registry.documentation {} u,
      PlainGroups block.1 := by decide +kernel
  have hsome : (((withBuiltins {} "/" "0.0.0").endpoints groupedUnits).outcome {}).1.toOption.isSome
      = true := by decide +kernel
  refine ⟨hplain, (records_are_readable rfl "/" "0.0.0" {} hplain {}).2.2.mpr ?_⟩
  cases hrun : (((withBuiltins {} "/" "0.0.0").endpoints groupedUnits).outcome {}).1 with
  | error e =>
      rw [hrun] at hsome
      cases hsome
  | ok records => exact ⟨records, rfl⟩

end Pipeline

end ApiGloss

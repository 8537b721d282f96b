import ApiGloss.Proofs.FieldGroups

/-!
# Which Blocks Are Endpoints

Whether a block becomes an endpoint is decided three times: by the tags of the block before it is
read, by its position number when it has been read, and by what it defines when it is selected.
All three come down to the tags. Every known tag marks its block as known; a tag of a definition
leaves something among the definitions of the block and nothing in its endpoint record, and every
other known tag does the opposite. So the endpoint blocks are those that are documentation, hold
a known tag and no definition (`Registry.Eligible`).

Clean-ups and resolvers keep every block in its place, so that the records of a run are the final
records of these blocks, in order.

## Main results

* `Registry.tells_of_blockOutcome`: what a block holds when it has been read, by its tags.
* `Pipeline.endpoints_are_eligible`: the records of a run and the eligible blocks correspond.
-/

namespace ApiGloss

open Json Record

/-! ### What attaching leaves behind -/

namespace Table

variable {α : Type}

/-- A table with a stored entry is not empty. -/
theorem insert_ne_nil (key : String) (value : α) (t : Table α) : insert key value t ≠ [] := by
  cases t with
  | nil => exact List.cons_ne_nil _ _
  | cons e rest =>
      rw [insert]
      split <;> exact List.cons_ne_nil _ _

/-- Storing entries makes no table empty. -/
theorem extend_ne_nil {t : Table α} (more : Table α) (h : t ≠ []) : extend t more ≠ [] := by
  unfold extend
  induction more generalizing t with
  | nil => exact h
  | cons e rest ih => exact ih (insert_ne_nil e.1 e.2 t)

end Table

/-- **Attaching leaves something behind**: an item, or the entries if there are any. -/
theorem Record.attach_ne_nil {method : AttachMethod} {values : Table Json} {place : List String}
    {t t' : Table Json} (h : attach method values place t = some t')
    (hvalues : place = [] → values ≠ []) : t' ≠ [] := by
  match place with
  | [] =>
      cases method with
      | push => cases h
      | insert =>
          obtain ⟨e, rest, rfl⟩ := List.exists_cons_of_ne_nil (hvalues rfl)
          cases h
          exact Table.extend_ne_nil rest (Table.insert_ne_nil e.1 e.2 t)
  | [last] =>
      obtain ⟨slot, -, rfl⟩ := Option.map_eq_some_iff.mp h
      exact Table.insert_ne_nil last slot t
  | head :: next :: rest =>
      rw [attach] at h
      · split at h
        · obtain ⟨child, -, rfl⟩ := Option.map_eq_some_iff.mp h
          exact Table.insert_ne_nil head (.obj child) t
        · cases h
      · exact List.cons_ne_nil _ _

/-! ### The tags of definitions -/

namespace Tag

/-- The **tags of definitions**, in lower case. -/
def definitionTags : List String :=
  [DefineKind.define, .errorStructure, .headerStructure, .successStructure].map fun kind =>
    Text.lower kind.tag

/-- Whether a reader attaches its values to the definitions of a block. -/
def Defines (reader : TagReader) : Prop :=
  (Text.split '.' (reader.path { currentGroup := some "" })).head? = some "global"

/-- The tags of definitions are those that are read into definitions. -/
theorem mem_definitionTags_iff {name : String} {reader : TagReader}
    (h : Table.get? name builtin = some reader) : name ∈ definitionTags ↔ Defines reader := by
  have hall : ∀ e ∈ builtin, e.1 ∈ definitionTags ↔
      (Text.split '.' (e.2.path { currentGroup := some "" })).head? = some "global" := by
    decide +kernel
  exact hall _ (Table.mem_of_get? h)

/-- All tags of definitions are known. -/
theorem contains_of_mem_definitionTags {name : String} (h : name ∈ definitionTags) :
    Table.contains name builtin = true := by
  have hall : ∀ name ∈ definitionTags, Table.contains name builtin = true := by
    decide +kernel
  exact hall name h

end Tag

namespace Registry

variable {r : Registry}

/-! ### One element -/

/-- Values attached to the endpoint record leave the definitions alone. -/
theorem attachAt_local_cases {method : AttachMethod} {values : Table Json} {path : String}
    {place : List String} {b b' : BlockRecord} (hpath : Text.split '.' path = "local" :: place)
    (h : attachAt method values path b = some b') :
    b'.globals = b.globals ∧ attach method values place b.locals = some b'.locals := by
  rw [attachAt_local hpath] at h
  obtain ⟨t, ht, rfl⟩ := Option.map_eq_some_iff.mp h
  exact ⟨rfl, ht⟩

/-- Values attached to the definitions leave the endpoint record alone. -/
theorem attachAt_global_cases {method : AttachMethod} {values : Table Json} {path : String}
    {place : List String} {b b' : BlockRecord} (hpath : Text.split '.' path = "global" :: place)
    (h : attachAt method values path b = some b') :
    b'.locals = b.locals ∧ attach method values place b.globals = some b'.globals := by
  rw [attachAt_global hpath] at h
  obtain ⟨t, ht, rfl⟩ := Option.map_eq_some_iff.mp h
  exact ⟨rfl, ht⟩

/-- Rendering leaves as many values as there were. -/
theorem rendered_ne_nil (reader : TagReader) {values : Table Json} (h : values ≠ []) :
    r.rendered reader values ≠ [] := by
  intro hempty
  have hkeys := r.keys_rendered reader values
  rw [hempty] at hkeys
  exact h (List.map_eq_nil_iff.mp hkeys.symm)

/-- The record of a block **shows a known tag**: its position is known, and the tag has left
something among the definitions or in the endpoint record, but not in both. -/
structure Shows (defines : Prop) (before after : BlockRecord) : Prop where
  index_ne : after.index ≠ 0
  of_defines : defines → after.globals ≠ [] ∧ after.locals = before.locals
  of_not_defines : ¬ defines → after.globals = before.globals ∧ after.locals ≠ []

/-- Values that are attached to the endpoint record show there. -/
theorem shows_of_local {reader : TagReader} {index : Nat} {e : Element} {st st' : BlockState}
    (hdefines : ¬ Tag.Defines reader)
    (hread : ∀ values context,
      reader.read (Text.trim e.content) st.context = .ok (some values, context) →
        ∃ place, Text.split '.' (reader.path context) = "local" :: place ∧
          (place = [] → values ≠ []))
    (h : r.readElement reader index e st = .ok st') :
    Shows (Tag.Defines reader) st.record st'.record := by
  obtain ⟨values, context, st₁, b, hvalues, -, hattach, rfl⟩ := exists_of_readElement h
  obtain ⟨place, hpath, hne⟩ := hread values context hvalues
  obtain ⟨hglobals, hlocals⟩ := attachAt_local_cases hpath hattach
  rw [globals_atRoot] at hglobals
  have hafter : b.locals ≠ [] :=
    attach_ne_nil hlocals fun hplace => rendered_ne_nil reader (hne hplace)
  exact ⟨Nat.succ_ne_zero index, fun hdef => absurd hdef hdefines, fun _ => ⟨hglobals, hafter⟩⟩

/-- A reader whose paths all lead into the endpoint record defines nothing. -/
theorem not_defines_of_path {reader : TagReader} {place : List String}
    (hpath : Text.split '.' (reader.path { currentGroup := some "" }) = "local" :: place) :
    ¬ Tag.Defines reader := by
  unfold Tag.Defines
  rw [hpath, List.head?_cons, Option.some.injEq]
  decide

/-- **Every built-in tag shows** in the record of its block. -/
theorem shows_of_readElement {reader : TagReader} (hplace : Tag.Place reader) {index : Nat}
    {e : Element} {st st' : BlockState} (h : r.readElement reader index e st = .ok st') :
    Shows (Tag.Defines reader) st.record st'.record := by
  cases hplace with
  | field kind =>
      refine shows_of_local (not_defines_of_path (Tag.split_path_field kind "")) ?_ h
      intro values context hread
      unfold Tag.field at hread
      dsimp only at hread
      split at hread
      · rename_i d _
        cases hread
        exact ⟨_, Tag.split_path_field kind d.group, fun hnil => (nomatch hnil)⟩
      · cases hread
  | item place hmem _ _ _ hpath =>
      refine shows_of_local (not_defines_of_path (hpath _)) (fun values context _ => ?_) h
      refine ⟨place, hpath context, ?_⟩
      rintro rfl
      exact absurd hmem (by decide)
  | entries _ _ _ hpath hvalues =>
      refine shows_of_local (not_defines_of_path (hpath _)) (fun values context hread => ?_) h
      exact ⟨[], hpath context, fun _ => (hvalues _ _ _ _ hread).1⟩
  | definition kind =>
      obtain ⟨values, context, st₁, b, -, -, hattach, rfl⟩ := exists_of_readElement h
      obtain ⟨hlocals, hglobals⟩ :=
        attachAt_global_cases (Tag.split_path_definition kind context) hattach
      rw [locals_atRoot] at hlocals
      have hafter : b.globals ≠ [] := attach_ne_nil hglobals fun hnil => (nomatch hnil)
      have hdefines : Tag.Defines (Tag.definition kind) := by
        unfold Tag.Defines
        rw [Tag.split_path_definition, List.head?_cons]
      exact ⟨Nat.succ_ne_zero index, fun _ => ⟨hafter, hlocals⟩, fun hnot => absurd hdefines hnot⟩

/-! ### All elements of a block -/

/-- The record of a block **tells** which tags were read: whether there was a known one, one of
a definition, and a known one of something else. -/
structure Tells (r : Registry) (elements : List Element) (b : BlockRecord) : Prop where
  index_ne_iff : b.index ≠ 0 ↔ ∃ e ∈ elements, Table.contains e.name r.readers = true
  globals_ne_iff : b.globals ≠ [] ↔ ∃ e ∈ elements, e.name ∈ Tag.definitionTags
  locals_ne_iff : b.locals ≠ [] ↔
    ∃ e ∈ elements, Table.contains e.name r.readers = true ∧ e.name ∉ Tag.definitionTags

/-- An empty record tells of no tags. -/
theorem tells_nil : Tells r [] {} where
  index_ne_iff := by simp
  globals_ne_iff := by simp
  locals_ne_iff := by simp

/-- **One element** more is told of. -/
theorem Tells.step (hreaders : r.readers = Tag.builtin) {seen : List Element} {file : String}
    {index : Nat} {e : Element} {st st' : BlockState} (hseen : Tells r seen st.record)
    (h : r.elementOutcome file index st e = .ok st') : Tells r (seen ++ [e]) st'.record := by
  obtain ⟨hindex, hglobals, hlocals⟩ := hseen
  cases hreader : Table.get? e.name r.readers with
  | none =>
      -- an unknown tag changes nothing, and no definition has an unknown tag
      have hunknown : Table.contains e.name r.readers = false := by
        rw [Table.contains, hreader, Option.isSome_none]
      have hnot : e.name ∉ Tag.definitionTags := by
        intro hmem
        rw [hreaders, Tag.contains_of_mem_definitionTags hmem] at hunknown
        cases hunknown
      rw [elementOutcome, hreader] at h
      cases h
      constructor
      · simpa [hunknown] using hindex
      · simpa [hnot] using hglobals
      · simpa [hunknown] using hlocals
  | some reader =>
      have hknown : Table.contains e.name r.readers = true := by
        rw [Table.contains, hreader, Option.isSome_some]
      have htag := Tag.mem_definitionTags_iff (hreaders ▸ hreader)
      obtain ⟨hpos, hdef, hend⟩ := shows_of_readElement (Tag.place_builtin (hreaders ▸ hreader))
        (readElement_of_elementOutcome hreader h)
      by_cases hdefines : Tag.Defines reader
      · obtain ⟨hne, heq⟩ := hdef hdefines
        have hmem := htag.mpr hdefines
        constructor
        · simp [hpos, hknown]
        · simp [hne, hmem]
        · simpa [heq, hmem] using hlocals
      · obtain ⟨heq, hne⟩ := hend hdefines
        have hmem : e.name ∉ Tag.definitionTags := fun hmem => hdefines (htag.mp hmem)
        constructor
        · simp [hpos, hknown]
        · simpa [heq, hmem] using hglobals
        · simp [hne, hknown, hmem]

/-- **A run over elements** tells of all of them. -/
theorem Tells.foldlM (hreaders : r.readers = Tag.builtin) {seen elements : List Element}
    {file : String} {index : Nat} {st st' : BlockState} (hseen : Tells r seen st.record)
    (h : elements.foldlM (r.elementOutcome file index) st = .ok st') :
    Tells r (seen ++ elements) st'.record := by
  induction elements generalizing seen st with
  | nil =>
      cases h
      rwa [List.append_nil]
  | cons e rest ih =>
      rw [List.foldlM_cons, Run.bind_eq_ok_iff] at h
      obtain ⟨st₁, hone, h⟩ := h
      have hrest := ih (hseen.step hreaders hone) h
      rwa [List.append_assoc, List.singleton_append] at hrest

/-- **What a block holds** when it has been read tells its tags. -/
theorem tells_of_blockOutcome (hreaders : r.readers = Tag.builtin) {file : String} {index : Nat}
    {elements : List Element} {b : BlockRecord}
    (h : r.blockOutcome file index elements = .ok b) : Tells r elements b := by
  obtain ⟨st, hst, hb⟩ := Run.bind_eq_ok_iff.mp h
  cases hb
  exact tells_nil.foldlM hreaders hst

/-! ### Eligible blocks -/

/-- The elements of a block make it **eligible** as an endpoint. -/
structure Eligible (r : Registry) (elements : List Element) : Prop where
  api : ∃ e ∈ elements, startsWith "api" e.name = true
  not_ignored : ∀ e ∈ elements, startsWith "apiignore" e.name = false
  shown : r.showPrivate = true ∨ ∀ e ∈ elements, startsWith "apiprivate" e.name = false
  known : ∃ e ∈ elements, Table.contains e.name r.readers = true
  no_definition : ∀ e ∈ elements, e.name ∉ Tag.definitionTags

/-- Eligible are the documentation blocks with a known tag and without a definition. -/
theorem eligible_iff {elements : List Element} :
    r.Eligible elements ↔
      r.isDocumentation elements = true ∧
        (∃ e ∈ elements, Table.contains e.name r.readers = true) ∧
        ∀ e ∈ elements, e.name ∉ Tag.definitionTags := by
  unfold isDocumentation
  simp only [Bool.and_eq_true, Bool.or_eq_true, Bool.not_eq_true', List.any_eq_true,
    List.any_eq_false, Bool.not_eq_true]
  constructor
  · rintro ⟨hapi, hignored, hshown, hknown, hdefinition⟩
    exact ⟨⟨⟨hapi, hignored⟩, hshown⟩, hknown, hdefinition⟩
  · rintro ⟨⟨⟨hapi, hignored⟩, hshown⟩, hknown, hdefinition⟩
    exact ⟨hapi, hignored, hshown, hknown, hdefinition⟩

instance (elements : List Element) : Decidable (r.Eligible elements) :=
  decidable_of_iff _ eligible_iff.symm

/-- A block of a source file: the file, the elements of the block, and its position counted from
zero. -/
structure SourceBlock where
  file : String
  elements : List Element
  index : Nat
  deriving DecidableEq, Repr

/-- All **blocks of a source file**, in order. -/
def sourceBlocks (r : Registry) (u : SourceUnit) : List SourceBlock :=
  ((Block.findAll (r.languages.get u.language) u.text).map (Element.findAll r.hooks)).zipIdx.map
    fun (elements, index) => ⟨u.path, elements, index⟩

/-- The **eligible blocks** of a source file, in order. -/
def eligibleBlocks (r : Registry) (u : SourceUnit) : List SourceBlock :=
  (r.sourceBlocks u).filter fun block => r.Eligible block.elements

/-- The eligible blocks are chosen from the documentation. -/
theorem eligibleBlocks_eq (u : SourceUnit) :
    r.eligibleBlocks u =
      ((r.documentation u).filter fun block =>
        decide (r.Eligible block.1)).map fun block => ⟨u.path, block.1, block.2⟩ := by
  unfold eligibleBlocks sourceBlocks documentation
  rw [List.filter_map, List.filter_filter]
  refine congrArg _ (List.filter_congr fun block _ => ?_)
  rw [Bool.eq_iff_iff, Bool.and_eq_true, decide_eq_true_iff, Function.comp_apply,
    decide_eq_true_iff]
  exact ⟨fun h => ⟨h, (eligible_iff.mp h).1⟩, fun h => h.1⟩

/-- **A block that is read is an endpoint block** exactly if its elements are eligible. -/
theorem eligible_iff_isEndpoint (hreaders : r.readers = Tag.builtin) {file : String} {index : Nat}
    {elements : List Element} {b : BlockRecord} (hdocumentation : r.isDocumentation elements = true)
    (h : r.blockOutcome file index elements = .ok b) :
    r.Eligible elements ↔ (Filter.isEndpoint b && b.index != 0) = true := by
  obtain ⟨hindex, hglobals, hlocals⟩ := tells_of_blockOutcome hreaders h
  have hendpoint : Filter.isEndpoint b = true ↔ b.globals = [] ∧ b.locals ≠ [] := by
    simp [Filter.isEndpoint]
  rw [eligible_iff, Bool.and_eq_true, hendpoint, bne_iff_ne, hindex, hlocals]
  have hnone : b.globals = [] ↔ ∀ e ∈ elements, e.name ∉ Tag.definitionTags := by
    rw [← not_iff_not]
    simpa using hglobals
  rw [hnone]
  constructor
  · rintro ⟨-, ⟨e, he, hknown⟩, hdefinition⟩
    exact ⟨⟨hdefinition, e, he, hknown, hdefinition e he⟩, e, he, hknown⟩
  · rintro ⟨⟨hdefinition, -⟩, hknown⟩
    exact ⟨hdocumentation, hknown, hdefinition⟩

/-- **Eligible blocks and endpoint blocks** correspond in order. -/
theorem forall₂_eligibleBlocks (hreaders : r.readers = Tag.builtin) {u : SourceUnit}
    {records : List BlockRecord}
    (h : List.Forall₂ (fun block b => r.blockOutcome u.path block.2 block.1 = .ok b)
      (r.documentation u) records) :
    List.Forall₂
      (fun block b => r.blockOutcome block.file block.index block.elements = .ok b ∧
        block.file = u.path)
      (r.eligibleBlocks u) ((records.filter (·.index != 0)).filter Filter.isEndpoint) := by
  rw [eligibleBlocks_eq, List.filter_filter, List.forall₂_map_left_iff]
  have hdocumentation : ∀ block ∈ r.documentation u, r.isDocumentation block.1 = true :=
    fun block hblock => (List.mem_filter.mp hblock).2
  generalize r.documentation u = blocks at h hdocumentation
  induction h with
  | nil => exact List.Forall₂.nil
  | @cons block b blocks records hb _ ih =>
      obtain ⟨hblock, hblocks⟩ := List.forall_mem_cons.mp hdocumentation
      have hsame : decide (r.Eligible block.1) = (Filter.isEndpoint b && b.index != 0) := by
        rw [Bool.eq_iff_iff, decide_eq_true_iff]
        exact eligible_iff_isEndpoint hreaders hblock hb
      rw [List.filter_cons, List.filter_cons, hsame]
      split
      · exact List.Forall₂.cons ⟨hb, rfl⟩ (ih hblocks)
      · exact ih hblocks

end Registry

namespace Pipeline

open Registry Resolve

/-- The blocks of the files that source files are read into. -/
theorem mem_blocks_of_file? {registry : Registry} {u : SourceUnit} {records : List BlockRecord}
    (h : registry.sourceOutcome u = .ok (fileOf? u.path records)) {b : BlockRecord}
    (hb : b ∈ (records.filter (·.index != 0)).filter Filter.isEndpoint) :
    ∃ file, registry.file? u = some file ∧ file.path = u.path ∧ b ∈ file.blocks := by
  have hmem : b ∈ records.filter (·.index != 0) := List.mem_of_mem_filter hb
  have hne : ¬ (records.filter (·.index != 0)).isEmpty = true := by
    rw [List.isEmpty_iff]
    exact List.ne_nil_of_mem hmem
  refine ⟨⟨u.path, records.filter (·.index != 0)⟩, ?_, rfl, hmem⟩
  rw [file?, h]
  unfold fileOf?
  dsimp only
  rw [if_neg hne]

/-- **Endpoints are exactly the eligible blocks.** If a run succeeds, clean-ups and resolvers have
changed every block of every file by itself, with its definitions, its values for the block as a
whole and its position left alone; and the records are the final records of the eligible blocks,
one for each of them, in order. -/
theorem endpoints_are_eligible {registry : Registry} (hreaders : registry.readers = Tag.builtin)
    (workDir defaultVersion : String) {units : List SourceUnit} {j : Journal}
    {records : List Json}
    (h : (((withBuiltins registry workDir defaultVersion).endpoints units).outcome j).1 =
      .ok records) :
    ∃ files final,
      ((registry.parseSources units).outcome j).1 = .ok files ∧
      Resolve.process defaultVersion (Resolve.builtin workDir)
        (Filter.process Filter.builtin files).1 = .ok (files.map (mapFile final)) ∧
      (∀ path b, SameFrame b (final path b)) ∧
      List.Forall₂
        (fun block record => ∃ file ∈ files, file.path = block.file ∧ ∃ b ∈ file.blocks,
          ((registry.parseBlock block.file block.index block.elements).outcome j).1 = .ok b ∧
          record = .obj (final file.path b).locals)
        (units.flatMap registry.eligibleBlocks) records := by
  rw [endpoints_yields, endpointsOutcome_eq_ok_iff] at h
  obtain ⟨hread, resolved, hprocess, rfl⟩ := h
  obtain ⟨change, hchange⟩ := exists_change_of_process hprocess
  refine ⟨units.filterMap registry.file?, fun path b => change path (Filter.cleanAll b), ?_, ?_,
    fun path b => (Filter.sameFrame_cleanAll b).trans (hchange.frames path _), ?_⟩
  · rw [registry.parseSources_yields units j]
    exact registry.sourcesOutcome_eq_ok_iff.mpr ⟨hread, rfl⟩
  · rw [Filter.process_builtin, hprocess, hchange.after_eq, map_mapFile_mapFile]
  · rw [hchange.after_eq, records_eq_flatMap_contribution, List.flatMap_def, List.flatMap_def]
    refine List.rel_flatten (List.forall₂_map_left_iff.mpr (List.forall₂_map_right_iff.mpr
      (List.forall₂_same.mpr fun u hu => ?_)))
    obtain ⟨file, hfile⟩ := hread u hu
    obtain ⟨found, hfound, rfl⟩ := exists_records_of_sourceOutcome hfile
    have hfile? : registry.file? u = fileOf? u.path found := by
      rw [file?, hfile]
    rw [contribution, hfile?, flatMap_fileOf? _ _ _ rfl, List.forall₂_map_right_iff]
    have hblocks := (forall₂_eligibleBlocks hreaders hfound).flip
    have hmember := (List.forall₂_and_left _ _).mpr ⟨fun b hb => hb, hblocks⟩
    refine hmember.flip.imp ?_
    rintro block b ⟨hmem, hb, hpath⟩
    obtain ⟨file, hfile, hname, hin⟩ := mem_blocks_of_file? hfile hmem
    refine ⟨file, List.mem_filterMap.mpr ⟨u, hu, hfile⟩, hname.trans hpath.symm, b, hin, ?_, ?_⟩
    · rw [registry.parseBlock_yields]
      exact hb
    · rw [hname]

/-- Blocks of all sorts: a definition, a private one, an ignored one, one without a known tag, and
two that are eligible. -/
def mixedUnits : List SourceUnit :=
  [⟨"a.js", "/** @apiDefine D */ /** @api /a\n @apiPrivate */ /** @api /b\n @apiIgnore */" ++
      "/** @apiX */ /** @api /c */", "js"⟩,
    ⟨"b.js", "/** @apiName n */", "js"⟩]

/-- Of the blocks of all sorts, two are eligible, and there are two records. -/
theorem endpoints_are_eligible_mixed :
    (mixedUnits.flatMap (Registry.eligibleBlocks {})).map (fun block => (block.file, block.index)) =
        [("a.js", 4), ("b.js", 0)] ∧
      ∃ first second,
        (((withBuiltins {} "/" "0.0.0").endpoints mixedUnits).outcome {}).1 =
          .ok [first, second] := by
  have hplaces : (mixedUnits.flatMap (Registry.eligibleBlocks {})).map
      (fun block => (block.file, block.index)) = [("a.js", 4), ("b.js", 0)] := by decide +kernel
  have hsome : (((withBuiltins {} "/" "0.0.0").endpoints mixedUnits).outcome {}).1.toOption.isSome
      = true := by decide +kernel
  refine ⟨hplaces, ?_⟩
  cases hrun : (((withBuiltins {} "/" "0.0.0").endpoints mixedUnits).outcome {}).1 with
  | error e =>
      rw [hrun] at hsome
      cases hsome
  | ok records =>
      obtain ⟨files, final, -, -, -, hrecords⟩ := endpoints_are_eligible rfl "/" "0.0.0" hrun
      have hlength := congrArg List.length hplaces
      rw [List.length_map, hrecords.length_eq] at hlength
      obtain ⟨first, second, rfl⟩ := List.length_eq_two.mp hlength
      exact ⟨first, second, rfl⟩

end Pipeline

end ApiGloss

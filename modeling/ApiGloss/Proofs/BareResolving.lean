import ApiGloss.Proofs.BareBlocks
import ApiGloss.Proofs.LookupOrder

/-!
# Resolving Records with the Same Bare Records

Resolvers look up definitions by name and version, merge records, regroup fields by the groups that
they name, and give names. None of this reads a text for readers, with one exception: whether a
group has a description decides whether the endpoint record gets one. Two corpora that differ in
texts for readers only are therefore resolved alike: the same reference fails, or all records agree
up to texts for readers and up to the descriptions of groups, which no document mentions.

Before groups are settled, records have to agree entry by entry and in order, since the order of
the entries decides how records are merged. Afterwards records are only looked up.

## Main results

* `Resolve.respects_references`: references are resolved alike in records with the same bare
  records.
* `Resolve.process_agree`: the built-in resolvers.
-/

namespace ApiGloss.Resolve

open Json

/-! ### Blocks that agree -/

/-- Texts that are looked up under names other than those for readers. -/
theorem bind_str?_of_map_eq {key : String} (hkey : key ∉ proseNames) {t t' : Table Json}
    (h : (Table.get? key t).map (bareAt key) = (Table.get? key t').map (bareAt key)) :
    (Table.get? key t).bind str? = (Table.get? key t').bind str? := by
  have hstr : ∀ t : Table Json,
      (Table.get? key t).bind str? = ((Table.get? key t).map (bareAt key)).bind str? := by
    intro t
    cases Table.get? key t with
    | none => rfl
    | some v =>
        rw [Option.map_some, Option.bind_some, Option.bind_some, bareAt_of_not_mem hkey, str?_bare]
  rw [hstr, hstr, h]

/-- Two blocks agree in all but their endpoint records, up to texts for readers. -/
structure SameBareFrame (b b' : BlockRecord) : Prop where
  globals_eq : bareFields b.globals = bareFields b'.globals
  root_eq : bareFields b.root = bareFields b'.root
  index_eq : b.index = b'.index

namespace SameBareFrame

variable {b b' : BlockRecord}

/-- Blocks with the same bare records agree in all but their endpoint records. -/
theorem of_sameBare (h : SameBare b b') : SameBareFrame b b' :=
  ⟨h.globals_eq, h.root_eq, h.index_eq⟩

/-- Both blocks hold a definition, or none does. -/
theorem isEmpty_globals (h : SameBareFrame b b') : b.globals.isEmpty = b'.globals.isEmpty := by
  rw [← isEmpty_bareFields b.globals, h.globals_eq, isEmpty_bareFields]

/-- Both blocks have the same version. -/
theorem versionOf_eq (h : SameBareFrame b b') (defaultVersion : String) :
    versionOf defaultVersion b = versionOf defaultVersion b' := by
  unfold versionOf BlockRecord.version?
  rw [bind_str?_of_map_eq (by decide) (map_bareAt_eq h.root_eq "version")]

end SameBareFrame

/-! ### Definitions -/

/-- The bare definitions of a table. -/
def bareTable (t : DefinitionTable) : DefinitionTable :=
  Table.mapValues (fun _ versions => Table.mapValues (fun _ d => bare d) versions) t

/-- Two **look-ups agree**: they find definitions with the same bare value, or fail alike. -/
inductive LookupsAgree : Lookup → Lookup → Prop
  | found {d d' : Json} (h : bare d = bare d') : LookupsAgree (.found d) (.found d')
  | unknownName : LookupsAgree .unknownName .unknownName
  | noVersion (defined : List String) : LookupsAgree (.noVersion defined) (.noVersion defined)

/-- Tables with the same bare definitions agree in their answers. -/
theorem lookups_agree {t t' : DefinitionTable} (h : bareTable t = bareTable t')
    (name requested defaultVersion : String) :
    LookupsAgree (lookup t name requested defaultVersion)
      (lookup t' name requested defaultVersion) := by
  have hname := congrArg (Table.get? name) h
  unfold bareTable at hname
  rw [Table.get?_mapValues, Table.get?_mapValues] at hname
  unfold lookup
  cases hv : Table.get? name t with
  | none =>
      rw [hv, Option.map_none, eq_comm, Option.map_eq_none_iff] at hname
      rw [hname]
      exact .unknownName
  | some versions =>
      rw [hv, Option.map_some, eq_comm, Option.map_eq_some_iff] at hname
      obtain ⟨versions', hv', heq⟩ := hname
      have hkeys : Table.keys versions' = Table.keys versions := by
        rw [← Table.keys_mapValues (fun _ d => bare d) versions', heq, Table.keys_mapValues]
      rw [hv']
      dsimp only
      rw [hkeys]
      cases Version.resolve (Table.keys versions) requested defaultVersion with
      | none => exact .noVersion _
      | some v => exact .found (Table.getD_of_mapValues_eq _ heq.symm v .null)

namespace LookupsAgree

variable {l : Lookup}

/-- Where one table has a definition, so has the other. -/
theorem exists_found {d : Json} (h : LookupsAgree (.found d) l) :
    ∃ d', l = .found d' ∧ bare d = bare d' := by
  cases h with
  | found hd => exact ⟨_, rfl, hd⟩

/-- Where one table knows no such name, neither does the other. -/
theorem eq_unknownName (h : LookupsAgree .unknownName l) : l = .unknownName := by
  cases h
  rfl

/-- Where one table has no version, neither has the other. -/
theorem eq_noVersion {defined : List String} (h : LookupsAgree (.noVersion defined) l) :
    l = .noVersion defined := by
  cases h
  rfl

end LookupsAgree

/-- **One block more** adds the same bare definition to both tables. -/
theorem addDefinition_agree {source defaultVersion : String} (hsource : source ∉ proseNames)
    {pick : BlockRecord → Json → Json} {b b' : BlockRecord} (hb : SameBareFrame b b')
    (hpick : ∀ d d', bare d = bare d' → bare (pick b d) = bare (pick b' d'))
    {t t' : DefinitionTable} (ht : bareTable t = bareTable t') :
    bareTable (addDefinition source defaultVersion pick t b) =
      bareTable (addDefinition source defaultVersion pick t' b') := by
  unfold addDefinition
  rcases cases_of_map_eq (map_bareAt_eq hb.globals_eq source) with ⟨hnone, hnone'⟩ | ⟨d, d', hd, hd', heq⟩
  · rw [hnone, hnone']
    exact ht
  · rw [bareAt_of_not_mem hsource, bareAt_of_not_mem hsource] at heq
    have hname : d.getStr? "name" = d'.getStr? "name" := by
      rw [← getStr?_bare (by decide) d, heq, getStr?_bare (by decide)]
    have hversions : ∀ name, Table.mapValues (fun _ d => bare d) ((Table.get? name t).getD []) =
        Table.mapValues (fun _ d => bare d) ((Table.get? name t').getD []) :=
      fun name => Table.getD_of_mapValues_eq _ ht name []
    rw [hd, hd']
    dsimp only
    rw [hname, hb.versionOf_eq]
    unfold bareTable at ht ⊢
    rw [Table.mapValues_insert, Table.mapValues_insert, Table.mapValues_insert,
      Table.mapValues_insert, ht, hversions, hpick d d' heq]

/-- The blocks of files that agree. -/
theorem forall₂_allBlocks {R : BlockRecord → BlockRecord → Prop} {files files' : List ParsedFile}
    (h : List.Forall₂ (FilesAgree R) files files') :
    List.Forall₂ R (allBlocks files) (allBlocks files') :=
  List.rel_flatMap h fun _ _ hfile => hfile.blocks

/-- **Files that agree define the same**, up to texts for readers. -/
theorem gather_agree {source : String} (hsource : source ∉ proseNames)
    (pick : BlockRecord → Json → Json) {R : BlockRecord → BlockRecord → Prop}
    (hR : ∀ b b', R b b' → SameBareFrame b b')
    (hpick : ∀ b b' d d', R b b' → bare d = bare d' → bare (pick b d) = bare (pick b' d'))
    (defaultVersion : String) {files files' : List ParsedFile}
    (h : List.Forall₂ (FilesAgree R) files files') :
    bareTable (gather source pick defaultVersion files) =
      bareTable (gather source pick defaultVersion files') := by
  have hrun : ∀ blocks blocks', List.Forall₂ R blocks blocks' → ∀ t t', bareTable t = bareTable t' →
      bareTable (blocks.foldl (addDefinition source defaultVersion pick) t) =
        bareTable (blocks'.foldl (addDefinition source defaultVersion pick) t') := by
    intro blocks blocks' hblocks
    induction hblocks with
    | nil => exact fun t t' ht => ht
    | cons hb _ ih =>
        intro t t' ht
        exact ih _ _ (addDefinition_agree hsource (hR _ _ hb) (fun d d' => hpick _ _ d d' hb) ht)
  exact hrun _ _ (forall₂_allBlocks h) [] [] rfl

/-! ### References -/

/-- Merging bare definitions. -/
theorem bareFields_mergeDefinition (record : Table Json) (d : Json) :
    bareFields (mergeDefinition record d) = mergeDefinition (bareFields record) (bare d) := by
  cases d with
  | obj source =>
      rw [bare_obj]
      exact bareFields_mergeInto record source
  | arr items =>
      rw [bare_arr]
      rfl
  | _ => rfl

/-- The names in a bare list of references. -/
theorem referenceNames_bare {target : String} (htarget : target ∉ proseNames) (refs : Option Json) :
    referenceNames (refs.map (bareAt target)) = referenceNames refs := by
  cases refs with
  | none => rfl
  | some j =>
      unfold referenceNames
      rw [Option.map_some, Option.bind_some, Option.bind_some, bareAt_of_not_mem htarget, arr?_bare]
      cases j.arr? with
      | none => rfl
      | some items =>
          rw [Option.map_some, Option.getD_some, Option.getD_some, List.filterMap_map]
          refine List.filterMap_congr fun item _ => ?_
          exact getStr?_bare (by decide) item

/-- The names that records with the same bare records refer to. -/
theorem referenceNames_agree {target : String} (htarget : target ∉ proseNames) {t t' : Table Json}
    (h : bareFields t = bareFields t') :
    referenceNames (Table.get? target t) = referenceNames (Table.get? target t') := by
  rw [← referenceNames_bare htarget, map_bareAt_eq h, referenceNames_bare htarget]

/-- **The work list** takes the same way through records with the same bare records. -/
theorem follow_agree {t t' : DefinitionTable} (ht : bareTable t = bareTable t') {target : String}
    (htarget : target ∉ proseNames) (version defaultVersion : String)
    (visited pending : List String) (record : Table Json) :
    ∀ record', bareFields record = bareFields record' →
      bareFields (follow t target version defaultVersion visited pending record).1 =
          bareFields (follow t' target version defaultVersion visited pending record').1 ∧
        (follow t target version defaultVersion visited pending record).2 =
          (follow t' target version defaultVersion visited pending record').2 := by
  -- both runs have the same work list throughout, so that the induction follows the first one
  fun_induction follow t target version defaultVersion visited pending record with
  | case1 visited record =>
      intro record' hrecord
      rw [follow]
      exact ⟨hrecord, rfl⟩
  | case2 visited record name rest hv ih =>
      intro record' hrecord
      rw [follow, dif_pos hv]
      exact ih record' hrecord
  | case3 visited record name rest hv hl =>
      intro record' hrecord
      have hother := (hl ▸ lookups_agree ht name version defaultVersion).eq_unknownName
      rw [follow_cons_unknownName hv hother]
      exact ⟨hrecord, rfl⟩
  | case4 visited record name rest hv defined hl =>
      intro record' hrecord
      have hother := (hl ▸ lookups_agree ht name version defaultVersion).eq_noVersion
      rw [follow_cons_noVersion hv hother]
      exact ⟨hrecord, rfl⟩
  | case5 visited record name rest hv d hl merged ih =>
      intro record' hrecord
      obtain ⟨d', hother, hd⟩ := (hl ▸ lookups_agree ht name version defaultVersion).exists_found
      have hmerged : bareFields merged = bareFields (mergeDefinition record' d') := by
        rw [bareFields_mergeDefinition, bareFields_mergeDefinition, hrecord, hd]
      rw [follow_cons_found hv hother, ← referenceNames_agree htarget hmerged]
      refine ih _ ?_
      rw [bareFields_swapErase, bareFields_swapErase, hmerged]

/-- Settling references in blocks with the same bare records. -/
theorem settleReferences_agree {kind : ReferenceKind} (htarget : kind.target ∉ proseNames)
    {t t' : DefinitionTable} (ht : bareTable t = bareTable t') (defaultVersion path : String)
    {b b' : BlockRecord} (hb : SameBare b b') :
    SameBare (settleReferences kind defaultVersion t path b).1
        (settleReferences kind defaultVersion t' path b').1 ∧
      (settleReferences kind defaultVersion t path b).2 =
        (settleReferences kind defaultVersion t' path b').2 := by
  have hcontains : Table.contains kind.target b.locals = Table.contains kind.target b'.locals := by
    rw [← contains_bareFields, hb.locals_eq, contains_bareFields]
  have hrecord : bareFields (Table.swapErase kind.target b.locals) =
      bareFields (Table.swapErase kind.target b'.locals) := by
    rw [bareFields_swapErase, bareFields_swapErase, hb.locals_eq]
  obtain ⟨hlocals, hfailure⟩ := follow_agree ht htarget (versionOf defaultVersion b')
    defaultVersion [] (referenceNames (Table.get? kind.target b'.locals)) _ _ hrecord
  unfold settleReferences
  rw [hcontains, referenceNames_agree htarget hb.locals_eq,
    (SameBareFrame.of_sameBare hb).versionOf_eq]
  split
  · refine ⟨?_, ?_⟩
    · unfold SameBare BlockRecord.bare
      rw [BlockRecord.mk.injEq]
      exact ⟨hb.globals_eq, hlocals, hb.root_eq, hb.index_eq⟩
    · dsimp only
      rw [hfailure, hb.index_eq]
  · exact ⟨hb, rfl⟩

/-! ### Groups, titles and names -/

/-- Two blocks **look the same** to a document: they agree in all but their endpoint records, and
under every name other than that of the description of the group, their endpoint records hold the
same, all up to texts for readers. -/
structure SameView (b b' : BlockRecord) : Prop extends SameBareFrame b b' where
  get?_eq : ∀ key, key ≠ "groupDescription" →
    (Table.get? key b.locals).map (bareAt key) = (Table.get? key b'.locals).map (bareAt key)

namespace SameView

variable {b b' : BlockRecord}

/-- Blocks with the same bare records look the same. -/
theorem of_sameBare (h : SameBare b b') : SameView b b' :=
  ⟨SameBareFrame.of_sameBare h, fun key _ => map_bareAt_eq h.locals_eq key⟩

/-- A text under a name. -/
theorem bind_str?_eq (h : SameView b b') (key : String) (hkey : key ≠ "groupDescription")
    (hprose : key ∉ proseNames) :
    (Table.get? key b.locals).bind str? = (Table.get? key b'.locals).bind str? :=
  bind_str?_of_map_eq hprose (h.get?_eq key hkey)

/-- A text under a name, unless it is empty. -/
theorem nonEmptyText?_eq (h : SameView b b') (key : String) (hkey : key ≠ "groupDescription")
    (hprose : key ∉ proseNames) : nonEmptyText? key b.locals = nonEmptyText? key b'.locals := by
  unfold nonEmptyText?
  rw [h.bind_str?_eq key hkey hprose]

/-- Storing values that look the same. -/
theorem insert (h : SameView b b') (key : String) {value value' : Json}
    (hvalue : bareAt key value = bareAt key value') :
    SameView { b with locals := Table.insert key value b.locals }
      { b' with locals := Table.insert key value' b'.locals } := by
  refine ⟨⟨h.globals_eq, h.root_eq, h.index_eq⟩, fun other hother => ?_⟩
  dsimp only
  rw [Table.get?_insert, Table.get?_insert]
  split
  · rename_i hkey
    subst hkey
    rw [Option.map_some, Option.map_some, hvalue]
  · exact h.get?_eq other hother

/-- Storing a description of a group does not show. -/
theorem insert_groupDescription (h : SameView b b') (value : Json) :
    SameView { b with locals := Table.insert "groupDescription" value b.locals } b' := by
  refine ⟨⟨h.globals_eq, h.root_eq, h.index_eq⟩, fun other hother => ?_⟩
  dsimp only
  rw [Table.get?_insert, if_neg hother.symm]
  exact h.get?_eq other hother

theorem symm (h : SameView b b') : SameView b' b :=
  ⟨⟨h.globals_eq.symm, h.root_eq.symm, h.index_eq.symm⟩, fun key hkey => (h.get?_eq key hkey).symm⟩

end SameView

/-- Giving groups to blocks that look the same. -/
theorem assignGroup_agree (workDir path : String) {b b' : BlockRecord} (h : SameView b b') :
    SameView (assignGroup workDir path b) (assignGroup workDir path b') := by
  unfold assignGroup
  rw [h.isEmpty_globals, h.nonEmptyText?_eq _ (by decide) (by decide)]
  split
  · exact h.insert "group" rfl
  · exact h

/-- Storing the texts of groups with the same title in blocks that look the same. -/
theorem SameView.insert_groupTexts {b b' : BlockRecord} (h : SameView b b') {title title' : Json}
    (htitle : bare title = bare title') (description? description?' : Option Json) :
    SameView
      { b with locals := match description? with
        | some d => Table.insert "groupDescription" d (Table.insert "groupTitle" title b.locals)
        | none => Table.insert "groupTitle" title b.locals }
      { b' with locals := match description?' with
        | some d => Table.insert "groupDescription" d (Table.insert "groupTitle" title' b'.locals)
        | none => Table.insert "groupTitle" title' b'.locals } := by
  have hkey : "groupTitle" ∉ proseNames := by decide
  have hvalue : bareAt "groupTitle" title = bareAt "groupTitle" title' := by
    rw [bareAt_of_not_mem hkey, bareAt_of_not_mem hkey, htitle]
  have hview := h.insert "groupTitle" hvalue
  cases description? <;> cases description?'
  · exact hview
  · exact (hview.symm.insert_groupDescription _).symm
  · exact hview.insert_groupDescription _
  · exact ((hview.insert_groupDescription _).symm.insert_groupDescription _).symm

/-- **Giving the texts of their groups** to blocks that look the same. -/
theorem titleGroup_agree {t t' : DefinitionTable} (ht : bareTable t = bareTable t')
    (defaultVersion path : String) {b b' : BlockRecord} (h : SameView b b') :
    SameView (titleGroup defaultVersion t path b).1 (titleGroup defaultVersion t' path b').1 ∧
      (titleGroup defaultVersion t path b).2 = (titleGroup defaultVersion t' path b').2 := by
  unfold titleGroup
  rw [h.bind_str?_eq "group" (by decide) (by decide), h.versionOf_eq]
  cases (Table.get? "group" b'.locals).bind str? with
  | none => exact ⟨h, rfl⟩
  | some name =>
      have hagree := lookups_agree ht name (versionOf defaultVersion b') defaultVersion
      unfold groupTexts
      dsimp only
      generalize lookup t name (versionOf defaultVersion b') defaultVersion = l at hagree ⊢
      generalize lookup t' name (versionOf defaultVersion b') defaultVersion = l' at hagree ⊢
      cases hagree with
      | @found d d' hd =>
          have hgetD : ∀ d? : Option Json, bare (d?.getD .null) = (d?.map bare).getD .null :=
            fun d? => by cases d? <;> rfl
          have htitle : bare ((d.get? "title").getD .null) =
              bare ((d'.get? "title").getD .null) := by
            rw [hgetD, hgetD, ← get?_bare (by decide), hd, get?_bare (by decide)]
          exact ⟨h.insert_groupTexts htitle _ _, rfl⟩
      | unknownName => exact ⟨h.insert_groupTexts rfl none none, rfl⟩
      | noVersion defined =>
          refine ⟨h, ?_⟩
          dsimp only
          rw [h.index_eq]

/-- The declarations of bare groups. -/
theorem groupedItems_bare (fields : Table Json) :
    groupedItems (bareFields fields) =
      (groupedItems fields).map fun e => (e.1, bareItemAt e.1 e.2) := by
  have hitem : ∀ (key : String) (item : Json),
      ((bareItemAt key item).getStr? "group").getD key = (item.getStr? "group").getD key ∧
        bareItemAt key item = bareItemAt ((item.getStr? "group").getD key) item := by
    intro key item
    refine ⟨by rw [getStr?_bareItemAt (by decide)], ?_⟩
    by_cases hstr : ∃ s, item = .str s
    · obtain ⟨s, rfl⟩ := hstr
      rfl
    · have hne : ∀ s, item ≠ .str s := fun s hs => hstr ⟨s, hs⟩
      rw [bareItemAt_of_ne hne, bareItemAt_of_ne hne]
  unfold groupedItems
  rw [bareFields_eq, Table.mapValues, List.flatMap_map, List.map_flatMap]
  refine List.flatMap_congr fun e _ => ?_
  obtain ⟨key, items⟩ := e
  dsimp only
  rw [arr?_bareAt]
  cases items.arr? with
  | none => rfl
  | some items =>
      rw [Option.map_some, Option.getD_some, Option.getD_some, List.map_map, List.map_map]
      refine List.map_congr_left fun item _ => ?_
      obtain ⟨hgroup, hbare⟩ := hitem key item
      simp only [Function.comp_apply]
      rw [hgroup, hbare]

/-- A declaration is added to the array of its group. -/
theorem addToGroup_eq_getD (groups : Table Json) (group : String) (item : Json) :
    addToGroup groups group item =
      (((Table.get? group groups).getD (.arr [])).arr?.map fun items =>
        Table.insert group (.arr (items ++ [item])) groups).getD groups := by
  unfold addToGroup
  cases (Table.get? group groups).getD (.arr []) <;> rfl

/-- Adding a declaration to bare groups. -/
theorem addToGroup_bare (groups : Table Json) (group : String) (item : Json) :
    addToGroup (bareFields groups) group (bareItemAt group item) =
      bareFields (addToGroup groups group item) := by
  have hempty : bareAt group (.arr []) = .arr [] := by
    rw [bareAt_arr, List.map_nil]
  rw [addToGroup_eq_getD, addToGroup_eq_getD, Record.getD_bareFields hempty, arr?_bareAt]
  cases ((Table.get? group groups).getD (.arr [])).arr? with
  | none => rfl
  | some items =>
      simp only [Option.map_some, Option.getD_some]
      rw [bareFields_insert, bareAt_arr, List.map_append, List.map_singleton]

/-- The title of a group in tables with the same bare definitions. -/
theorem titleOf_agree {t t' : DefinitionTable} (ht : bareTable t = bareTable t')
    (group version defaultVersion : String) :
    titleOf t group version defaultVersion = titleOf t' group version defaultVersion := by
  have hagree := lookups_agree ht group version defaultVersion
  unfold titleOf
  generalize lookup t group version defaultVersion = l at hagree ⊢
  generalize lookup t' group version defaultVersion = l' at hagree ⊢
  cases hagree with
  | found hd =>
      dsimp only
      rw [← getStr?_bare (by decide), hd, getStr?_bare (by decide)]
  | unknownName => rfl
  | noVersion defined => rfl

/-- **Regrouping** bare declarations. -/
theorem regroup_bare {t t' : DefinitionTable} (ht : bareTable t = bareTable t')
    (version defaultVersion : String) (items : List (String × Json)) (groups titles : Table Json) :
    regroup t' version defaultVersion (items.map fun e => (e.1, bareItemAt e.1 e.2))
        (bareFields groups, titles) =
      (regroup t version defaultVersion items (groups, titles)).map fun acc =>
        (bareFields acc.1, acc.2) := by
  induction items generalizing groups titles with
  | nil => rfl
  | cons e rest ih =>
      obtain ⟨group, item⟩ := e
      rw [List.map_cons, regroup, regroup, ← titleOf_agree ht]
      dsimp only
      rw [addToGroup_bare]
      split
      · exact ih _ _
      · cases titleOf t group version defaultVersion with
        | error cause => rfl
        | ok title => exact ih _ _

/-- The entries under a name of records that look the same there. -/
theorem bind_obj?_cases {key : String} {t t' : Table Json}
    (h : (Table.get? key t).map (bareAt key) = (Table.get? key t').map (bareAt key)) :
    ((Table.get? key t).bind obj? = none ∧ (Table.get? key t').bind obj? = none) ∨
      ∃ part part', (Table.get? key t).bind obj? = some part ∧
        (Table.get? key t').bind obj? = some part' ∧ bareFields part = bareFields part' := by
  have hpart : ∀ t : Table Json, ((Table.get? key t).bind obj?).map bareFields =
      ((Table.get? key t).map (bareAt key)).bind obj? := by
    intro t
    cases Table.get? key t with
    | none => rfl
    | some v => rw [Option.map_some, Option.bind_some, Option.bind_some, obj?_bareAt]
  exact cases_of_map_eq (by rw [hpart, hpart, h])

/-- Regrouping declarations that look the same. -/
theorem regroup_agree {t t' : DefinitionTable} (ht : bareTable t = bareTable t')
    (version defaultVersion : String) {fields fields' : Table Json}
    (h : bareFields fields = bareFields fields') :
    Run.Agree (fun acc acc' => bareFields acc.1 = bareFields acc'.1 ∧ acc.2 = acc'.2)
      (regroup t version defaultVersion (groupedItems fields) ([], []))
      (regroup t' version defaultVersion (groupedItems fields') ([], [])) := by
  have hbare : ∀ t₁ fields, bareTable t₁ = bareTable t' →
      (regroup t₁ version defaultVersion (groupedItems fields) ([], [])).map
          (fun acc => (bareFields acc.1, acc.2)) =
        regroup t' version defaultVersion (groupedItems (bareFields fields)) ([], []) := by
    intro t₁ fields ht₁
    rw [← regroup_bare ht₁, ← groupedItems_bare, bareFields_nil]
  have heq := (hbare t fields ht).trans (h ▸ (hbare t' fields' rfl).symm)
  exact (Run.agree_of_map_eq heq).imp fun acc acc' hacc => Prod.mk.inj hacc

/-- **Regrouping the fields of a section** in blocks that look the same. -/
theorem titleFields_agree {t t' : DefinitionTable} (ht : bareTable t = bareTable t')
    (kind : FieldKind) (defaultVersion path : String) {b b' : BlockRecord} (h : SameView b b') :
    SameView (titleFields kind defaultVersion t path b).1
        (titleFields kind defaultVersion t' path b').1 ∧
      (titleFields kind defaultVersion t path b).2 =
        (titleFields kind defaultVersion t' path b').2 := by
  have hsection : kind.sectionName ≠ "groupDescription" := by cases kind <;> decide
  unfold titleFields
  rw [h.versionOf_eq]
  rcases bind_obj?_cases (h.get?_eq _ hsection) with ⟨hnone, hnone'⟩ | ⟨part, part', hp, hp', hpart⟩
  · rw [hnone, hnone']
    exact ⟨h, rfl⟩
  rw [hp, hp']
  dsimp only
  rcases bind_obj?_cases (map_bareAt_eq hpart "fields") with ⟨hnone, hnone'⟩ | ⟨fields, fields', hf, hf', hgroups⟩
  · rw [hnone, hnone']
    exact ⟨h, rfl⟩
  rw [hf, hf']
  dsimp only
  have hagree := regroup_agree ht (versionOf defaultVersion b') defaultVersion hgroups
  generalize regroup t (versionOf defaultVersion b') defaultVersion (groupedItems fields) ([], []) =
    regrouped at hagree ⊢
  generalize regroup t' (versionOf defaultVersion b') defaultVersion (groupedItems fields') ([], [])
    = regrouped' at hagree ⊢
  cases regrouped <;> cases regrouped'
  · cases hagree
    refine ⟨h, ?_⟩
    dsimp only
    rw [h.index_eq]
  · cases hagree
  · cases hagree
  · rename_i acc acc'
    obtain ⟨groups, titles⟩ := acc
    obtain ⟨groups', titles'⟩ := acc'
    obtain ⟨hnewGroups, htitles⟩ := hagree
    dsimp only at hnewGroups htitles ⊢
    refine ⟨h.insert kind.sectionName ?_, rfl⟩
    simp only [bareAt_obj, bareFields_insert, hpart, hnewGroups, htitles]

/-- **Giving names** to blocks that look the same. -/
theorem assignName_agree {b b' : BlockRecord} (h : SameView b b') :
    SameView (assignName b) (assignName b') := by
  unfold assignName
  rw [h.isEmpty_globals, h.nonEmptyText?_eq _ (by decide) (by decide)]
  split
  · dsimp only
    rw [h.bind_str?_eq "type" (by decide) (by decide),
      h.bind_str?_eq "url" (by decide) (by decide)]
    exact h.insert "name" rfl
  · exact h

/-! ### Resolvers -/

/-- Going through two lists of related items, until an item fails. -/
theorem untilFailure_agree {α ε : Type} {R : α → α → Prop} {f g : α → α × Option ε}
    (hfg : ∀ a b, R a b → R (f a).1 (g b).1 ∧ (f a).2 = (g b).2) {l l' : List α}
    (h : List.Forall₂ R l l') :
    List.Forall₂ R (untilFailure f l).1 (untilFailure g l').1 ∧
      (untilFailure f l).2 = (untilFailure g l').2 := by
  induction h with
  | nil => exact ⟨List.Forall₂.nil, rfl⟩
  | @cons a b rest rest' hab hrest ih =>
      obtain ⟨hitem, hfailure⟩ := hfg a b hab
      rw [untilFailure, untilFailure]
      generalize f a = changed at hitem hfailure ⊢
      generalize g b = changed' at hitem hfailure ⊢
      obtain ⟨a', failure⟩ := changed
      obtain ⟨b', failure'⟩ := changed'
      cases hfailure
      cases failure with
      | none => exact ⟨List.Forall₂.cons hitem ih.1, ih.2⟩
      | some e => exact ⟨List.Forall₂.cons hitem hrest, rfl⟩

/-- Changing blocks of files that agree, until a block fails. -/
theorem eachBlock_agree {R : BlockRecord → BlockRecord → Prop}
    {f g : String → BlockRecord → BlockRecord × Option Error}
    (hfg : ∀ path b b', R b b' → R (f path b).1 (g path b').1 ∧ (f path b).2 = (g path b').2)
    {files files' : List ParsedFile} (h : List.Forall₂ (FilesAgree R) files files') :
    List.Forall₂ (FilesAgree R) (eachBlock f files).1 (eachBlock g files').1 ∧
      (eachBlock f files).2 = (eachBlock g files').2 := by
  refine untilFailure_agree (fun file file' hfile => ?_) h
  obtain ⟨hblocks, hfailure⟩ := untilFailure_agree (hfg file.path) hfile.blocks
  dsimp only
  rw [← hfile.path_eq]
  generalize untilFailure (f file.path) file.blocks = changed at hblocks hfailure ⊢
  generalize untilFailure (g file.path) file'.blocks = changed' at hblocks hfailure ⊢
  exact ⟨⟨rfl, hblocks⟩, hfailure⟩

/-- Changing every block of files that agree by itself. -/
theorem forall₂_mapFile {R : BlockRecord → BlockRecord → Prop}
    {f : String → BlockRecord → BlockRecord} (hf : ∀ path b b', R b b' → R (f path b) (f path b'))
    {files files' : List ParsedFile} (h : List.Forall₂ (FilesAgree R) files files') :
    List.Forall₂ (FilesAgree R) (files.map (mapFile f)) (files'.map (mapFile f)) := by
  refine List.forall₂_map_left_iff.mpr (List.forall₂_map_right_iff.mpr (h.imp ?_))
  intro file file' hfile
  refine ⟨hfile.path_eq, ?_⟩
  rw [blocks_mapFile, blocks_mapFile, ← hfile.path_eq]
  exact List.forall₂_map_left_iff.mpr (List.forall₂_map_right_iff.mpr
    (hfile.blocks.imp fun b b' hb => hf file.path b b' hb))

/-- A resolver **respects** a relation of blocks: it leaves files in agreement that agree, and fails
on both alike. -/
def Respects (R : BlockRecord → BlockRecord → Prop) (r : Resolver) : Prop :=
  ∀ defaultVersion files files', List.Forall₂ (FilesAgree R) files files' →
    List.Forall₂ (FilesAgree R) (runOne defaultVersion r files).1
        (runOne defaultVersion r files').1 ∧
      (runOne defaultVersion r files).2 = (runOne defaultVersion r files').2

/-- **References** are resolved alike in blocks with the same bare records. -/
theorem respects_references {kind : ReferenceKind} (hkind : kind ∈ referenceKinds) :
    Respects SameBare (references kind) := by
  intro defaultVersion files files' h
  have hnames : ∀ kind ∈ referenceKinds, kind.source ∉ proseNames ∧ kind.target ∉ proseNames := by
    decide
  obtain ⟨hsource, htarget⟩ := hnames kind hkind
  have ht := gather_agree hsource (fun b _ => .obj b.locals)
    (fun b b' hb => SameBareFrame.of_sameBare hb)
    (fun b b' _ _ hb _ => by rw [bare_obj, bare_obj, SameBare.locals_eq hb]) defaultVersion h
  exact eachBlock_agree (fun path b b' hb =>
    settleReferences_agree htarget ht defaultVersion path hb) h

/-- The definitions that groups take their titles from. -/
theorem gather_define_agree (defaultVersion : String) {files files' : List ParsedFile}
    (h : List.Forall₂ (FilesAgree SameView) files files') :
    bareTable (gather "define" (fun _ d => d) defaultVersion files) =
      bareTable (gather "define" (fun _ d => d) defaultVersion files') :=
  gather_agree (by decide) _ (fun _ _ hb => hb.toSameBareFrame) (fun _ _ _ _ _ hd => hd)
    defaultVersion h

/-- **Groups** are settled alike in blocks that look the same. -/
theorem respects_groups (workDir : String) : Respects SameView (groups workDir) := by
  intro defaultVersion files files' h
  have hassign := forall₂_mapFile (f := assignGroup workDir)
    (fun path _ _ hb => assignGroup_agree workDir path hb) h
  exact eachBlock_agree (fun path b b' hb =>
    titleGroup_agree (gather_define_agree defaultVersion h) defaultVersion path hb) hassign

/-- **Field groups** are settled alike in blocks that look the same. -/
theorem respects_titles (kind : FieldKind) : Respects SameView (titles kind) :=
  fun defaultVersion _ _ h => eachBlock_agree (fun path _ _ hb =>
    titleFields_agree (gather_define_agree defaultVersion h) kind defaultVersion path hb) h

/-- **Names** are given alike to blocks that look the same. -/
theorem respects_names : Respects SameView names :=
  fun _ _ _ h =>
    ⟨forall₂_mapFile (f := fun _ => assignName) (fun _ _ _ hb => assignName_agree hb) h, rfl⟩

/-! ### Runs of resolvers -/

/-- **What every resolver respects, a run respects.** -/
theorem process_agree_of_respects {R : BlockRecord → BlockRecord → Prop} {resolvers : List Resolver}
    (hresolvers : ∀ r ∈ resolvers, Respects R r) (defaultVersion : String)
    {files files' : List ParsedFile} (h : List.Forall₂ (FilesAgree R) files files') :
    Run.Agree (List.Forall₂ (FilesAgree R)) (process defaultVersion resolvers files)
      (process defaultVersion resolvers files') := by
  induction resolvers generalizing files files' with
  | nil => exact h
  | cons r rest ih =>
      obtain ⟨hr, hrest⟩ := List.forall_mem_cons.mp hresolvers
      obtain ⟨hfiles, hfailure⟩ := hr defaultVersion files files' h
      rw [process, process]
      generalize runOne defaultVersion r files = after at hfiles hfailure ⊢
      generalize runOne defaultVersion r files' = after' at hfiles hfailure ⊢
      obtain ⟨after, failure⟩ := after
      obtain ⟨after', failure'⟩ := after'
      cases hfailure
      cases failure with
      | none => exact ih hrest hfiles
      | some e => rfl

/-- Running some resolvers after others. -/
theorem process_append (defaultVersion : String) (first rest : List Resolver)
    (files : List ParsedFile) :
    process defaultVersion (first ++ rest) files =
      process defaultVersion first files >>= process defaultVersion rest := by
  induction first generalizing files with
  | nil => rfl
  | cons r more ih =>
      rw [List.cons_append, process, process]
      cases runOne defaultVersion r files with
      | mk after failure =>
          cases failure with
          | none => exact ih after
          | some e => rfl

/-- **The built-in resolvers** treat files alike that differ in texts for readers only. -/
theorem process_agree (workDir defaultVersion : String) {files files' : List ParsedFile}
    (h : List.Forall₂ (FilesAgree SameBare) files files') :
    Run.Agree (List.Forall₂ (FilesAgree SameView))
      (process defaultVersion (builtin workDir) files)
      (process defaultVersion (builtin workDir) files') := by
  have hreferences : ∀ r ∈ referenceKinds.map references, Respects SameBare r := by
    rw [List.forall_mem_map]
    exact fun kind hkind => respects_references hkind
  have hothers : ∀ r ∈ afterReferences workDir, Respects SameView r := by
    intro r hr
    simp only [afterReferences, List.mem_cons, List.mem_append, List.mem_map,
      List.not_mem_nil, or_false] at hr
    rcases hr with rfl | ⟨kind, -, rfl⟩ | rfl
    · exact respects_groups workDir
    · exact respects_titles kind
    · exact respects_names
  -- references are resolved in records that agree entry by entry; from then on it is enough that
  -- look-ups agree, and groups with and without a description cannot be told apart
  rw [builtin_eq, process_append, process_append]
  refine (process_agree_of_respects hreferences defaultVersion h).bind fun after after' hafter => ?_
  refine process_agree_of_respects hothers defaultVersion (hafter.imp fun file file' hfile => ?_)
  exact ⟨hfile.path_eq, hfile.blocks.imp fun b b' hb => SameView.of_sameBare hb⟩

end ApiGloss.Resolve

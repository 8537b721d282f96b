import ApiGloss.Proofs.Blockwise
import ApiGloss.Proofs.Definitions

/-!
# What Resolvers Keep of Endpoint Records

The built-in resolvers change endpoint records in four ways only: they merge the records of
definitions into them, remove lists of references, store single values, and regroup the fields
of a section. A property that survives these four steps (`Resolve.ResolvingKeeps`) is kept by
every resolver and by every run of resolvers.

Merging brings in what stands in other blocks. A property may therefore ask for something of the
records that are merged in; it is kept if those records have it.

## Main results

* `Resolve.exists_change_of_process`: a run changes every block by itself, and keeps what
  resolving keeps.
-/

namespace ApiGloss.Resolve

/-- An object that is looked up. -/
theorem eq_some_obj {j? : Option Json} {t : Table Json} (h : j?.bind Json.obj? = some t) :
    j? = some (.obj t) := by
  obtain ⟨j, rfl, hj⟩ := Option.bind_eq_some_iff.mp h
  cases j with
  | obj fields =>
      cases hj
      rfl
  | _ => cases hj

/-- The names under which resolvers store texts. -/
def storedTexts : List String :=
  ["group", "name"]

/-- The names under which resolvers store single values. -/
def storedNames : List String :=
  ["group", "groupTitle", "groupDescription", "name"]

/-- A section with regrouped fields. -/
def regroupedSection (part groups titles : Table Json) : Json :=
  .obj (Table.insert "groupTitles" (.obj titles) (Table.insert "fields" (.obj groups) part))

/-- Resolving **keeps** a property of endpoint records, if the records of definitions that are
merged in have another one. -/
structure ResolvingKeeps (I D : Table Json → Prop) : Prop where
  merge : ∀ t source, I t → D source → I (Json.mergeInto t source)
  erase : ∀ kind ∈ referenceKinds, ∀ t, I t → I (Table.swapErase kind.target t)
  store : ∀ key ∈ storedNames, ∀ value, (key ∈ storedTexts → ∃ s, value = .str s) →
    ∀ t, I t → I (Table.insert key value t)
  regroup : ∀ (kind : FieldKind) t part fields groups titles table version defaultVersion, I t →
    Table.get? kind.sectionName t = some (.obj part) →
    Table.get? "fields" part = some (.obj fields) →
    Resolve.regroup table version defaultVersion (groupedItems fields) ([], []) =
      .ok (groups, titles) →
    I (Table.insert kind.sectionName (regroupedSection part groups titles) t)

namespace ResolvingKeeps

variable {I D : Table Json → Prop}

/-- Following references keeps the property. -/
theorem follow (hI : ResolvingKeeps I D) {kind : ReferenceKind} (hkind : kind ∈ referenceKinds)
    {t : DefinitionTable} {version defaultVersion : String}
    (hD : ∀ name source, lookup t name version defaultVersion = .found (.obj source) → D source)
    (visited pending : List String) {record : Table Json} (hrecord : I record) :
    I (follow t kind.target version defaultVersion visited pending record).1 := by
  fun_induction Resolve.follow t kind.target version defaultVersion visited pending record with
  | case1 visited record => exact hrecord
  | case2 visited record name rest hv ih => exact ih hrecord
  | case3 visited record name rest hv hl => exact hrecord
  | case4 visited record name rest hv defined hl => exact hrecord
  | case5 visited record name rest hv d hl merged ih =>
      refine ih (hI.erase kind hkind _ ?_)
      cases d with
      | obj source => exact hI.merge record source hrecord (hD name source hl)
      | _ => exact hrecord

/-- Settling references keeps the property. -/
theorem settleReferences (hI : ResolvingKeeps I D) {kind : ReferenceKind}
    (hkind : kind ∈ referenceKinds) {files : List ParsedFile}
    (hD : ∀ b ∈ allBlocks files, D b.locals) (defaultVersion path : String) {b : BlockRecord}
    (hb : I b.locals) :
    I (settleReferences kind defaultVersion ((references kind).gather defaultVersion files)
      path b).1.locals := by
  unfold Resolve.settleReferences
  split
  · refine hI.follow hkind (fun name source hl => ?_) _ _ (hI.erase kind hkind _ hb)
    obtain ⟨c, hc, d, -, hsource⟩ := exists_block_of_lookup hl
    cases hsource
    exact hD c hc
  · exact hb

/-- Settling groups keeps the property. -/
theorem settleGroup (hI : ResolvingKeeps I D) (workDir defaultVersion : String)
    (t : DefinitionTable) (path : String) {b : BlockRecord} (hb : I b.locals) :
    I (settleGroup workDir defaultVersion t path b).1.locals := by
  have hassign : I (assignGroup workDir path b).locals := by
    unfold assignGroup
    split
    · exact hI.store _ (by decide) _ (fun _ => ⟨_, rfl⟩) _ hb
    · exact hb
  unfold Resolve.settleGroup titleGroup
  split
  · exact hassign
  · split
    · exact hassign
    · rename_i title description? _
      have htitle : I (Table.insert "groupTitle" title (assignGroup workDir path b).locals) :=
        hI.store _ (by decide) _ (fun h => absurd h (by decide)) _ hassign
      cases description? with
      | none => exact htitle
      | some description =>
          exact hI.store _ (by decide) _ (fun h => absurd h (by decide)) _ htitle

/-- Settling field groups keeps the property. -/
theorem titleFields (hI : ResolvingKeeps I D) (kind : FieldKind) (defaultVersion : String)
    (t : DefinitionTable) (path : String) {b : BlockRecord} (hb : I b.locals) :
    I (titleFields kind defaultVersion t path b).1.locals := by
  unfold Resolve.titleFields
  split
  · exact hb
  · rename_i part hpart
    split
    · exact hb
    · rename_i fields hfields
      dsimp only
      split
      · exact hb
      · rename_i groups titles hregroup
        exact hI.regroup kind b.locals part fields groups titles t _ _ hb (eq_some_obj hpart)
          (eq_some_obj hfields) hregroup

/-- Giving names keeps the property. -/
theorem assignName (hI : ResolvingKeeps I D) {b : BlockRecord} (hb : I b.locals) :
    I (assignName b).locals := by
  unfold Resolve.assignName
  split
  · exact hI.store _ (by decide) _ (fun _ => ⟨_, rfl⟩) _ hb
  · exact hb

end ResolvingKeeps

/-- The files are the former ones with every block **changed by itself**. The change leaves frames
alone, and it keeps what resolving keeps, if all former blocks have what is asked of the records
that are merged in. -/
structure ChangedFrom (files after : List ParsedFile)
    (change : String → BlockRecord → BlockRecord) : Prop where
  after_eq : after = files.map (mapFile change)
  frames : ∀ path b, SameFrame b (change path b)
  keeps : ∀ I D, ResolvingKeeps I D → ResolvingKeeps D D → (∀ b ∈ allBlocks files, D b.locals) →
    ∀ path b, I b.locals → I (change path b).locals

namespace ChangedFrom

variable {files after final : List ParsedFile} {change later : String → BlockRecord → BlockRecord}

/-- The changed blocks have what resolving keeps, if the former ones have it. -/
theorem forall_allBlocks (h : ChangedFrom files after change)
    {D : Table Json → Prop} (hD : ResolvingKeeps D D) (hfiles : ∀ b ∈ allBlocks files, D b.locals) :
    ∀ b ∈ allBlocks after, D b.locals := by
  rw [h.after_eq, allBlocks_mapFile]
  intro b hb
  obtain ⟨file, hfile, hb⟩ := List.mem_flatMap.mp hb
  obtain ⟨c, hc, rfl⟩ := List.mem_map.mp hb
  exact h.keeps D D hD hD hfiles file.path c (hfiles c (List.mem_flatMap.mpr ⟨file, hfile, hc⟩))

/-- Nothing is changed. -/
theorem refl (files : List ParsedFile) : ChangedFrom files files fun _ b => b :=
  ⟨(map_mapFile_id files).symm, fun _ b => SameFrame.refl b, fun _ _ _ _ _ _ _ hb => hb⟩

/-- One change after the other. -/
theorem trans (h : ChangedFrom files after change) (h' : ChangedFrom after final later) :
    ChangedFrom files final fun path b => later path (change path b) where
  after_eq := by rw [h'.after_eq, h.after_eq, map_mapFile_mapFile]
  frames path b := (h.frames path b).trans (h'.frames path _)
  keeps I D hI hD hfiles path b hb :=
    h'.keeps I D hI hD (h.forall_allBlocks hD hfiles) path _ (h.keeps I D hI hD hfiles path b hb)

end ChangedFrom

/-- A resolver **keeps records**: it changes blocks by what resolving keeps, and leaves their
frames alone. -/
def KeepsRecords (r : Resolver) : Prop :=
  ∃ change : BlockChange, SettlesBy r change ∧ KeepsFrames change ∧
    ∀ I D, ResolvingKeeps I D → ∀ defaultVersion files path b,
      (∀ c ∈ allBlocks files, D c.locals) → I b.locals →
        I (change defaultVersion (r.gather defaultVersion files) path b).1.locals

/-- **All built-in resolvers** keep records. -/
theorem keepsRecords_builtin (workDir : String) : ∀ r ∈ builtin workDir, KeepsRecords r := by
  refine forall_builtin (fun kind hkind => ?_) ?_ (fun kind => ?_) ?_
  · exact ⟨_, references_settlesBy kind, settleReferences_keepsFrames kind,
      fun I D hI dv files path b hD hb => hI.settleReferences hkind hD dv path hb⟩
  · exact ⟨_, groups_settlesBy workDir, settleGroup_keepsFrames workDir,
      fun I D hI dv files path b _ hb => hI.settleGroup workDir dv _ path hb⟩
  · exact ⟨_, titles_settlesBy kind, titleFields_keepsFrames kind,
      fun I D hI dv files path b _ hb => hI.titleFields kind dv _ path hb⟩
  · exact ⟨_, names_settlesBy, assignName_keepsFrames,
      fun I D hI dv files path b _ hb => hI.assignName hb⟩

/-- **A resolver that succeeds** changes every block by itself. -/
theorem KeepsRecords.exists_change {r : Resolver} (hr : KeepsRecords r) {defaultVersion : String}
    {files after : List ParsedFile} (h : runOne defaultVersion r files = (after, none)) :
    ∃ change, ChangedFrom files after change := by
  obtain ⟨change, hsettles, hframes, hkeeps⟩ := hr
  obtain ⟨hafter, hnone⟩ := Prod.mk.inj h
  exact ⟨fun path b => (change defaultVersion (r.gather defaultVersion files) path b).1,
    hafter.symm.trans ((hsettles defaultVersion _ files).2 hnone),
    fun path b => hframes _ _ path b,
    fun I D hI _ hfiles path b hb => hkeeps I D hI _ files path b hfiles hb⟩

/-- A run of resolvers that keep records changes every block by itself. -/
theorem exists_change_of_forall {resolvers : List Resolver}
    (hresolvers : ∀ r ∈ resolvers, KeepsRecords r) {defaultVersion : String}
    {files resolved : List ParsedFile}
    (h : process defaultVersion resolvers files = .ok resolved) :
    ∃ change, ChangedFrom files resolved change := by
  refine process_invariant (I := fun after => ∃ change, ChangedFrom files after change)
    (fun r hr before after hbefore hone => ?_) h ⟨_, ChangedFrom.refl files⟩
  obtain ⟨first, hfirst⟩ := hbefore
  obtain ⟨next, hnext⟩ := (hresolvers r hr).exists_change hone
  exact ⟨_, hfirst.trans hnext⟩

/-- **A run changes every block by itself** and keeps what resolving keeps. -/
theorem exists_change_of_process {workDir defaultVersion : String}
    {files resolved : List ParsedFile}
    (h : process defaultVersion (builtin workDir) files = .ok resolved) :
    ∃ change, ChangedFrom files resolved change :=
  exists_change_of_forall (keepsRecords_builtin workDir) h

end ApiGloss.Resolve

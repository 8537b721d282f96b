import ApiGloss.Proofs.Blockwise
import ApiGloss.Proofs.Definitions
import ApiGloss.Proofs.VersionOrder
import ApiGloss.Tag.Builtin
import Mathlib.Data.List.Pairwise

/-!
# Look-up Does Not Depend on the Order of Blocks

A definition table lists the definitions of a name in the order in which their blocks were
found, and `Version.resolve` goes through them in that order. If no two blocks define the same
name in the same version, the order is of no consequence: tables gathered from the same blocks
in any order answer every look-up alike, apart from the list of defined versions in a failure.
Every built-in resolver reads its table by look-up only, so that it treats each block in the
same way with either table.

## Main results

* `Resolve.lookup_gather_perm`: gathered tables answer alike.
* `Resolve.OrderFree`: a resolver treats the blocks of reordered files alike; all built-in
  resolvers do (`Resolve.orderFree_builtin`).
-/

namespace ApiGloss.Resolve

open Version

/-! ### Separate definitions -/

/-- Two blocks are **separate** if they do not define the same name of one kind under the same
version, neither by text nor by meaning. -/
def Separate (defaultVersion source : String) (a b : BlockRecord) : Prop :=
  ∀ name d d', definition? source a = some (name, d) → definition? source b = some (name, d') →
    versionOf defaultVersion a ≠ versionOf defaultVersion b ∧
      ¬ SameVersion (versionOf defaultVersion a) (versionOf defaultVersion b)

instance (defaultVersion source : String) (a b : BlockRecord) :
    Decidable (Separate defaultVersion source a b) :=
  decidable_of_iff
    (∀ e ∈ (definition? source a).toList, ∀ e' ∈ (definition? source b).toList, e.1 = e'.1 →
      versionOf defaultVersion a ≠ versionOf defaultVersion b ∧
        ¬ SameVersion (versionOf defaultVersion a) (versionOf defaultVersion b)) <| by
    simp only [Option.mem_toList]
    refine ⟨fun h name d d' ha hb => h _ ha _ hb rfl, ?_⟩
    rintro h ⟨name, d⟩ ha ⟨name', d'⟩ hb rfl
    exact h name d d' ha hb

/-- All blocks are separate, for every kind of definition. -/
def SeparateDefinitions (defaultVersion : String) (blocks : List BlockRecord) : Prop :=
  ∀ kind : Tag.DefineKind, blocks.Pairwise (Separate defaultVersion kind.target)

instance (defaultVersion : String) (blocks : List BlockRecord) :
    Decidable (SeparateDefinitions defaultVersion blocks) :=
  decidable_of_iff
    (∀ kind ∈ [Tag.DefineKind.define, .errorStructure, .headerStructure, .successStructure],
      blocks.Pairwise (Separate defaultVersion kind.target)) <| by
    refine ⟨fun h kind => h kind ?_, fun h kind _ => h kind⟩
    cases kind <;> decide

/-- Separateness is about the frames of blocks. -/
theorem Separate.of_sameFrame {defaultVersion source : String} {a b a' b' : BlockRecord}
    (ha : SameFrame a a') (hb : SameFrame b b') (h : Separate defaultVersion source a b) :
    Separate defaultVersion source a' b' := by
  unfold Separate definition? versionOf BlockRecord.version? at h ⊢
  rw [ha.globals_eq, ha.root_eq, hb.globals_eq, hb.root_eq]
  exact h

/-- Changes that keep frames keep blocks separate. -/
theorem SeparateDefinitions.mapFile {defaultVersion : String} {files : List ParsedFile}
    {f : String → BlockRecord → BlockRecord} (hf : ∀ path b, SameFrame b (f path b))
    (h : SeparateDefinitions defaultVersion (allBlocks files)) :
    SeparateDefinitions defaultVersion (allBlocks (files.map (Resolve.mapFile f))) := by
  intro kind
  have hkind := h kind
  rw [allBlocks_mapFile]
  unfold allBlocks at hkind
  rw [List.pairwise_flatMap] at hkind ⊢
  obtain ⟨hin, hacross⟩ := hkind
  refine ⟨fun file hfile => ?_, hacross.imp fun hab x hx y hy => ?_⟩
  · refine List.pairwise_map.mpr ((hin file hfile).imp fun hab => ?_)
    exact hab.of_sameFrame (hf _ _) (hf _ _)
  · obtain ⟨b, hb, rfl⟩ := List.mem_map.mp hx
    obtain ⟨c, hc, rfl⟩ := List.mem_map.mp hy
    exact (hab b hb c hc).of_sameFrame (hf _ _) (hf _ _)

/-! ### Look-ups that answer alike -/

/-- Two look-ups answer **alike**: they find the same definition, or both know no such name, or
both know no such version. The versions that are listed then may come in another order. -/
inductive Lookup.Alike : Lookup → Lookup → Prop
  | found (d : Json) : Alike (.found d) (.found d)
  | unknownName : Alike .unknownName .unknownName
  | noVersion (defined defined' : List String) : Alike (.noVersion defined) (.noVersion defined')

namespace Lookup.Alike

theorem eq_found {d : Json} {l : Lookup} (h : Alike (.found d) l) : l = .found d := by
  cases h
  rfl

theorem eq_unknownName {l : Lookup} (h : Alike .unknownName l) : l = .unknownName := by
  cases h
  rfl

theorem eq_noVersion {defined : List String} {l : Lookup} (h : Alike (.noVersion defined) l) :
    ∃ defined', l = .noVersion defined' := by
  cases h
  exact ⟨_, rfl⟩

end Lookup.Alike

/-- Two tables answer every look-up alike. -/
def AnswerAlike (defaultVersion : String) (t t' : DefinitionTable) : Prop :=
  ∀ name version,
    Lookup.Alike (lookup t name version defaultVersion) (lookup t' name version defaultVersion)

/-- Separate blocks keep their definitions of a name under different versions. -/
theorem pairwise_keys_definitionsNamed {source defaultVersion name : String}
    {pick : BlockRecord → Json → Json} {blocks : List BlockRecord}
    (h : blocks.Pairwise (Separate defaultVersion source)) :
    (Table.keys (definitionsNamed source pick defaultVersion name blocks)).Pairwise
      fun v w => v ≠ w ∧ ¬ SameVersion v w := by
  unfold Table.keys definitionsNamed
  rw [List.pairwise_map, List.pairwise_filterMap]
  refine h.imp fun hab e he e' he' => ?_
  obtain ⟨d, hd, rfl⟩ := kept?_eq_some_iff.mp he
  obtain ⟨d', hd', rfl⟩ := kept?_eq_some_iff.mp he'
  exact hab name d d' hd hd'

/-- **Tables gathered from separate blocks** in any order answer every look-up alike. -/
theorem lookup_gather_perm {source defaultVersion : String} {pick : BlockRecord → Json → Json}
    {files others : List ParsedFile} (hp : files.Perm others)
    (hsep : (allBlocks files).Pairwise (Separate defaultVersion source)) :
    AnswerAlike defaultVersion (gather source pick defaultVersion files)
      (gather source pick defaultVersion others) := by
  intro name version
  have hperm : (definitionsNamed source pick defaultVersion name (allBlocks files)).Perm
      (definitionsNamed source pick defaultVersion name (allBlocks others)) :=
    (hp.flatMap_right _).filterMap _
  have hkeys : (Table.keys (definitionsNamed source pick defaultVersion name
      (allBlocks files))).Pairwise fun v w => v ≠ w ∧ ¬ SameVersion v w :=
    pairwise_keys_definitionsNamed hsep
  unfold lookup
  rw [get?_gather, get?_gather]
  generalize definitionsNamed source pick defaultVersion name (allBlocks files) = ds
    at hperm hkeys
  generalize definitionsNamed source pick defaultVersion name (allBlocks others) = ds' at hperm
  have hdistinct : Table.Distinct ds := hkeys.imp fun h => h.1
  have hdistinct' : Table.Distinct ds' := hdistinct.of_perm hperm
  have hdiff : ∀ v ∈ Table.keys ds, ∀ w ∈ Table.keys ds, SameVersion v w → v = w := by
    intro v hv w hw hsame
    by_contra hne
    have hsymm : Std.Symm fun v w : String => v ≠ w ∧ ¬ SameVersion v w :=
      ⟨fun _ _ h => ⟨h.1.symm, fun ⟨u, hy, hx⟩ => h.2 ⟨u, hx, hy⟩⟩⟩
    exact (hkeys.forall hv hw hne).2 hsame
  have hresolve := resolve_perm (hperm.map Prod.fst) hdiff version defaultVersion
  cases ds with
  | nil =>
      obtain rfl : ds' = [] := List.nil_perm.mp hperm
      exact Lookup.Alike.unknownName
  | cons e more =>
      cases ds' with
      | nil => cases List.perm_nil.mp hperm
      | cons e' more' =>
          simp only [withVersions, Option.getD_none]
          rw [Table.extend_of_distinct hdistinct, Table.extend_of_distinct hdistinct',
            List.nil_append, List.nil_append]
          change resolve (Table.keys (e :: more)) version defaultVersion =
            resolve (Table.keys (e' :: more')) version defaultVersion at hresolve
          rw [hresolve]
          cases resolve (Table.keys (e' :: more')) version defaultVersion with
          | none => exact Lookup.Alike.noVersion _ _
          | some v =>
              dsimp only
              rw [Table.get?_of_perm hdistinct hperm v]
              exact Lookup.Alike.found _

/-! ### Changes that read their table by look-up -/

/-- A change **reads by look-up** if tables that answer alike make it change a block to the
same block, and fail or not fail alike. -/
def ReadsByLookup (change : BlockChange) : Prop :=
  ∀ defaultVersion t t', AnswerAlike defaultVersion t t' → ∀ path b,
    (change defaultVersion t path b).1 = (change defaultVersion t' path b).1 ∧
    ((change defaultVersion t path b).2 = none ↔ (change defaultVersion t' path b).2 = none)

/-- The work list stops at a name that is not defined. -/
theorem follow_cons_unknownName {t : DefinitionTable} {target version defaultVersion name : String}
    {visited rest : List String} {record : Table Json} (hv : ¬ visited.contains name = true)
    (hl : lookup t name version defaultVersion = .unknownName) :
    follow t target version defaultVersion visited (name :: rest) record =
      (record, some (.unknownName name)) := by
  rw [follow, dif_neg hv]
  split <;> simp_all

/-- The work list stops at a name without a version for the block. -/
theorem follow_cons_noVersion {t : DefinitionTable} {target version defaultVersion name : String}
    {visited rest defined : List String} {record : Table Json}
    (hv : ¬ visited.contains name = true)
    (hl : lookup t name version defaultVersion = .noVersion defined) :
    follow t target version defaultVersion visited (name :: rest) record =
      (record, some (.noVersion name version defined)) := by
  rw [follow, dif_neg hv]
  split <;> simp_all

/-- The work list goes on with the references of a definition that is found. -/
theorem follow_cons_found {t : DefinitionTable} {target version defaultVersion name : String}
    {visited rest : List String} {record : Table Json} {d : Json}
    (hv : ¬ visited.contains name = true)
    (hl : lookup t name version defaultVersion = .found d) :
    follow t target version defaultVersion visited (name :: rest) record =
      follow t target version defaultVersion (name :: visited)
        (rest ++ referenceNames (Table.get? target (mergeDefinition record d)))
        (Table.swapErase target (mergeDefinition record d)) := by
  rw [follow, dif_neg hv]
  split <;> simp_all

/-- The work list reads by look-up. -/
theorem follow_alike {t t' : DefinitionTable} {defaultVersion : String}
    (h : AnswerAlike defaultVersion t t') (target version : String)
    (visited pending : List String) (record : Table Json) :
    (follow t target version defaultVersion visited pending record).1 =
        (follow t' target version defaultVersion visited pending record).1 ∧
      ((follow t target version defaultVersion visited pending record).2 = none ↔
        (follow t' target version defaultVersion visited pending record).2 = none) := by
  fun_induction follow t target version defaultVersion visited pending record with
  | case1 visited record =>
      rw [follow]
      exact ⟨rfl, Iff.rfl⟩
  | case2 visited record name rest hv ih =>
      rw [follow, dif_pos hv]
      exact ih
  | case3 visited record name rest hv hl =>
      obtain hl' := (hl ▸ h name version).eq_unknownName
      rw [follow_cons_unknownName hv hl']
      exact ⟨rfl, by simp⟩
  | case4 visited record name rest hv defined hl =>
      obtain ⟨defined', hl'⟩ := (hl ▸ h name version).eq_noVersion
      rw [follow_cons_noVersion hv hl']
      exact ⟨rfl, by simp⟩
  | case5 visited record name rest hv d hl merged ih =>
      obtain hl' := (hl ▸ h name version).eq_found
      rw [follow_cons_found hv hl']
      exact ih

/-- Settling references reads by look-up. -/
theorem settleReferences_readsByLookup (kind : ReferenceKind) :
    ReadsByLookup (settleReferences kind) := by
  intro defaultVersion t t' h path b
  obtain ⟨hrecord, hnone⟩ := follow_alike h kind.target (versionOf defaultVersion b) []
    (referenceNames (Table.get? kind.target b.locals)) (Table.swapErase kind.target b.locals)
  unfold settleReferences
  split
  · simp only [Option.map_eq_none_iff]
    exact ⟨by rw [hrecord], hnone⟩
  · exact ⟨rfl, Iff.rfl⟩

/-- Settling groups reads by look-up. -/
theorem settleGroup_readsByLookup (workDir : String) : ReadsByLookup (settleGroup workDir) := by
  intro defaultVersion t t' h path b
  unfold settleGroup titleGroup
  split
  · exact ⟨rfl, Iff.rfl⟩
  · rename_i name _
    have ha := h name (versionOf defaultVersion (assignGroup workDir path b))
    unfold groupTexts
    generalize lookup t name (versionOf defaultVersion (assignGroup workDir path b))
      defaultVersion = l at ha ⊢
    generalize lookup t' name (versionOf defaultVersion (assignGroup workDir path b))
      defaultVersion = l' at ha ⊢
    cases ha with
    | found d => exact ⟨rfl, Iff.rfl⟩
    | unknownName => exact ⟨rfl, Iff.rfl⟩
    | noVersion defined defined' => exact ⟨rfl, by simp⟩

/-- Outcomes that give the same value, if any, both succeed with it or both fail. -/
theorem both_of_toOption_eq {ε α : Type} {x y : Except ε α} (h : x.toOption = y.toOption) :
    (∃ a, x = .ok a ∧ y = .ok a) ∨ ∃ e e', x = .error e ∧ y = .error e' := by
  cases x with
  | error e =>
      cases y with
      | error e' => exact Or.inr ⟨e, e', rfl, rfl⟩
      | ok b => cases h
  | ok a =>
      cases y with
      | error e' => cases h
      | ok b =>
          cases h
          exact Or.inl ⟨a, rfl, rfl⟩

/-- Tables that answer alike give a field group the same title, or none. -/
theorem titleOf_alike {t t' : DefinitionTable} {defaultVersion : String}
    (h : AnswerAlike defaultVersion t t') (group version : String) :
    (titleOf t group version defaultVersion).toOption =
      (titleOf t' group version defaultVersion).toOption := by
  have ha := h group version
  unfold titleOf
  generalize lookup t group version defaultVersion = l at ha ⊢
  generalize lookup t' group version defaultVersion = l' at ha ⊢
  cases ha <;> rfl

/-- Tables that answer alike regroup declarations alike. -/
theorem regroup_alike {t t' : DefinitionTable} {defaultVersion : String}
    (h : AnswerAlike defaultVersion t t') (version : String) (items : List (String × Json))
    (acc : Table Json × Table Json) :
    (regroup t version defaultVersion items acc).toOption =
      (regroup t' version defaultVersion items acc).toOption := by
  induction items generalizing acc with
  | nil => rfl
  | cons entry rest ih =>
      obtain ⟨group, item⟩ := entry
      obtain ⟨groups, titles⟩ := acc
      simp only [regroup]
      split
      · exact ih _
      · rcases both_of_toOption_eq (titleOf_alike h group version) with
          ⟨title, ht, ht'⟩ | ⟨e, e', ht, ht'⟩
        · rw [ht, ht']
          exact ih _
        · rw [ht, ht']
          rfl

/-- Settling field groups reads by look-up. -/
theorem titleFields_readsByLookup (kind : FieldKind) : ReadsByLookup (titleFields kind) := by
  intro defaultVersion t t' h path b
  unfold titleFields
  split
  · exact ⟨rfl, Iff.rfl⟩
  · split
    · exact ⟨rfl, Iff.rfl⟩
    · rename_i fields _
      dsimp only
      rcases both_of_toOption_eq (regroup_alike h (versionOf defaultVersion b)
        (groupedItems fields) ([], [])) with ⟨out, hr, hr'⟩ | ⟨e, e', hr, hr'⟩
      · rw [hr, hr']
        exact ⟨rfl, Iff.rfl⟩
      · rw [hr, hr']
        exact ⟨rfl, by simp⟩

/-! ### Resolvers and the order of files -/

/-- A resolver is **free of file order** if, over separate blocks, it treats every block in
the same way whatever the order of the files: it succeeds in both orders or in neither, by one
and the same change of blocks, which keeps frames. -/
def OrderFree (defaultVersion : String) (r : Resolver) : Prop :=
  ∀ files others, files.Perm others → SeparateDefinitions defaultVersion (allBlocks files) →
    ∃ change : String → BlockRecord → BlockRecord, (∀ path b, SameFrame b (change path b)) ∧
      ((runOne defaultVersion r files).2 = none ↔ (runOne defaultVersion r others).2 = none) ∧
      ((runOne defaultVersion r files).2 = none →
        (runOne defaultVersion r files).1 = files.map (mapFile change)) ∧
      ((runOne defaultVersion r others).2 = none →
        (runOne defaultVersion r others).1 = others.map (mapFile change))

/-- A resolver is free of file order if it settles blocks by a change that keeps frames and
reads by look-up, and if the tables it gathers answer alike. -/
theorem orderFree_of_settlesBy {r : Resolver} {change : BlockChange} {defaultVersion : String}
    (hsettles : SettlesBy r change) (hframes : KeepsFrames change)
    (hreads : ReadsByLookup change)
    (hgather : ∀ files others, files.Perm others →
      SeparateDefinitions defaultVersion (allBlocks files) →
      AnswerAlike defaultVersion (r.gather defaultVersion files)
        (r.gather defaultVersion others)) :
    OrderFree defaultVersion r := by
  intro files others hp hsep
  have halike := hgather files others hp hsep
  obtain ⟨hok, hfst⟩ := hsettles defaultVersion (r.gather defaultVersion files) files
  obtain ⟨hok', hfst'⟩ := hsettles defaultVersion (r.gather defaultVersion others) others
  have hsame := hreads defaultVersion _ _ halike
  refine ⟨fun path b => (change defaultVersion (r.gather defaultVersion files) path b).1,
    fun path b => hframes _ _ path b, ?_, hfst, fun hs => ?_⟩
  · refine hok.trans (Iff.trans ?_ hok'.symm)
    refine ⟨fun h file hfile b hb => ?_, fun h file hfile b hb => ?_⟩
    · exact (hsame file.path b).2.mp (h file (hp.mem_iff.mpr hfile) b hb)
    · exact (hsame file.path b).2.mpr (h file (hp.mem_iff.mp hfile) b hb)
  · refine (hfst' hs).trans (List.map_congr_left fun file _ => ?_)
    unfold mapFile
    rw [List.map_congr_left fun b _ => (hsame file.path b).1]

/-- The resolvers of references look for one of the four kinds of definitions. -/
theorem exists_defineKind {kind : ReferenceKind} (h : kind ∈ referenceKinds) :
    ∃ k : Tag.DefineKind, k.target = kind.source := by
  simp only [referenceKinds, List.mem_cons, List.not_mem_nil, or_false] at h
  rcases h with rfl | rfl | rfl | rfl
  · exact ⟨.define, rfl⟩
  · exact ⟨.errorStructure, rfl⟩
  · exact ⟨.headerStructure, rfl⟩
  · exact ⟨.successStructure, rfl⟩

/-- **All built-in resolvers are free of file order.** -/
theorem orderFree_builtin (workDir defaultVersion : String) :
    ∀ r ∈ builtin workDir, OrderFree defaultVersion r := by
  refine forall_builtin (fun kind hkind => ?_) ?_ (fun kind => ?_) ?_
  · obtain ⟨k, hk⟩ := exists_defineKind hkind
    refine orderFree_of_settlesBy (references_settlesBy kind) (settleReferences_keepsFrames kind)
      (settleReferences_readsByLookup kind) fun files others hp hsep => ?_
    exact lookup_gather_perm hp (hk ▸ hsep k)
  · exact orderFree_of_settlesBy (groups_settlesBy workDir) (settleGroup_keepsFrames workDir)
      (settleGroup_readsByLookup workDir)
      fun files others hp hsep => lookup_gather_perm hp (hsep .define)
  · exact orderFree_of_settlesBy (titles_settlesBy kind) (titleFields_keepsFrames kind)
      (titleFields_readsByLookup kind)
      fun files others hp hsep => lookup_gather_perm hp (hsep .define)
  · exact orderFree_of_settlesBy names_settlesBy assignName_keepsFrames
      (fun _ _ _ _ _ _ => ⟨rfl, Iff.rfl⟩)
      fun _ _ _ _ _ _ => Lookup.Alike.unknownName

/-- **A run of resolvers that are free of file order** is free of file order. -/
theorem process_perm {defaultVersion : String} {resolvers : List Resolver}
    (hfree : ∀ r ∈ resolvers, OrderFree defaultVersion r) {files others : List ParsedFile}
    (hp : files.Perm others) (hsep : SeparateDefinitions defaultVersion (allBlocks files)) :
    ∃ change : String → BlockRecord → BlockRecord,
      ((∃ resolved, process defaultVersion resolvers files = .ok resolved) ↔
        ∃ resolved, process defaultVersion resolvers others = .ok resolved) ∧
      (∀ resolved, process defaultVersion resolvers files = .ok resolved →
        resolved = files.map (mapFile change)) ∧
      (∀ resolved, process defaultVersion resolvers others = .ok resolved →
        resolved = others.map (mapFile change)) := by
  induction resolvers generalizing files others with
  | nil =>
      refine ⟨fun _ b => b, ⟨fun _ => ⟨others, rfl⟩, fun _ => ⟨files, rfl⟩⟩, ?_, ?_⟩
      · intro resolved h
        rw [process, Except.ok.injEq] at h
        rw [map_mapFile_id, h]
      · intro resolved h
        rw [process, Except.ok.injEq] at h
        rw [map_mapFile_id, h]
  | cons r rest ih =>
      obtain ⟨first, hframes, hiff, hfst, hfst'⟩ :=
        hfree r List.mem_cons_self files others hp hsep
      obtain ⟨later, hiff', hlater, hlater'⟩ :=
        ih (fun r' hr' => hfree r' (List.mem_cons_of_mem _ hr')) (hp.map (mapFile first))
          (hsep.mapFile hframes)
      refine ⟨fun path b => later path (first path b), ?_, fun resolved h => ?_,
        fun resolved h => ?_⟩
      · simp only [process_cons_eq_ok_iff, exists_and_left]
        rw [hiff]
        refine and_congr_right fun hs => ?_
        rw [hfst (hiff.mpr hs), hfst' hs]
        exact hiff'
      · obtain ⟨hs, hrest⟩ := process_cons_eq_ok_iff.mp h
        rw [hfst hs] at hrest
        rw [hlater resolved hrest, map_mapFile_mapFile]
      · obtain ⟨hs, hrest⟩ := process_cons_eq_ok_iff.mp h
        rw [hfst' hs] at hrest
        rw [hlater' resolved hrest, map_mapFile_mapFile]

end ApiGloss.Resolve

import ApiGloss.Proofs.References
import ApiGloss.Proofs.Resolving

/-!
# No Reference Is Left

A resolver of references removes the references of its own kind from every record, but the
definitions that it merges in may bring references of any kind along. What makes the order of the
resolvers right is that each of them gathers its definitions from records that the earlier ones
have already settled: a definition that is merged in late holds no reference of an early kind. So
the names of references that are gone from all records only become more, resolver by resolver,
and after the last one none is left. The resolvers that follow store and regroup under other
names.

## Main results

* `Resolve.freeOf_settleReferences`: one resolver removes one more kind and brings none back.
* `Resolve.process_consumes_references`: after a successful run, no record holds a reference of
  any kind.
-/

namespace ApiGloss.Resolve

/-! ### Records without references -/

/-- A record is **free of** some names: its names are distinct, and none of them is among those. -/
def FreeOf (names : List String) (t : Table Json) : Prop :=
  Table.Distinct t ∧ ∀ key ∈ names, Table.get? key t = none

/-- The names of references are none of the names under which resolvers store or regroup. -/
theorem target_ne {key : String} (h : key ∈ referenceKinds.map ReferenceKind.target) :
    key ∉ storedNames ∧ ∀ kind : FieldKind, kind.sectionName ≠ key := by
  refine ⟨?_, fun kind => ?_⟩
  · revert key
    decide
  · cases kind <;> revert key <;> decide

/-- Storing under another name brings no reference back. -/
theorem FreeOf.insert {names : List String} {t : Table Json} (h : FreeOf names t) {key : String}
    (hkey : key ∉ names) (value : Json) : FreeOf names (Table.insert key value t) := by
  refine ⟨h.1.insert key value, fun name hname => ?_⟩
  have hne : key ≠ name := fun heq => hkey (heq ▸ hname)
  rw [Table.get?_insert, if_neg hne, h.2 name hname]

/-- **Resolving keeps records free** of references that are gone from all records. -/
theorem resolvingKeeps_freeOf {names : List String}
    (hnames : ∀ key ∈ names, key ∈ referenceKinds.map ReferenceKind.target) :
    ResolvingKeeps (FreeOf names) (FreeOf names) where
  merge t source ht hs := by
    refine ⟨Json.distinct_mergeInto ht.1 source, fun key hkey => ?_⟩
    rw [Json.get?_mergeInto hs.1, ht.2 key hkey, hs.2 key hkey, Json.mergeEntry_none_right]
  erase kind _ t ht := by
    refine ⟨ht.1.swapErase kind.target, fun key hkey => ?_⟩
    rw [Table.get?_swapErase ht.1, ht.2 key hkey, ite_self]
  store key hkey value _ t ht :=
    ht.insert (fun hmem => (target_ne (hnames key hmem)).1 hkey) value
  regroup kind t part fields groups titles table version dv ht _ _ _ :=
    ht.insert (fun hmem => (target_ne (hnames _ hmem)).2 kind rfl) _

/-! ### One kind of references -/

/-- Removing the references of a kind leaves none. -/
theorem freeOf_swapErase {target : String} {t : Table Json} (h : Table.Distinct t) :
    FreeOf [target] (Table.swapErase target t) := by
  refine ⟨h.swapErase target, fun key hkey => ?_⟩
  obtain rfl := List.mem_singleton.mp hkey
  rw [Table.get?_swapErase h, if_pos rfl]

/-- The work list removes the references of every definition that it merges in. -/
theorem freeOf_follow (t : DefinitionTable) (target version defaultVersion : String)
    (visited pending : List String) {record : Table Json} (h : FreeOf [target] record) :
    FreeOf [target] (follow t target version defaultVersion visited pending record).1 := by
  fun_induction follow t target version defaultVersion visited pending record with
  | case1 visited record => exact h
  | case2 visited record name rest hv ih => exact ih h
  | case3 visited record name rest hv hl => exact h
  | case4 visited record name rest hv defined hl => exact h
  | case5 visited record name rest hv d hl merged ih =>
      refine ih (freeOf_swapErase ?_)
      cases d with
      | obj source => exact Json.distinct_mergeInto h.1 source
      | _ => exact h.1

/-- **Settling the references of one kind** removes this kind from a record, and brings back no
kind that is gone from all records. -/
theorem freeOf_settleReferences {kind : ReferenceKind} (hkind : kind ∈ referenceKinds)
    {names : List String}
    (hnames : ∀ key ∈ names, key ∈ referenceKinds.map ReferenceKind.target)
    {files : List ParsedFile} (hfiles : ∀ b ∈ allBlocks files, FreeOf names b.locals)
    (defaultVersion path : String) {b : BlockRecord} (hb : FreeOf names b.locals) :
    FreeOf (kind.target :: names)
      (settleReferences kind defaultVersion ((references kind).gather defaultVersion files)
        path b).1.locals := by
  have hkept := (resolvingKeeps_freeOf hnames).settleReferences hkind hfiles defaultVersion path hb
  have hgone : Table.get? kind.target (settleReferences kind defaultVersion
      ((references kind).gather defaultVersion files) path b).1.locals = none := by
    unfold settleReferences
    split
    · exact (freeOf_follow _ _ _ _ _ _ (freeOf_swapErase hb.1)).2 _ List.mem_cons_self
    · rename_i habsent
      simpa [Table.contains] using habsent
  exact ⟨hkept.1, List.forall_mem_cons.mpr ⟨hgone, hkept.2⟩⟩

/-! ### All kinds -/

/-- **Resolvers of references, one after the other**: the kinds that are gone from all records
become more with each of them. -/
theorem exists_freeOf_of_process {kinds : List ReferenceKind}
    (hkinds : ∀ kind ∈ kinds, kind ∈ referenceKinds) {names : List String}
    (hnames : ∀ key ∈ names, key ∈ referenceKinds.map ReferenceKind.target)
    {defaultVersion : String} {rest : List Resolver} {files resolved : List ParsedFile}
    (h : process defaultVersion (kinds.map references ++ rest) files = .ok resolved)
    (hfiles : ∀ b ∈ allBlocks files, FreeOf names b.locals) :
    ∃ after, process defaultVersion rest after = .ok resolved ∧
      ∀ b ∈ allBlocks after,
        FreeOf ((kinds.map ReferenceKind.target).reverse ++ names) b.locals := by
  induction kinds generalizing names files with
  | nil => exact ⟨files, h, hfiles⟩
  | cons kind kinds ih =>
      obtain ⟨hkind, hrest⟩ := List.forall_mem_cons.mp hkinds
      obtain ⟨hnone, hprocess⟩ := process_cons_eq_ok_iff.mp h
      have hsettled := (references_settlesBy kind defaultVersion
        ((references kind).gather defaultVersion files) files).2 hnone
      have htarget : kind.target ∈ referenceKinds.map ReferenceKind.target :=
        List.mem_map_of_mem hkind
      obtain ⟨after, hafter, hfree⟩ :=
        ih hrest (List.forall_mem_cons.mpr ⟨htarget, hnames⟩) hprocess (by
          unfold runOne
          rw [hsettled, allBlocks_mapFile]
          intro b hb
          obtain ⟨file, hfile, hb⟩ := List.mem_flatMap.mp hb
          obtain ⟨c, hc, rfl⟩ := List.mem_map.mp hb
          exact freeOf_settleReferences hkind hnames hfiles defaultVersion file.path
            (hfiles c (List.mem_flatMap.mpr ⟨file, hfile, hc⟩)))
      refine ⟨after, hafter, ?_⟩
      rwa [List.map_cons, List.reverse_cons, List.append_assoc]

/-- **No reference is left.** After a successful run of the built-in resolvers over any corpus of
records (tables with distinct names), no block, be it an endpoint or a definition, holds a
reference of any kind: neither one of its own, nor one that a definition brought along while
references of another kind were resolved. -/
theorem process_consumes_references (workDir defaultVersion : String)
    {files resolved : List ParsedFile} (hfiles : ∀ b ∈ allBlocks files, Table.Distinct b.locals)
    (h : process defaultVersion (builtin workDir) files = .ok resolved) :
    ∀ b ∈ allBlocks resolved,
      ∀ key ∈ ["use", "errorStructure", "headerStructure", "successStructure"],
        Table.contains key b.locals = false := by
  rw [builtin_eq] at h
  have hstart : ∀ b ∈ allBlocks files, FreeOf [] b.locals := fun b hb => ⟨hfiles b hb, nofun⟩
  obtain ⟨after, hafter, hfree⟩ :=
    exists_freeOf_of_process (fun _ hkind => hkind) (by simp) h hstart
  have hlater : ∀ r ∈ afterReferences workDir, KeepsRecords r := fun r hr =>
    keepsRecords_builtin workDir r (builtin_eq workDir ▸ List.mem_append_right _ hr)
  obtain ⟨change, hchange⟩ := exists_change_of_forall hlater hafter
  have hgone := hchange.forall_allBlocks (resolvingKeeps_freeOf (by decide)) hfree
  intro b hb key hkey
  have hnone : Table.get? key b.locals = none :=
    (hgone b hb).2 key (by revert key; decide)
  rw [Table.contains, hnone, Option.isSome_none]

/-- A definition, an error structure and an endpoint with the given records. -/
def threeBlocks (limits failure endpoint : Table Json) : List ParsedFile :=
  [⟨"api.js",
    [{ globals := [("define", .obj [("name", .str "Limits")])], index := 1, locals := limits },
     { globals := [("defineErrorStructure", .obj [("name", .str "Failure")])], index := 2
       locals := failure },
     { index := 3, locals := endpoint }]⟩]

/-- An endpoint uses a definition, which refers to an error structure, which uses the definition in
turn. -/
def entangledCorpus : List ParsedFile :=
  threeBlocks [("errorStructure", .arr [.obj [("name", .str "Failure")]])]
    [("use", .arr [.obj [("name", .str "Limits")]]), ("title", .str "failed")]
    [("use", .arr [.obj [("name", .str "Limits")]]), ("url", .str "/a")]

/-- References that definitions bring along, and back, are consumed like all others. -/
theorem process_consumes_references_entangled :
    (∀ b ∈ allBlocks entangledCorpus, Table.Distinct b.locals) ∧
    ∃ resolved, process "0.0.0" (builtin "/") entangledCorpus = .ok resolved ∧
      ∀ b ∈ allBlocks resolved,
        ∀ key ∈ ["use", "errorStructure", "headerStructure", "successStructure"],
          Table.contains key b.locals = false := by
  have hdistinct : ∀ b ∈ allBlocks entangledCorpus, Table.Distinct b.locals := by
    unfold Table.Distinct
    decide
  -- resolving the uses brings the error structure into all three records
  have huse : runOne "0.0.0" (references useKind) entangledCorpus =
      (threeBlocks
        [("errorStructure", .arr [.obj [("name", .str "Failure")]])]
        [("title", .str "failed"), ("errorStructure", .arr [.obj [("name", .str "Failure")]])]
        [("url", .str "/a"), ("errorStructure", .arr [.obj [("name", .str "Failure")]])],
        none) := by
    cbv
  have herror : runOne "0.0.0"
      (references (structureKind "Error" "defineErrorStructure" "errorStructure"))
      (threeBlocks
        [("errorStructure", .arr [.obj [("name", .str "Failure")]])]
        [("title", .str "failed"), ("errorStructure", .arr [.obj [("name", .str "Failure")]])]
        [("url", .str "/a"), ("errorStructure", .arr [.obj [("name", .str "Failure")]])]) =
      (threeBlocks [("title", .str "failed")] [("title", .str "failed")]
        [("url", .str "/a"), ("title", .str "failed")], none) := by
    cbv
  have hprocess : process "0.0.0" (builtin "/") entangledCorpus =
      process "0.0.0" ((builtin "/").drop 2) (threeBlocks [("title", .str "failed")]
        [("title", .str "failed")] [("url", .str "/a"), ("title", .str "failed")]) := by
    simp only [builtin, referenceKinds, List.map_cons, List.cons_append, process, huse, herror,
      List.drop_succ_cons, List.drop_zero]
  have hsome : (process "0.0.0" (builtin "/") entangledCorpus).toOption.isSome = true := by
    rw [hprocess]
    decide +kernel
  cases hrun : process "0.0.0" (builtin "/") entangledCorpus with
  | error e =>
      rw [hrun] at hsome
      cases hsome
  | ok resolved =>
      exact ⟨hdistinct, resolved, rfl, process_consumes_references "/" "0.0.0" hdistinct hrun⟩

end ApiGloss.Resolve

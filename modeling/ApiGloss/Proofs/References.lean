import ApiGloss.Proofs.Blockwise
import ApiGloss.Proofs.BreadthFirst
import ApiGloss.Proofs.Definitions

/-!
# References Are Closed Transitively

A block that refers to definitions takes over everything that its references lead to. The
work list of `Resolve.follow` reads the next references out of the very record that it merges
into, and removes them again; this module shows that the outcome is nevertheless the plain
one: all definitions that the references lead to, each merged once and without its own
references, in breadth-first order.

The argument compares two records. One is the record of the work list, the other is merged
from definitions whose references were removed beforehand. The two are equal up to the order
of their entries at the start, and every step keeps them so (`Merged.step`); since the record
never holds references between two steps, what a step reads there are the references of the
definition just merged.

## Main results

* `Resolve.follow_spec`: what a run of the work list does, and why it fails.
* `Resolve.references_close_transitively`: the same for all blocks of a corpus.
-/

namespace ApiGloss.Resolve

open Search

/-! ### Definitions seen from a block -/

section Definitions

variable (t : DefinitionTable) (target version defaultVersion : String)

/-- A name **resolves** for blocks of a version if its definition is found. -/
def Resolves (name : String) : Prop :=
  ∃ d, lookup t name version defaultVersion = .found d

/-- The record that a name stands for; empty for a name that does not resolve. -/
def definitionOf (name : String) : Table Json :=
  match lookup t name version defaultVersion with
  | .found (.obj d) => d
  | _ => []

/-- The names that the definition of a name refers to. -/
def referencesOf (name : String) : List String :=
  referenceNames (Table.get? target (definitionOf t version defaultVersion name))

/-- Takes over the definition of a name, apart from its references. -/
def takeOver (record : Table Json) (name : String) : Table Json :=
  Json.mergeInto record (Table.erase target (definitionOf t version defaultVersion name))

/-- The definitions of a table have distinct names. -/
def DistinctDefinitions : Prop :=
  ∀ name, Table.Distinct (definitionOf t version defaultVersion name)

end Definitions

/-! ### The record of the work list -/

/-- The record of the work list beside the one without references: the same entries, and no
references. -/
structure Merged (target : String) (record plain : Table Json) : Prop where
  perm : record.Perm plain
  distinct : Table.Distinct plain
  settled : Table.get? target plain = none

/-- Removing its references prepares a record for the work list. -/
theorem Merged.start {locals : Table Json} (h : Table.Distinct locals) (target : String) :
    Merged target (Table.swapErase target locals) (Table.erase target locals) where
  perm := Table.swapErase_perm_erase target locals
  distinct := h.erase target
  settled := by rw [Table.get?_erase h, if_pos rfl]

namespace Merged

variable {target : String} {record plain d : Table Json}

/-- The record has distinct names as well. -/
theorem distinct_record (h : Merged target record plain) : Table.Distinct record :=
  h.distinct.of_perm h.perm.symm

/-- The references in a merged record are those of the definition just merged. -/
theorem get?_target (h : Merged target record plain) (hd : Table.Distinct d) :
    Table.get? target (Json.mergeInto record d) = Table.get? target d := by
  rw [Json.get?_mergeInto hd, Table.get?_of_perm h.distinct_record h.perm, h.settled,
    Json.mergeEntry_none_left]

/-- **One step** of the work list: merging a definition and then removing the references is
merging the definition without its references. -/
theorem step (h : Merged target record plain) (hd : Table.Distinct d) :
    Merged target (Table.swapErase target (Json.mergeInto record d))
      (Json.mergeInto plain (Table.erase target d)) := by
  have hmerged : Table.Distinct (Json.mergeInto record d) :=
    Json.distinct_mergeInto h.distinct_record d
  have hplain : Table.Distinct (Json.mergeInto plain (Table.erase target d)) :=
    Json.distinct_mergeInto h.distinct _
  have hget : ∀ key, Table.get? key (Json.mergeInto plain (Table.erase target d)) =
      if target = key then none else Table.get? key (Json.mergeInto record d) := by
    intro key
    rw [Json.get?_mergeInto (hd.erase target), Table.get?_erase hd, Json.get?_mergeInto hd,
      Table.get?_of_perm h.distinct_record h.perm]
    split
    · rename_i hkey
      rw [← hkey, h.settled, Json.mergeEntry_none_left]
    · rfl
  refine ⟨Table.perm_of_get?_eq (hmerged.swapErase target) hplain fun key => ?_, hplain, ?_⟩
  · rw [Table.get?_swapErase hmerged, hget key]
  · rw [hget target, if_pos rfl]

end Merged

/-! ### The work list -/

section WorkList

variable {t : DefinitionTable} {target version defaultVersion : String}

/-- **What a run of the work list does.** If it succeeds, it has followed a list of reachable
names, which all resolve and which are the first mentions in the work list and in their own
references; and it has taken over their definitions in that order. If it fails, some reachable
name does not resolve. -/
theorem follow_spec (hdefs : DistinctDefinitions t version defaultVersion)
    (visited pending : List String) (record plain : Table Json)
    (h : Merged target record plain) :
    ((follow t target version defaultVersion visited pending record).2 = none →
      ∃ order,
        order = firsts visited
          (pending ++ order.flatMap (referencesOf t target version defaultVersion)) ∧
        (∀ n ∈ order, Reachable pending (referencesOf t target version defaultVersion) n) ∧
        (∀ n ∈ order, Resolves t version defaultVersion n) ∧
        (follow t target version defaultVersion visited pending record).1.Perm
          (order.foldl (takeOver t target version defaultVersion) plain)) ∧
    ((follow t target version defaultVersion visited pending record).2 ≠ none →
      ∃ n, Reachable pending (referencesOf t target version defaultVersion) n ∧
        ¬ Resolves t version defaultVersion n) := by
  fun_induction follow t target version defaultVersion visited pending record
    generalizing plain with
  | case1 visited record =>
      refine ⟨fun _ => ⟨[], rfl, by simp, by simp, h.perm⟩, fun hf => absurd rfl hf⟩
  | case2 visited record name rest hv ih =>
      have hmem : name ∈ visited := List.contains_iff_mem.mp hv
      obtain ⟨hok, hfail⟩ := ih plain h
      refine ⟨fun hs => ?_, fun hf => ?_⟩
      · obtain ⟨order, horder, hreach, hres, hperm⟩ := hok hs
        refine ⟨order, ?_, fun n hn => (hreach n hn).cons, hres, hperm⟩
        rw [List.cons_append, firsts, if_pos hmem]
        exact horder
      · obtain ⟨n, hn, hnot⟩ := hfail hf
        exact ⟨n, hn.cons, hnot⟩
  | case3 visited record name rest hv hl =>
      refine ⟨fun hs => (by cases hs), fun _ => ⟨name, Reachable.root List.mem_cons_self, ?_⟩⟩
      rintro ⟨d, hd⟩
      rw [hl] at hd
      cases hd
  | case4 visited record name rest hv defined hl =>
      refine ⟨fun hs => (by cases hs), fun _ => ⟨name, Reachable.root List.mem_cons_self, ?_⟩⟩
      rintro ⟨d, hd⟩
      rw [hl] at hd
      cases hd
  | case5 visited record name rest hv d hl merged ih =>
      have hnew : name ∉ visited := fun hmem => hv (List.contains_iff_mem.mpr hmem)
      -- a definition that is no record leaves everything as it is, like an empty one
      have hmerged : merged =
          Json.mergeInto record (definitionOf t version defaultVersion name) := by
        simp only [merged, mergeDefinition, definitionOf, hl]
        cases d <;> rfl
      have hd : Table.Distinct (definitionOf t version defaultVersion name) := hdefs name
      have hrefs : referenceNames (Table.get? target merged) =
          referencesOf t target version defaultVersion name := by
        rw [hmerged, h.get?_target hd, referencesOf]
      have hstep : Merged target (Table.swapErase target merged)
          (takeOver t target version defaultVersion plain name) := by
        rw [hmerged]
        exact h.step hd
      obtain ⟨hok, hfail⟩ := ih (takeOver t target version defaultVersion plain name) hstep
      rw [hrefs] at hok hfail ⊢
      refine ⟨fun hs => ?_, fun hf => ?_⟩
      · obtain ⟨order, horder, hreach, hres, hperm⟩ := hok hs
        refine ⟨name :: order, ?_, ?_, ?_, ?_⟩
        · rw [List.cons_append, firsts, if_neg hnew, List.flatMap_cons, ← List.append_assoc,
            ← horder]
        · exact List.forall_mem_cons.mpr ⟨Reachable.root List.mem_cons_self,
            fun n hn => (hreach n hn).of_advance⟩
        · exact List.forall_mem_cons.mpr ⟨⟨d, hl⟩, hres⟩
        · rw [List.foldl_cons]
          exact hperm
      · obtain ⟨n, hn, hnot⟩ := hfail hf
        exact ⟨n, hn.of_advance, hnot⟩

end WorkList

/-! ### A corpus -/

section Corpus

variable (kind : ReferenceKind) (defaultVersion : String) (t : DefinitionTable)

/-- The names that the references of a block lead to. All of them are looked up for the
version of this block, whatever the versions of the definitions on the way. -/
def LeadsTo (b : BlockRecord) (name : String) : Prop :=
  Reachable (referenceNames (Table.get? kind.target b.locals))
    (referencesOf t kind.target (versionOf defaultVersion b) defaultVersion) name

/-- The breadth-first order of the names that the references of a block lead to. -/
def ReferenceOrder (b : BlockRecord) (order : List String) : Prop :=
  IsBreadthFirst (referenceNames (Table.get? kind.target b.locals))
    (referencesOf t kind.target (versionOf defaultVersion b) defaultVersion) order

/-- The record of a block after taking over the definitions of a list of names, in order, from
a record without references. -/
def mergedRecord (b : BlockRecord) (order : List String) : Table Json :=
  order.foldl (takeOver t kind.target (versionOf defaultVersion b) defaultVersion)
    (Table.erase kind.target b.locals)

/-- How a block is **settled**: without references it stays as it is; with references its
record is, up to the order of its entries, its own record with all definitions that the
references lead to, in breadth-first order. -/
structure SettledBlock (b settled : BlockRecord) : Prop where
  globals_eq : settled.globals = b.globals
  root_eq : settled.root = b.root
  index_eq : settled.index = b.index
  unchanged : Table.contains kind.target b.locals = false → settled = b
  closed : Table.contains kind.target b.locals = true →
    ∃ order, ReferenceOrder kind defaultVersion t b order ∧
      settled.locals.Perm (mergedRecord kind defaultVersion t b order)

variable {kind defaultVersion t}

/-- The work list of one block succeeds exactly if everything its references lead to
resolves. -/
theorem settleReferences_snd_eq_none_iff {path : String} {b : BlockRecord}
    (hdefs : DistinctDefinitions t (versionOf defaultVersion b) defaultVersion)
    (hb : Table.Distinct b.locals) :
    (settleReferences kind defaultVersion t path b).2 = none ↔
      (Table.contains kind.target b.locals = true →
        ∀ name, LeadsTo kind defaultVersion t b name →
          Resolves t (versionOf defaultVersion b) defaultVersion name) := by
  unfold settleReferences
  split
  · rename_i hc
    obtain ⟨hok, hfail⟩ := follow_spec hdefs [] (referenceNames (Table.get? kind.target b.locals))
      _ _ (Merged.start hb kind.target)
    simp only [Option.map_eq_none_iff, hc, forall_const]
    refine ⟨fun hs => ?_, fun hall => ?_⟩
    · obtain ⟨order, hfix, hreach, hres, -⟩ := hok hs
      have horder := isBreadthFirst_of_fixpoint hfix hreach
      exact fun name hname => hres name ((horder.mem_iff name).mpr hname)
    · by_contra hf
      obtain ⟨name, hname, hnot⟩ := hfail hf
      exact hnot (hall name hname)
  · rename_i hc
    exact ⟨fun _ h => absurd h hc, fun _ => rfl⟩

/-- A block without failure is settled. -/
theorem settledBlock_of_none {path : String} {b : BlockRecord}
    (hdefs : DistinctDefinitions t (versionOf defaultVersion b) defaultVersion)
    (hb : Table.Distinct b.locals)
    (h : (settleReferences kind defaultVersion t path b).2 = none) :
    SettledBlock kind defaultVersion t b (settleReferences kind defaultVersion t path b).1 := by
  unfold settleReferences at h ⊢
  split at h
  · rename_i hc
    rw [if_pos hc]
    obtain ⟨hok, -⟩ := follow_spec hdefs [] (referenceNames (Table.get? kind.target b.locals))
      _ _ (Merged.start hb kind.target)
    obtain ⟨order, hfix, hreach, -, hperm⟩ := hok (Option.map_eq_none_iff.mp h)
    refine ⟨rfl, rfl, rfl, fun hn => ?_, fun _ => ?_⟩
    · rw [hn] at hc
      cases hc
    · exact ⟨order, isBreadthFirst_of_fixpoint hfix hreach, hperm⟩
  · rename_i hc
    rw [if_neg hc]
    exact ⟨rfl, rfl, rfl, fun _ => rfl, fun hn => absurd hn hc⟩

/-- The definitions of a corpus have distinct names if the records of its blocks have. -/
theorem distinctDefinitions_gather {files : List ParsedFile}
    (hfiles : ∀ b ∈ allBlocks files, Table.Distinct b.locals) (version : String) :
    DistinctDefinitions ((references kind).gather defaultVersion files) version
      defaultVersion := by
  intro name
  unfold definitionOf
  split
  · rename_i d hl
    obtain ⟨b, hb, -, -, hd⟩ := exists_block_of_lookup hl
    obtain rfl : d = b.locals := Json.obj.inj hd
    exact hfiles b hb
  · exact List.nodup_nil

end Corpus

/-- **References are closed transitively.** Over any corpus of records (tables with distinct
names), which may refer to each other in circles, the resolver of a kind of references
succeeds exactly if, for every block with references, every name that they lead to resolves
for the version of that block. Files and blocks then keep their places, and each block is
settled: its record takes over every definition that its references lead to, once, in
breadth-first order. -/
theorem references_close_transitively (kind : ReferenceKind) (defaultVersion : String)
    (files : List ParsedFile) (hfiles : ∀ b ∈ allBlocks files, Table.Distinct b.locals) :
    ((runOne defaultVersion (references kind) files).2 = none ↔
      ∀ b ∈ allBlocks files, Table.contains kind.target b.locals = true →
        ∀ name,
          LeadsTo kind defaultVersion ((references kind).gather defaultVersion files) b name →
          Resolves ((references kind).gather defaultVersion files)
            (versionOf defaultVersion b) defaultVersion name) ∧
    ((runOne defaultVersion (references kind) files).2 = none →
      List.Forall₂ (fun file settled =>
          settled.path = file.path ∧
          List.Forall₂
            (SettledBlock kind defaultVersion ((references kind).gather defaultVersion files))
            file.blocks settled.blocks)
        files (runOne defaultVersion (references kind) files).1) := by
  have hdefs : ∀ version, DistinctDefinitions ((references kind).gather defaultVersion files)
      version defaultVersion := distinctDefinitions_gather hfiles
  have hmem : ∀ file ∈ files, ∀ b ∈ file.blocks, b ∈ allBlocks files :=
    fun file hfile b hb => List.mem_flatMap.mpr ⟨file, hfile, hb⟩
  obtain ⟨hok, hsettled⟩ := references_settlesBy kind defaultVersion
    ((references kind).gather defaultVersion files) files
  unfold runOne
  refine ⟨?_, fun hs => ?_⟩
  · refine hok.trans ⟨fun h b hb => ?_, fun h file hfile b hb => ?_⟩
    · obtain ⟨file, hfile, hb'⟩ := List.mem_flatMap.mp hb
      exact (settleReferences_snd_eq_none_iff (hdefs _) (hfiles b hb)).mp (h file hfile b hb')
    · have hb' := hmem file hfile b hb
      exact (settleReferences_snd_eq_none_iff (hdefs _) (hfiles b hb')).mpr (h b hb')
  · rw [hsettled hs]
    refine List.forall₂_map_right_iff.mpr (List.forall₂_same.mpr fun file hfile => ⟨rfl, ?_⟩)
    refine List.forall₂_map_right_iff.mpr (List.forall₂_same.mpr fun b hb => ?_)
    exact settledBlock_of_none (hdefs _) (hfiles b (hmem file hfile b hb))
      (hok.mp hs file hfile b hb)

/-- Two definitions that refer to each other, and a block that uses one of them. -/
def circularCorpus : List ParsedFile :=
  [⟨"defs.js",
    [{ globals := [("define", .obj [("name", .str "Outer")])], index := 1
       locals := [("use", .arr [.obj [("name", .str "Inner")]]), ("title", .str "outer")] },
     { globals := [("define", .obj [("name", .str "Inner")])], index := 2
       locals := [("header", .obj []), ("use", .arr [.obj [("name", .str "Outer")]])] }]⟩,
   ⟨"api.js",
    [{ locals := [("use", .arr [.obj [("name", .str "Outer")]]), ("url", .str "/a")]
       index := 1 }]⟩]

/-- Circular references are closed like all others. -/
theorem references_close_transitively_circular :
    (∀ b ∈ allBlocks circularCorpus, Table.Distinct b.locals) ∧
    (runOne "0.0.0" (references useKind) circularCorpus).2 = none ∧
    List.Forall₂ (fun file settled =>
        settled.path = file.path ∧
        List.Forall₂
          (SettledBlock useKind "0.0.0" ((references useKind).gather "0.0.0" circularCorpus))
          file.blocks settled.blocks)
      circularCorpus (runOne "0.0.0" (references useKind) circularCorpus).1 := by
  have hdistinct : ∀ b ∈ allBlocks circularCorpus, Table.Distinct b.locals := by
    unfold Table.Distinct
    decide
  have hrun : match runOne "0.0.0" (references useKind) circularCorpus with
      | (_, failure) => failure = none := by cbv
  have hnone : (runOne "0.0.0" (references useKind) circularCorpus).2 = none := hrun
  exact ⟨hdistinct, hnone,
    (references_close_transitively useKind "0.0.0" circularCorpus hdistinct).2 hnone⟩

end ApiGloss.Resolve

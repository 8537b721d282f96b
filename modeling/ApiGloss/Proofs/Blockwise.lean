import ApiGloss.Resolve.Order
import Mathlib.Data.List.Forall2

/-!
# The Built-in Resolvers Work Block by Block

A resolver changes blocks in order and stops at the first one that fails. When none fails, the
stopping leaves no trace (`eachBlock_fst_of_none`): every block is changed by itself, and files
and blocks keep their places.

Every built-in resolver is given by a change of single blocks, which reads the table and the
block only: it succeeds if no block fails, and then replaces each block by the changed one. No
change touches what a block defines, its values for the block as a whole, or its position.

Facts about a run of resolvers are therefore facts about changes of blocks, carried from one
resolver to the next by `process_invariant`.
-/

namespace ApiGloss.Resolve

/-! ### Until the first failure -/

/-- Going through a list fails exactly if some item fails. -/
theorem untilFailure_snd_eq_none_iff {α ε : Type} {f : α → α × Option ε} {l : List α} :
    (untilFailure f l).2 = none ↔ ∀ a ∈ l, (f a).2 = none := by
  induction l with
  | nil => simp [untilFailure]
  | cons a rest ih =>
      rw [untilFailure]
      cases ha : f a with
      | mk a' failure =>
          cases failure with
          | none =>
              simp only [ih, List.forall_mem_cons, ha, true_and]
          | some e =>
              simp only [List.forall_mem_cons, ha, reduceCtorEq, false_and]

/-- Without a failure, every item is changed by itself. -/
theorem untilFailure_fst_of_none {α ε : Type} {f : α → α × Option ε} {l : List α}
    (h : (untilFailure f l).2 = none) : (untilFailure f l).1 = l.map fun a => (f a).1 := by
  induction l with
  | nil => rfl
  | cons a rest ih =>
      rw [untilFailure] at h ⊢
      cases ha : f a with
      | mk a' failure =>
          cases failure with
          | none =>
              rw [ha] at h
              simp only [List.map_cons, ha, ih h]
          | some e =>
              rw [ha] at h
              cases h

/-- Changes every block of a file by itself. -/
def mapFile (f : String → BlockRecord → BlockRecord) (file : ParsedFile) : ParsedFile :=
  { file with blocks := file.blocks.map (f file.path) }

@[simp] theorem path_mapFile (f : String → BlockRecord → BlockRecord) (file : ParsedFile) :
    (mapFile f file).path = file.path := rfl

@[simp] theorem blocks_mapFile (f : String → BlockRecord → BlockRecord) (file : ParsedFile) :
    (mapFile f file).blocks = file.blocks.map (f file.path) := rfl

/-- Leaving every block as it is. -/
theorem map_mapFile_id (files : List ParsedFile) : files.map (mapFile fun _ b => b) = files := by
  refine (List.map_congr_left fun file _ => ?_).trans (List.map_id files)
  simp only [mapFile, List.map_id', id]

/-- Changing every block twice. -/
theorem map_mapFile_mapFile (f g : String → BlockRecord → BlockRecord) (files : List ParsedFile) :
    (files.map (mapFile f)).map (mapFile g) =
      files.map (mapFile fun path b => g path (f path b)) := by
  rw [List.map_map]
  refine List.map_congr_left fun file _ => ?_
  simp only [Function.comp_apply, mapFile, List.map_map]
  rfl

/-- The blocks of changed files. -/
theorem allBlocks_mapFile (f : String → BlockRecord → BlockRecord) (files : List ParsedFile) :
    allBlocks (files.map (mapFile f)) =
      files.flatMap fun file => file.blocks.map (f file.path) := by
  unfold allBlocks
  rw [List.flatMap_map]
  rfl

variable {f : String → BlockRecord → BlockRecord × Option Error} {files : List ParsedFile}

/-- **Settling succeeds** exactly if no block fails. -/
theorem eachBlock_snd_eq_none_iff :
    (eachBlock f files).2 = none ↔
      ∀ file ∈ files, ∀ b ∈ file.blocks, (f file.path b).2 = none := by
  rw [eachBlock, untilFailure_snd_eq_none_iff]
  exact forall₂_congr fun file _ => untilFailure_snd_eq_none_iff

/-- **A successful settling** changes every block by itself and keeps all places. -/
theorem eachBlock_fst_of_none (h : (eachBlock f files).2 = none) :
    (eachBlock f files).1 = files.map (mapFile fun path b => (f path b).1) := by
  have hblocks := eachBlock_snd_eq_none_iff.mp h
  rw [eachBlock] at h ⊢
  rw [untilFailure_fst_of_none h]
  refine List.map_congr_left fun file hfile => ?_
  simp only [mapFile, untilFailure_fst_of_none
    (untilFailure_snd_eq_none_iff.mpr (hblocks file hfile))]

/-! ### Changes of blocks -/

/-- A change of a block in a file, given the default version and the table. -/
abbrev BlockChange :=
  String → DefinitionTable → String → BlockRecord → BlockRecord × Option Error

/-- A resolver **settles blocks by** a change: it succeeds if the change fails on no block, and
then applies it to each of them. -/
def SettlesBy (r : Resolver) (change : BlockChange) : Prop :=
  ∀ defaultVersion t files,
    ((r.settle defaultVersion t files).2 = none ↔
      ∀ file ∈ files, ∀ b ∈ file.blocks, (change defaultVersion t file.path b).2 = none) ∧
    ((r.settle defaultVersion t files).2 = none →
      (r.settle defaultVersion t files).1 =
        files.map (mapFile fun path b => (change defaultVersion t path b).1))

/-! ### The changes -/

/-- Gives a block its group and then the texts of its group. -/
def settleGroup (workDir defaultVersion : String) (t : DefinitionTable) (path : String)
    (b : BlockRecord) : BlockRecord × Option Error :=
  titleGroup defaultVersion t path (assignGroup workDir path b)

/-- References are settled block by block. -/
theorem references_settlesBy (kind : ReferenceKind) :
    SettlesBy (references kind) (settleReferences kind) :=
  fun _ _ _ => ⟨eachBlock_snd_eq_none_iff, eachBlock_fst_of_none⟩

/-- Field groups are settled block by block. -/
theorem titles_settlesBy (kind : FieldKind) : SettlesBy (titles kind) (titleFields kind) :=
  fun _ _ _ => ⟨eachBlock_snd_eq_none_iff, eachBlock_fst_of_none⟩

/-- Groups are assigned to all blocks before the first one gets its texts, but no block reads
the group of another one. -/
theorem groups_settlesBy (workDir : String) :
    SettlesBy (groups workDir) (settleGroup workDir) := by
  intro defaultVersion t files
  have hassign : (files.map fun f => { f with blocks := f.blocks.map (assignGroup workDir f.path) })
      = files.map (mapFile (assignGroup workDir)) := rfl
  unfold groups
  dsimp only
  rw [hassign]
  refine ⟨?_, fun hs => ?_⟩
  · rw [eachBlock_snd_eq_none_iff]
    simp only [List.forall_mem_map, path_mapFile, blocks_mapFile]
    rfl
  · rw [eachBlock_fst_of_none hs, map_mapFile_mapFile]
    rfl

/-- Names are given block by block, and nothing fails. -/
theorem names_settlesBy : SettlesBy names fun _ _ _ b => (assignName b, none) :=
  fun _ _ _ => ⟨⟨fun _ _ _ _ _ => rfl, fun _ => rfl⟩, fun _ => rfl⟩

/-! ### What changes leave alone -/

/-- Two records of the **same frame** hold the same definitions and values for the block as a
whole, at the same position; the records of their endpoints may differ. -/
structure SameFrame (b c : BlockRecord) : Prop where
  globals_eq : c.globals = b.globals
  root_eq : c.root = b.root
  index_eq : c.index = b.index

namespace SameFrame

theorem refl (b : BlockRecord) : SameFrame b b := ⟨rfl, rfl, rfl⟩

theorem trans {a b c : BlockRecord} (hab : SameFrame a b) (hbc : SameFrame b c) :
    SameFrame a c :=
  ⟨hbc.globals_eq.trans hab.globals_eq, hbc.root_eq.trans hab.root_eq,
    hbc.index_eq.trans hab.index_eq⟩

/-- A changed endpoint record leaves the frame alone. -/
theorem of_locals (b : BlockRecord) (locals : Table Json) :
    SameFrame b { b with locals := locals } := ⟨rfl, rfl, rfl⟩

end SameFrame

/-- A change **keeps frames**. -/
def KeepsFrames (change : BlockChange) : Prop :=
  ∀ defaultVersion t path b, SameFrame b (change defaultVersion t path b).1

/-- Settling references keeps frames. -/
theorem settleReferences_keepsFrames (kind : ReferenceKind) :
    KeepsFrames (settleReferences kind) := by
  intro defaultVersion t path b
  unfold settleReferences
  split
  · exact SameFrame.of_locals b _
  · exact SameFrame.refl b

/-- Settling field groups keeps frames. -/
theorem titleFields_keepsFrames (kind : FieldKind) : KeepsFrames (titleFields kind) := by
  intro defaultVersion t path b
  unfold titleFields
  split
  · exact SameFrame.refl b
  · split
    · exact SameFrame.refl b
    · dsimp only
      split
      · exact SameFrame.refl b
      · exact SameFrame.of_locals b _

/-- Settling groups keeps frames. -/
theorem settleGroup_keepsFrames (workDir : String) : KeepsFrames (settleGroup workDir) := by
  intro defaultVersion t path b
  have hassign : SameFrame b (assignGroup workDir path b) := by
    unfold assignGroup
    split
    · exact SameFrame.of_locals b _
    · exact SameFrame.refl b
  refine hassign.trans ?_
  unfold settleGroup titleGroup
  split
  · exact SameFrame.refl _
  · split
    · exact SameFrame.refl _
    · exact SameFrame.of_locals _ _

/-- Giving names keeps frames. -/
theorem assignName_keepsFrames : KeepsFrames fun _ _ _ b => (assignName b, none) := by
  intro defaultVersion t path b
  unfold assignName
  dsimp only
  split
  · exact SameFrame.of_locals b _
  · exact SameFrame.refl b

/-! ### Runs of resolvers -/

/-- A property of all built-in resolvers, from one case for each kind of resolver. -/
theorem forall_builtin {workDir : String} {P : Resolver → Prop}
    (hreferences : ∀ kind ∈ referenceKinds, P (references kind))
    (hgroups : P (groups workDir)) (htitles : ∀ kind, P (titles kind)) (hnames : P names) :
    ∀ r ∈ builtin workDir, P r := by
  intro r hr
  simp only [builtin, List.mem_append, List.mem_map, List.mem_singleton] at hr
  rcases hr with ((⟨kind, hkind, rfl⟩ | rfl) | ⟨kind, -, rfl⟩) | rfl
  · exact hreferences kind hkind
  · exact hgroups
  · exact htitles kind
  · exact hnames

/-- The built-in resolvers that run when all references are resolved. -/
def afterReferences (workDir : String) : List Resolver :=
  groups workDir :: (FieldKind.all.map titles ++ [names])

/-- The built-in resolvers resolve references first. -/
theorem builtin_eq (workDir : String) :
    builtin workDir = referenceKinds.map references ++ afterReferences workDir := by
  simp only [builtin, afterReferences, List.append_assoc, List.cons_append, List.nil_append]

/-- A run succeeds if its first resolver does and the others do afterwards. -/
theorem process_cons_eq_ok_iff {defaultVersion : String} {r : Resolver} {rest : List Resolver}
    {files resolved : List ParsedFile} :
    process defaultVersion (r :: rest) files = .ok resolved ↔
      (runOne defaultVersion r files).2 = none ∧
        process defaultVersion rest (runOne defaultVersion r files).1 = .ok resolved := by
  rw [process]
  cases runOne defaultVersion r files with
  | mk after failure =>
      cases failure with
      | none => simp only [true_and]
      | some e => simp only [reduceCtorEq, false_and]

/-- **What every resolver keeps, a run keeps.** -/
theorem process_invariant {I : List ParsedFile → Prop} {defaultVersion : String}
    {resolvers : List Resolver} {files resolved : List ParsedFile}
    (hstep : ∀ r ∈ resolvers, ∀ before after, I before →
      runOne defaultVersion r before = (after, none) → I after)
    (hrun : process defaultVersion resolvers files = .ok resolved) (hstart : I files) :
    I resolved := by
  induction resolvers generalizing files with
  | nil =>
      rw [process, Except.ok.injEq] at hrun
      exact hrun ▸ hstart
  | cons r rest ih =>
      obtain ⟨hone, hrest⟩ := process_cons_eq_ok_iff.mp hrun
      refine ih (fun r' hr' => hstep r' (List.mem_cons_of_mem _ hr')) hrest ?_
      exact hstep r List.mem_cons_self files _ hstart (Prod.ext rfl hone)

end ApiGloss.Resolve

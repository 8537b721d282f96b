import ApiGloss.Proofs.Blockwise
import ApiGloss.Proofs.Tables

/-!
# Which Records Are Read

Endpoint blocks are selected by position before the resolvers run, and their records are read
from the same positions afterwards. Since the clean-ups and the resolvers keep every block in
its place, the records that are read are those of the blocks that were endpoint blocks when
the files were read, in order.

## Main results

* `Filter.process_builtin`: the built-in clean-ups change every block by itself, and which
  blocks are endpoint blocks stays as it is (`Filter.isEndpoint_cleanAll`).
* `Filter.records_mapFile`, `Filter.records_mapFile_cleanAll`: reading changed blocks at the
  positions selected before.
-/

namespace ApiGloss

namespace Filter

open Resolve

/-! ### The built-in clean-ups -/

/-- All built-in clean-ups of one block. -/
def cleanAll (b : BlockRecord) : BlockRecord :=
  FieldKind.all.foldl (fun b kind => cleanBlock kind b) b

/-- Changing blocks twice is changing them once by both changes. -/
theorem mapBlocks_mapBlocks (f g : BlockRecord → BlockRecord) (files : List ParsedFile) :
    mapBlocks g (mapBlocks f files) = mapBlocks (fun b => g (f b)) files := by
  simp only [mapBlocks, List.map_map]
  refine List.map_congr_left fun file _ => ?_
  simp only [Function.comp_apply, List.map_map]
  rfl

/-- **The built-in clean-ups** change every block by itself. -/
theorem process_builtin (files : List ParsedFile) :
    process builtin files =
      (files.map (mapFile fun _ => cleanAll),
        selection (files.map (mapFile fun _ => cleanAll))) := by
  have hclean : builtin.foldl (fun files f => f.apply files) files =
      files.map (mapFile fun _ => cleanAll) := by
    simp only [builtin, FieldKind.all, List.map_cons, List.map_nil, List.foldl_cons,
      List.foldl_nil, repeatedFields, mapBlocks_mapBlocks]
    rfl
  rw [process, hclean]

/-- A clean-up leaves everything but the endpoint record alone. -/
theorem sameFrame_cleanBlock (kind : FieldKind) (b : BlockRecord) :
    SameFrame b (cleanBlock kind b) :=
  SameFrame.of_locals b _

/-- All clean-ups together leave everything but the endpoint record alone. -/
theorem sameFrame_cleanAll (b : BlockRecord) : SameFrame b (cleanAll b) :=
  (((sameFrame_cleanBlock .parameter b).trans (sameFrame_cleanBlock .header _)).trans
    (sameFrame_cleanBlock .success _)).trans (sameFrame_cleanBlock .error _)

/-- A clean-up makes no endpoint block and unmakes none. -/
theorem isEndpoint_cleanBlock (kind : FieldKind) (b : BlockRecord) :
    isEndpoint (cleanBlock kind b) = isEndpoint b := by
  have hempty : (Table.modify kind.sectionName cleanSection b.locals).isEmpty =
      b.locals.isEmpty := by
    have hlen := congrArg List.length
      (Table.keys_modify kind.sectionName cleanSection b.locals)
    rw [Table.keys, Table.keys, List.length_map, List.length_map] at hlen
    rw [Bool.eq_iff_iff, List.isEmpty_iff_length_eq_zero, List.isEmpty_iff_length_eq_zero, hlen]
  unfold isEndpoint cleanBlock
  rw [hempty]

/-- All clean-ups together make no endpoint block and unmake none. -/
theorem isEndpoint_cleanAll (b : BlockRecord) : isEndpoint (cleanAll b) = isEndpoint b := by
  unfold cleanAll FieldKind.all
  simp only [List.foldl_cons, List.foldl_nil, isEndpoint_cleanBlock]

/-! ### Reading by position -/

/-- Going through a list with positions, but without looking at them, is going through the
list. -/
theorem flatMap_zipIdx {α β : Type} (f : α → List β) (l : List α) :
    (l.zipIdx.flatMap fun e => f e.1) = l.flatMap f := by
  conv => rhs; rw [← List.zipIdx_map_fst 0 l, List.flatMap_map]

/-- The selected blocks of one file, read after a change. -/
theorem filterMap_selected (f : BlockRecord → BlockRecord) (blocks : List BlockRecord) :
    (((blocks.zipIdx.filter fun e => isEndpoint e.1).map fun e => e.2).filterMap fun j =>
        ((blocks.map f)[j]?).map fun b => Json.obj b.locals) =
      (blocks.filter isEndpoint).map fun b => .obj (f b).locals := by
  have hread : ∀ e ∈ blocks.zipIdx.filter fun e => isEndpoint e.1,
      (((blocks.map f)[e.2]?).map fun b => Json.obj b.locals) =
        some (Json.obj (f e.1).locals) := by
    intro e he
    have hget : blocks[e.2]? = some e.1 :=
      List.mk_mem_zipIdx_iff_getElem?.mp (List.mem_of_mem_filter he)
    rw [List.getElem?_map, hget]
    rfl
  have hplaces : (blocks.zipIdx.filter fun e => isEndpoint e.1).map Prod.fst =
      blocks.filter isEndpoint := by
    have hfilter : (blocks.zipIdx.map Prod.fst).filter isEndpoint =
        (blocks.zipIdx.filter (isEndpoint ∘ Prod.fst)).map Prod.fst := List.filter_map
    rw [List.zipIdx_map_fst] at hfilter
    exact hfilter.symm
  calc _ = (blocks.zipIdx.filter fun e => isEndpoint e.1).filterMap
          fun e => some (Json.obj (f e.1).locals) := by
        rw [List.filterMap_map]
        exact List.filterMap_congr hread
    _ = (blocks.zipIdx.filter fun e => isEndpoint e.1).map
          fun e => Json.obj (f e.1).locals := by
        rw [List.filterMap_eq_map']
    _ = ((blocks.zipIdx.filter fun e => isEndpoint e.1).map Prod.fst).map
          fun b => Json.obj (f b).locals := by
        rw [List.map_map]
        rfl
    _ = _ := by rw [hplaces]

/-- **Reading changed blocks** at the positions selected before the change. -/
theorem records_mapFile (f : String → BlockRecord → BlockRecord) (files : List ParsedFile) :
    records (files.map (mapFile f)) (selection files) =
      files.flatMap fun file =>
        (file.blocks.filter isEndpoint).map fun b => .obj (f file.path b).locals := by
  rw [← flatMap_zipIdx fun file : ParsedFile =>
    (file.blocks.filter isEndpoint).map fun b => Json.obj (f file.path b).locals]
  unfold records selection
  rw [List.filterMap_flatMap]
  refine List.flatMap_congr fun e he => ?_
  have hget : files[e.2]? = some e.1 := List.mk_mem_zipIdx_iff_getElem?.mp he
  rw [← filterMap_selected (f e.1.path) e.1.blocks, List.filterMap_map, List.filterMap_map]
  refine List.filterMap_congr fun e' _ => ?_
  simp only [Function.comp_apply, List.getElem?_map, hget, Option.map_some, Option.bind_some,
    blocks_mapFile]

/-- **Reading cleaned and changed blocks** at the positions selected after the clean-up: the
endpoint blocks are those that were read. -/
theorem records_mapFile_cleanAll (f : String → BlockRecord → BlockRecord)
    (files : List ParsedFile) :
    records ((files.map (mapFile fun _ => cleanAll)).map (mapFile f))
        (selection (files.map (mapFile fun _ => cleanAll))) =
      files.flatMap fun file =>
        (file.blocks.filter isEndpoint).map fun b => .obj (f file.path (cleanAll b)).locals := by
  rw [records_mapFile, List.flatMap_map]
  refine List.flatMap_congr fun file _ => ?_
  have hendpoint : isEndpoint ∘ cleanAll = isEndpoint := funext isEndpoint_cleanAll
  rw [blocks_mapFile, path_mapFile, List.filter_map, hendpoint, List.map_map]
  rfl

end Filter

end ApiGloss

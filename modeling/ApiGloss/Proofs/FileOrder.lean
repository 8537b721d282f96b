import ApiGloss.Proofs.LookupOrder
import ApiGloss.Proofs.Outcome
import ApiGloss.Proofs.Selection

/-!
# The Order of Source Files Is of No Consequence

Definitions may stand in any source file. As long as no name is defined twice in one version,
it does not matter in which order the files are read: a run succeeds in one order if it
succeeds in another, and every file then contributes the same endpoint records. The records of
a run are those of its files, one after the other, so that they are reordered as the files are.

The argument follows the stages of a run. Every file is read by itself
(`Registry.sourcesOutcome_eq_ok_iff`), clean-ups and resolvers change every block by itself
(`Resolve.process_perm`), and records are read from the places of the endpoint blocks
(`Filter.records_mapFile`).

## Main results

* `Pipeline.endpoints_perm`: a run does not depend on the order of its source files.
-/

namespace ApiGloss

namespace Registry

variable (r : Registry)

/-- The file that a source file is read into, if it can be read and has blocks. -/
def file? (u : SourceUnit) : Option ParsedFile :=
  match r.sourceOutcome u with
  | .ok file => file
  | .error _ => none

/-- **Reading source files succeeds** if every one of them can be read, and then gives the
files that have blocks. -/
theorem sourcesOutcome_eq_ok_iff {units : List SourceUnit} {files : List ParsedFile} :
    r.sourcesOutcome units = .ok files ↔
      (∀ u ∈ units, ∃ file, r.sourceOutcome u = .ok file) ∧
        files = units.filterMap r.file? := by
  unfold sourcesOutcome
  rw [Run.bind_eq_ok_iff]
  constructor
  · rintro ⟨found, hfound, hfiles⟩
    obtain rfl : found.filterMap id = files := Except.ok.inj hfiles
    have hread := Run.mapM_eq_ok_iff.mp hfound
    clear hfound hfiles
    induction hread with
    | nil => exact ⟨fun u hu => (nomatch hu), rfl⟩
    | @cons u file rest found hu _ ih =>
        obtain ⟨hok, hrest⟩ := ih
        refine ⟨List.forall_mem_cons.mpr ⟨⟨file, hu⟩, hok⟩, ?_⟩
        rw [List.filterMap_cons, List.filterMap_cons, hrest, file?, hu]
        rfl
  · rintro ⟨hok, rfl⟩
    refine ⟨units.map r.file?, Run.mapM_eq_ok_iff.mpr ?_, ?_⟩
    · refine List.forall₂_map_right_iff.mpr (List.forall₂_same.mpr fun u hu => ?_)
      obtain ⟨file, hfile⟩ := hok u hu
      rw [file?, hfile]
    · show Except.ok ((units.map r.file?).filterMap id) = .ok (units.filterMap r.file?)
      rw [List.filterMap_map, Function.id_comp]

/-- The endpoint blocks of a source file as they are read. -/
def endpointBlocks (u : SourceUnit) : List BlockRecord :=
  match ((r.parseSource u).outcome {}).1 with
  | .ok (some file) => file.blocks.filter Filter.isEndpoint
  | _ => []

/-- The endpoint blocks of a source file are those of the file that it is read into. -/
theorem endpointBlocks_eq (u : SourceUnit) :
    r.endpointBlocks u = (r.file? u).toList.flatMap fun file =>
      file.blocks.filter Filter.isEndpoint := by
  unfold endpointBlocks file?
  rw [r.parseSource_yields u {}]
  cases r.sourceOutcome u with
  | error e => rfl
  | ok file =>
      cases file with
      | none => rfl
      | some file => simp only [Option.toList_some, List.flatMap_cons, List.flatMap_nil,
          List.append_nil]

end Registry

namespace Pipeline

open Resolve

/-- A pipeline with the built-in clean-ups and resolvers. -/
def withBuiltins (registry : Registry) (workDir defaultVersion : String) : Pipeline where
  registry := registry
  filters := Filter.builtin
  resolvers := Resolve.builtin workDir
  defaultVersion := defaultVersion

/-- **What comes of a run**: all source files are read, and the cleaned blocks are resolved; the
endpoint records are read from the places selected after the clean-up. -/
theorem endpointsOutcome_eq_ok_iff {registry : Registry} {workDir defaultVersion : String}
    {units : List SourceUnit} {records : List Json} :
    (withBuiltins registry workDir defaultVersion).endpointsOutcome units = .ok records ↔
      (∀ u ∈ units, ∃ file, registry.sourceOutcome u = .ok file) ∧
        ∃ resolved,
          Resolve.process defaultVersion (Resolve.builtin workDir)
            ((units.filterMap registry.file?).map (mapFile fun _ => Filter.cleanAll)) =
              .ok resolved ∧
          records = Filter.records resolved (Filter.selection
            ((units.filterMap registry.file?).map (mapFile fun _ => Filter.cleanAll))) := by
  unfold endpointsOutcome withBuiltins
  simp only [Run.bind_eq_ok_iff, registry.sourcesOutcome_eq_ok_iff, Filter.process_builtin,
    and_assoc, exists_and_left, exists_eq_left]
  refine and_congr_right fun _ => exists_congr fun resolved => and_congr_right fun _ => ?_
  exact ⟨fun h => (Except.ok.inj h).symm, fun h => h ▸ rfl⟩

/-- The records that a source file contributes if `change` is what the resolvers do to
blocks. -/
def contribution (registry : Registry) (change : String → BlockRecord → BlockRecord)
    (u : SourceUnit) : List Json :=
  (registry.file? u).toList.flatMap fun file =>
    (file.blocks.filter Filter.isEndpoint).map fun b =>
      .obj (change file.path (Filter.cleanAll b)).locals

/-- A source file contributes one record for each of its endpoint blocks. -/
theorem length_contribution (registry : Registry)
    (change : String → BlockRecord → BlockRecord) (u : SourceUnit) :
    (contribution registry change u).length = (registry.endpointBlocks u).length := by
  rw [contribution, registry.endpointBlocks_eq]
  simp only [List.length_flatMap, List.length_map]

/-- The records of a run are the contributions of its source files. -/
theorem records_eq_flatMap_contribution (registry : Registry)
    (change : String → BlockRecord → BlockRecord) (units : List SourceUnit) :
    Filter.records
        (((units.filterMap registry.file?).map (mapFile fun _ => Filter.cleanAll)).map
          (mapFile change))
        (Filter.selection
          ((units.filterMap registry.file?).map (mapFile fun _ => Filter.cleanAll))) =
      units.flatMap (contribution registry change) := by
  rw [Filter.records_mapFile_cleanAll, List.filterMap_eq_flatMap_toList, List.flatMap_assoc]
  rfl

/-- **A run does not depend on the order of its source files.** If no two blocks of the files
define the same name under the same version, a run succeeds on a reordered list if it succeeds
on the list, and every source file contributes the same records, one for each of its endpoint
blocks. -/
theorem endpoints_perm (registry : Registry) (workDir defaultVersion : String)
    {units others : List SourceUnit} (hp : units.Perm others) (j j' : Journal)
    (hsep : ∀ files, ((registry.parseSources units).outcome j).1 = .ok files →
      SeparateDefinitions defaultVersion (allBlocks files)) :
    ((∃ records, (((withBuiltins registry workDir defaultVersion).endpoints units).outcome j).1 =
        .ok records) ↔
      ∃ records, (((withBuiltins registry workDir defaultVersion).endpoints others).outcome j').1 =
        .ok records) ∧
    ∃ share : SourceUnit → List Json,
      (∀ u, (share u).length = (registry.endpointBlocks u).length) ∧
      (∀ records,
        (((withBuiltins registry workDir defaultVersion).endpoints units).outcome j).1 =
          .ok records → records = units.flatMap share) ∧
      (∀ records,
        (((withBuiltins registry workDir defaultVersion).endpoints others).outcome j').1 =
          .ok records → records = others.flatMap share) := by
  simp only [endpoints_yields _ _ j, endpoints_yields _ _ j', endpointsOutcome_eq_ok_iff,
    registry.parseSources_yields _ j, registry.sourcesOutcome_eq_ok_iff] at hsep ⊢
  have hsame : (∀ u ∈ units, ∃ file, registry.sourceOutcome u = .ok file) ↔
      ∀ u ∈ others, ∃ file, registry.sourceOutcome u = .ok file :=
    forall_congr' fun u => by rw [hp.mem_iff]
  by_cases hread : ∀ u ∈ units, ∃ file, registry.sourceOutcome u = .ok file
  · have hseparate : SeparateDefinitions defaultVersion
        (allBlocks ((units.filterMap registry.file?).map (mapFile fun _ => Filter.cleanAll))) :=
      (hsep _ ⟨hread, rfl⟩).mapFile fun _ b => Filter.sameFrame_cleanAll b
    obtain ⟨change, hiff, hchange, hchange'⟩ :=
      process_perm (orderFree_builtin workDir defaultVersion)
        ((hp.filterMap registry.file?).map (mapFile fun _ => Filter.cleanAll)) hseparate
    refine ⟨?_, contribution registry change, length_contribution registry change, ?_, ?_⟩
    · simp only [exists_and_left, exists_comm (α := List Json), exists_eq, and_true]
      rw [hsame, hiff]
    · rintro records ⟨-, resolved, hresolved, rfl⟩
      rw [hchange resolved hresolved, records_eq_flatMap_contribution]
    · rintro records ⟨-, resolved, hresolved, rfl⟩
      rw [hchange' resolved hresolved, records_eq_flatMap_contribution]
  · -- A file that cannot be read stops the run in every order.
    refine ⟨?_, contribution registry fun _ b => b, length_contribution registry _, ?_, ?_⟩
    · exact ⟨fun ⟨_, h, _⟩ => absurd h hread, fun ⟨_, h, _⟩ => absurd (hsame.mpr h) hread⟩
    · rintro records ⟨h, -⟩
      exact absurd h hread
    · rintro records ⟨h, -⟩
      exact absurd (hsame.mpr h) hread

/-- An endpoint, and two versions of a definition that it uses. -/
def versionedUnits : List SourceUnit :=
  [⟨"api.js", "/** @api {get} /a A\n @apiVersion 1.5.0\n @apiUse Limit */", "js"⟩,
   ⟨"old.js", "/** @apiDefine Limit\n @apiVersion 1.0.0 */", "js"⟩,
   ⟨"new.js", "/** @apiDefine Limit\n @apiVersion 2.0.0 */", "js"⟩]

/-- Several versions of a definition may come in any order. -/
theorem endpoints_perm_versioned :
    (∀ files, ((({} : Registry).parseSources versionedUnits).outcome {}).1 = .ok files →
      SeparateDefinitions "0.0.0" (allBlocks files)) ∧
    ((∃ records, (((withBuiltins {} "/" "0.0.0").endpoints versionedUnits).outcome {}).1 =
        .ok records) ↔
      ∃ records, (((withBuiltins {} "/" "0.0.0").endpoints versionedUnits.reverse).outcome {}).1 =
        .ok records) ∧
    ∃ share : SourceUnit → List Json,
      (∀ u, (share u).length = (({} : Registry).endpointBlocks u).length) ∧
      (∀ records, (((withBuiltins {} "/" "0.0.0").endpoints versionedUnits).outcome {}).1 =
        .ok records → records = versionedUnits.flatMap share) ∧
      (∀ records, (((withBuiltins {} "/" "0.0.0").endpoints versionedUnits.reverse).outcome {}).1 =
        .ok records → records = versionedUnits.reverse.flatMap share) := by
  have hread : ∀ files ∈ ((({} : Registry).parseSources versionedUnits).outcome {}).1.toOption,
      SeparateDefinitions "0.0.0" (allBlocks files) := by decide +kernel
  have hseparate : ∀ files, ((({} : Registry).parseSources versionedUnits).outcome {}).1 =
      .ok files → SeparateDefinitions "0.0.0" (allBlocks files) := by
    intro files h
    rw [h] at hread
    exact hread files rfl
  exact ⟨hseparate,
    endpoints_perm {} "/" "0.0.0" (List.reverse_perm versionedUnits).symm {} {} hseparate⟩

end Pipeline

end ApiGloss
